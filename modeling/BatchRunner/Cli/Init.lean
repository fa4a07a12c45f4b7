import BatchRunner.Cli.Session
import BatchRunner.Report

/-!
# Setting up a project

A project is given a configuration in which every option is spelled out.
-/

namespace BatchRunner.Cli

variable {W : Type}

/-- What is said of a project that has a configuration already. -/
def alreadyInitialized : String :=
  TaskReport.mark true ++ " Sluice already initialized in this directory.\n  Use --force to reinitialize.\n"

/-- The configuration of a new project. -/
def freshConfiguration (hostParallelism : Nat) : Configuration :=
  { Configuration.unset with queue := .ofOptions (.builtIn hostParallelism) }

/-- Writes the configuration of a project, over one that is there only if that is demanded. -/
def initProject (around : Surroundings W) (force : Bool) (session : Session W) : Bool × Session W :=
  let space := session.workspace around
  let store := Store.project (Files.render space.cwd)
  if store.contains space Configuration.fileName && !force then
    (true, session.say (.output alreadyInitialized))
  else
    let (result, space) := (freshConfiguration around.hostParallelism).saveProject space
    let session := session.withWorkspace around space
    match result with
    | .error error => session.fail none error
    | .ok () =>
      (true, session.say (.output
        (TaskReport.mark true ++ " Created " ++ store.filePath Configuration.fileName ++ "\n")))

end BatchRunner.Cli
