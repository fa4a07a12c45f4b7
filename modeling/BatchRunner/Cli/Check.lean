import BatchRunner.Cli.Session
import BatchRunner.Files.Lookup
import BatchRunner.Report

/-!
# Checking a batch

A batch is checked without running anything: each of its programs must be found.
-/

namespace BatchRunner

/-- The problems of an entry that would only show when its process is started. -/
def TaskEntry.problems (entry : TaskEntry) (space : Workspace) (searchPath : Option String) : List String :=
  match Files.findProgram space.tree space.cwd entry.program searchPath with
  | some _ => []
  | none => ["program '" ++ entry.program ++ "' not found or not executable"]

namespace Cli

variable {W : Type}

/-- What is said of one entry with its problems: a line for each of them, or one line if there is none. -/
def entryLines (index : Nat) (name : String) (problems : List String) : String :=
  let label := " [" ++ toString index ++ "] " ++ name
  if problems.isEmpty then TaskReport.mark true ++ label ++ "\n"
  else String.join (problems.map fun problem => TaskReport.mark false ++ label ++ ": " ++ problem ++ "\n")

/-- What is said of entries, the first of which has an index, and whether none has a problem. -/
def checkEntries (problems : TaskEntry → List String) : Nat → List TaskEntry → String × Bool
  | _, [] => ("", true)
  | index, entry :: entries =>
    let (text, valid) := checkEntries problems (index + 1) entries
    let found := problems entry
    (entryLines index entry.displayName found ++ text, found.isEmpty && valid)

/-- Checks the batch at a path, and tells whether it may be run. -/
def checkBatch (around : Surroundings W) (path : String) (session : Session W) : Bool × Session W :=
  let space := session.workspace around
  match Batch.load space path with
  | .error error => session.fail (some ("Invalid batch " ++ path)) error
  | .ok batch =>
    let (text, valid) := checkEntries (·.problems space around.searchPath) 0 batch.tasks
    let session := session.say (.output text)
    if valid then (true, session.say (.output ("\n" ++ toString batch.tasks.length ++ " tasks OK\n")))
    else (false, session.say (.complaint ("\nBatch " ++ path ++ " has problems\n")))

end Cli

end BatchRunner
