import BatchRunner.Cli.Program
import BatchRunner.Machine.Usual

/-!
# The command line

Takes arguments, variables and files from outside, lets the program run on a machine that has them, says what
the program says, and writes the files that it has changed.
-/

namespace BatchRunner.Outside

/-- The bytes of a file outside, if there is one that can be read. -/
def readFile? (path : String) : IO (Option ByteArray) := do
  try
    return some (← IO.FS.readBinFile path)
  catch _ =>
    return none

/-- The variables that this program was started with. -/
def vars : IO Variables := do
  let text := Text.ofBytes ((← readFile? "/proc/self/environ").getD .empty)
  return (text.splitOn "\x00").filterMap fun entry => (Environment.parseEntry entry).toOption

/-- How many threads run at once outside. -/
def parallelism : IO Nat := do
  let text := Text.ofBytes ((← readFile? "/proc/cpuinfo").getD .empty)
  return max 1 ((Text.lines text).countP fun line => line.startsWith "processor")

/-- Brings a file to a machine, with permissions, unless the machine has something in its place. -/
def bring (mode : Nat) (m : Machine) (path : String) : IO Machine := do
  if Files.pathExists m.tree m.cwd path then return m
  match ← readFile? path with
  | none => return m
  | some content =>
    let place := (if Files.isAbsolute path then [] else m.cwd) ++ Files.names path
    match Files.makeDirectories m.tree [] place.dropLast with
    | .ok tree => return { m with tree := tree.put place (.file mode content) }
    | .error _ => return m

/-- The permissions of a program. -/
def programMode : Nat := 0o755

/-- The places of the programs of the batch in a file of a machine. -/
def programPaths (m : Machine) (searchPath : Option String) (path : String) : List String :=
  match Batch.load (Machine.workspacePart.get m) path with
  | .ok batch => batch.tasks.flatMap fun entry => Files.candidates m.cwd entry.program searchPath
  | .error _ => []

/-- The directory for the configurations of a user. -/
def configDirectory (vars : Variables) : Option String :=
  match vars.lookup "XDG_CONFIG_HOME" with
  | some directory =>
    if Files.isAbsolute directory then some directory
    else (vars.lookup "HOME").map (Files.join · ".config")
  | none => (vars.lookup "HOME").map (Files.join · ".config")

/-- Writes the files of a machine that differ from those it had before. -/
def writeChanges (before after : Machine) : IO Unit :=
  after.tree.entries.forM fun (place, entry) => do
    if let .file _ content := entry then
      let unchanged := match before.tree.at? place with
        | some (.file _ old) => old == content
        | _ => false
      if !unchanged then
        IO.FS.createDirAll (Files.render place.dropLast)
        IO.FS.writeBinFile (Files.render place) content

/-- Says one thing. -/
def say (level : Cli.LogLevel) : Cli.Remark → IO Unit
  | .output text => IO.print text
  | .complaint text => IO.eprint text
  | .log line text => if level.admitsLine line then IO.eprint text else pure ()

/-- The most calls on the host in one wait. -/
def patience : Nat := 1000000

end BatchRunner.Outside

open BatchRunner in
/-- The program. -/
def main (arguments : List String) : IO UInt32 := do
  let vars ← Outside.vars
  let searchPath := vars.lookup "PATH"
  let configDirectory := Outside.configDirectory vars
  let cwd := Files.names (← IO.currentDir).toString
  let documents := arguments ++
    (configDirectory.toList.map fun directory => (Store.global directory).filePath Configuration.fileName) ++
    [(Store.project (Files.render cwd)).filePath Configuration.fileName]
  let m ← documents.foldlM (Outside.bring Files.newFileMode) (Machine.usual cwd vars)
  let programs := arguments.flatMap (Outside.programPaths m searchPath)
  let m ← programs.foldlM (Outside.bring Outside.programMode) m
  let around : Cli.Surroundings Machine := {
    host := Machine.host
    files := Machine.workspacePart
    hostParallelism := ← Outside.parallelism
    configDirectory
    searchPath
    patience := Outside.patience }
  match Cli.runProgram around arguments m with
  | .error _ =>
    IO.eprintln "The batch waits for something that cannot happen."
    return 1
  | .ok conclusion =>
    conclusion.transcript.forM (Outside.say conclusion.level)
    Outside.writeChanges m conclusion.world
    return conclusion.status.toUInt32
