/-!
# Commands and their switches

The words that the command line knows: which commands there are, the switches of each, and the operand that
some of them need.
-/

namespace BatchRunner.Cli

/-- Something that may be said about a command, by a word behind two hyphens or a letter behind one. -/
structure Switch where
  word : String
  letter : Option Char := none
  /-- What the value stands for; a switch without it takes no value. -/
  value : Option String := none
  purpose : String
  deriving DecidableEq, Repr, Inhabited

/-- A switch as messages write it. -/
def Switch.shown (switch : Switch) : String :=
  match switch.value with
  | some value => "--" ++ switch.word ++ " <" ++ value ++ ">"
  | none => "--" ++ switch.word

/-- What a command is given without a switch in front of it. -/
structure Operand where
  name : String
  purpose : String
  deriving DecidableEq, Repr, Inhabited

/-- An operand as messages write it. -/
def Operand.shown (operand : Operand) : String := "<" ++ operand.name ++ ">"

/-- A command. -/
structure Command where
  name : String
  purpose : String
  operand : Option Operand := none
  switches : List Switch
  /-- The names of the commands that may follow. -/
  commands : List String := []
  deriving DecidableEq, Repr, Inhabited

namespace Command

/-- Says more about what happens; every command knows it. -/
def debugSwitch : Switch := { word := "debug", letter := some 'd', purpose := "Enable debug logging" }

/-- Asks for help; every command knows it. -/
def helpSwitch : Switch := { word := "help", letter := some 'h', purpose := "Print help" }

/-- Asks for the version. -/
def versionSwitch : Switch := { word := "version", letter := some 'V', purpose := "Print version" }

/-- The switch that bounds how many tasks run at once. -/
def jobsSwitch : Switch := {
  word := "jobs"
  letter := some 'j'
  value := some "JOBS"
  purpose := "Maximum number of tasks running at once" }

/-- The file that a command works on. -/
def batchOperand : Operand := ⟨"BATCH", "Batch file (TOML)"⟩

/-- Runs a batch. -/
def run : Command where
  name := "run"
  purpose := "Run every task in a batch file"
  operand := some batchOperand
  switches := [
    jobsSwitch,
    { word := "keep-going", letter := some 'k', purpose := "Never stop on failed or signalled tasks" },
    { word := "separate-errors", purpose := "Capture stderr separately for every task" },
    { word := "dry-run", purpose := "List what would run without spawning anything" },
    { word := "json", purpose := "Print a JSON report instead of text" },
    debugSwitch,
    helpSwitch]

/-- Checks a batch. -/
def check : Command where
  name := "check"
  purpose := "Validate a batch file without running it"
  operand := some batchOperand
  switches := [debugSwitch, helpSwitch]

/-- Writes a configuration. -/
def init : Command where
  name := "init"
  purpose := "Write a default .sluice/config.toml in the current directory"
  switches := [
    { word := "force", letter := some 'f', purpose := "Overwrite an existing configuration" },
    debugSwitch,
    helpSwitch]

/-- Tells about a command. -/
def help : Command where
  name := "help"
  purpose := "Print this message or the help of the given subcommand(s)"
  switches := []

/-- The commands that may follow the name of the program. -/
def all : List Command := [run, check, init, help]

/-- The program itself. -/
def program : Command where
  name := "sluice"
  purpose := "Sluice CLI - run batches of commands with bounded parallelism"
  switches := [debugSwitch, helpSwitch, versionSwitch]
  commands := all.map (·.name)

/-- The version of the program. -/
def version : String := "0.1.0"

/-- The command with a name. -/
def named? (name : String) : Option Command := all.find? (·.name == name)

/-- The switch of a command with a word. -/
def switchOfWord? (command : Command) (word : String) : Option Switch :=
  command.switches.find? (·.word == word)

/-- The switch of a command with a letter. -/
def switchOfLetter? (command : Command) (letter : Char) : Option Switch :=
  command.switches.find? (·.letter == some letter)

/-- How a command is used, on one line. -/
def usage (command : Command) : String :=
  let name := if command.name = program.name then program.name else program.name ++ " " ++ command.name
  "Usage: " ++ name ++ " [OPTIONS]" ++ (command.operand.elim "" fun operand => " " ++ operand.shown) ++
    if command.commands.isEmpty then "" else " <COMMAND>"

/-- A name and what it stands for, on a line of a list whose names take a number of characters. -/
def listLine (width : Nat) (name purpose : String) : String :=
  "  " ++ name ++ String.ofList (List.replicate (width - name.length + 2) ' ') ++ purpose ++ "\n"

/-- A list with a heading; nothing for an empty list. -/
def listing (heading : String) (entries : List (String × String)) : String :=
  if entries.isEmpty then ""
  else
    let width := (entries.map (·.1.length)).foldl max 0
    "\n" ++ heading ++ ":\n" ++ String.join (entries.map fun (name, purpose) => listLine width name purpose)

/-- A switch as the list of switches names it. -/
def switchEntry (switch : Switch) : String × String :=
  let letter := switch.letter.elim "    " fun letter => "-" ++ letter.toString ++ ", "
  (letter ++ switch.shown, switch.purpose)

/-- The help of a command. -/
def helpText (command : Command) : String :=
  command.purpose ++ "\n\n" ++ command.usage ++ "\n" ++
    listing "Commands" (if command.commands.isEmpty then [] else all.map fun c => (c.name, c.purpose)) ++
    listing "Arguments" (command.operand.toList.map fun operand => (operand.shown, operand.purpose)) ++
    listing "Options" (command.switches.map switchEntry)

end Command

end BatchRunner.Cli
