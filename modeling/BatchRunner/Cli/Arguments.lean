import BatchRunner.Cli.RunOptions
import BatchRunner.Cli.UsageError

/-!
# Reading the command line

Arguments are read from left to right. A value is looked at only when something follows it that is understood,
or at the end; so an argument that is not understood is reported before a bad value in front of it.
-/

namespace BatchRunner.Cli

/-- What the program is asked to do. -/
inductive Action where
  | run (options : RunOptions)
  | check (batch : String)
  | init (force : Bool)
  deriving DecidableEq, Repr, Inhabited

/-- What the command line says. -/
inductive Request where
  | perform (action : Action) (debug : Bool)
  | showHelp (command : Command)
  | showVersion
  deriving DecidableEq, Repr, Inhabited

/-- Why the reading of arguments ends before their end. -/
inductive Interruption where
  | refused (error : UsageError)
  | help
  | version
  deriving DecidableEq, Repr, Inhabited

/-- What was said about one command. -/
structure Given where
  /-- The words of the switches without a value. -/
  flags : List String := []
  /-- The words of the switches with a value, and the values. -/
  counts : List (String × Nat) := []
  operand : Option String := none
  deriving DecidableEq, Repr, Inhabited

namespace Given

/-- Whether a switch was given. -/
def has (given : Given) (word : String) : Bool := given.flags.contains word

/-- Notes a switch without a value. -/
def addFlag (given : Given) (switch : Switch) : Except Interruption Given :=
  if switch = Command.helpSwitch then .error .help
  else if switch = Command.versionSwitch then .error .version
  else if given.has switch.word then .error (.refused (.repeated switch.shown))
  else .ok { given with flags := switch.word :: given.flags }

/-- Notes a switch with its value. -/
def addValue (given : Given) (switch : Switch) (value : String) : Except Interruption Given :=
  if (given.counts.lookup switch.word).isSome then .error (.refused (.repeated switch.shown))
  else match readCount value with
    | .ok n => .ok { given with counts := (switch.word, n) :: given.counts }
    | .error fault => .error (.refused (.invalidValue value switch.shown fault))

/-- Notes the operand, which must not be empty. -/
def addOperand (given : Given) (operand : Operand) (value : String) : Except Interruption Given :=
  if value.isEmpty then .error (.refused (.noValue operand.shown))
  else .ok { given with operand := some value }

end Given

/-- What was read last and has not been looked at. -/
inductive Unsettled where
  | nothing
  /-- A switch whose value is still to come. -/
  | awaiting (switch : Switch)
  | value (switch : Switch) (value : String)
  | operand (operand : Operand) (value : String)
  deriving DecidableEq, Repr, Inhabited

/-- Where the reading of the arguments of a command stands. -/
structure Reading where
  given : Given := {}
  unsettled : Unsettled := .nothing
  /-- Whether an operand was read. -/
  hasOperand : Bool := false
  /-- Whether everything that follows is an operand. -/
  onlyOperands : Bool := false
  deriving DecidableEq, Repr, Inhabited

namespace Reading

/-- Looks at what has not been looked at. -/
def settle (reading : Reading) : Except Interruption Given :=
  match reading.unsettled with
  | .nothing => .ok reading.given
  | .awaiting switch => .error (.refused (.noValue switch.shown))
  | .value switch value => reading.given.addValue switch value
  | .operand operand value => reading.given.addOperand operand value

/-- Whether a switch waits for its value. -/
def isAwaiting (reading : Reading) : Bool :=
  match reading.unsettled with
  | .awaiting _ => true
  | _ => false

/-- Reads an argument that no switch accounts for. -/
def acceptOperand (command : Command) (reading : Reading) (argument : String) :
    Except Interruption Reading :=
  match command.operand, reading.hasOperand with
  | some operand, false => do
    return { reading with
      given := ← reading.settle
      unsettled := .operand operand argument
      hasOperand := true }
  | _, _ =>
    if command.commands.isEmpty || (reading.onlyOperands && command.commands.contains argument) then
      .error (.refused (.unexpected argument))
    else .error (.refused (.unknownCommand argument))

/-- Reads a switch with the value, if there is one, in the same argument. -/
def acceptSwitch (reading : Reading) (switch : Switch) (attached : Option String) :
    Except Interruption Reading :=
  match switch.value, attached with
  | none, none => do
    return { reading with given := ← (← reading.settle).addFlag switch, unsettled := .nothing }
  | none, some value => .error (.refused (.unexpectedValue value switch.shown))
  | some _, none => do
    return { reading with given := ← reading.settle, unsettled := .awaiting switch }
  | some _, some value => do
    return { reading with given := ← (← reading.settle).addValue switch value, unsettled := .nothing }

/-- The word and the attached value of an argument behind its two hyphens. -/
def splitValue (chars : List Char) : String × Option String :=
  let word := String.ofList (chars.takeWhile (· != '='))
  match chars.dropWhile (· != '=') with
  | [] => (word, none)
  | _ :: value => (word, some (String.ofList value))

/-- Reads an argument that starts with two hyphens, which are left out here. -/
def acceptWord (command : Command) (reading : Reading) (chars : List Char) :
    Except Interruption Reading :=
  let (word, attached) := splitValue chars
  match command.switchOfWord? word with
  | some switch => reading.acceptSwitch switch attached
  | none => .error (.refused (.unexpected ("--" ++ word)))

/-- Reads the letters of an argument that starts with one hyphen. What follows the letter of a switch with a
value is its value, with or without an equals sign. -/
def acceptLetters (command : Command) (reading : Reading) : List Char → Except Interruption Reading
  | [] => .ok reading
  | letter :: rest => match command.switchOfLetter? letter with
    | none => .error (.refused (.unexpected ("-" ++ letter.toString)))
    | some switch =>
      if switch.value.isSome then
        reading.acceptSwitch switch (match rest with
          | [] => none
          | '=' :: value => some (String.ofList value)
          | value => some (String.ofList value))
      else do
        let reading ← reading.acceptSwitch switch none
        acceptLetters command reading rest

/-- Reads one argument. -/
def accept (command : Command) (reading : Reading) (argument : String) : Except Interruption Reading :=
  if reading.onlyOperands then reading.acceptOperand command argument
  else match argument.toList with
    | ['-', '-'] => .ok { reading with onlyOperands := true }
    | '-' :: '-' :: word => reading.acceptWord command word
    | '-' :: letter :: letters => reading.acceptLetters command (letter :: letters)
    | _ => match reading.unsettled with
      | .awaiting switch => .ok { reading with unsettled := .value switch argument }
      | _ => reading.acceptOperand command argument

/-- Reads arguments up to their end or to the name of a command that follows; that name and the arguments
behind it are given back. -/
def acceptAll (command : Command) : Reading → List String →
    Except Interruption (Given × Option (String × List String))
  | reading, [] => do return (← reading.settle, none)
  | reading, argument :: rest =>
    if !reading.onlyOperands && !reading.isAwaiting && command.commands.contains argument then do
      return (← reading.settle, some (argument, rest))
    else do
      let reading ← reading.accept command argument
      acceptAll command reading rest

end Reading

namespace Request

/-- The operand that a command needs. -/
def operandOf (command : Command) (given : Given) : Except UsageError String :=
  match command.operand, given.operand with
  | some operand, none => .error (.missing operand.shown)
  | _, value => .ok (value.getD "")

/-- What is asked for by a command with what was said about it. -/
def actionOf (command : Command) (given : Given) : Except UsageError Action := do
  let operand ← operandOf command given
  if command = Command.check then return .check operand
  else if command = Command.init then return .init (given.has "force")
  else return .run {
    batch := operand
    jobs := given.counts.lookup "jobs"
    keepGoing := given.has "keep-going"
    separateErrors := given.has "separate-errors"
    dryRun := given.has "dry-run"
    json := given.has "json" }

/-- What is asked for by the names behind `help`. -/
def ofHelp : List String → Except (UsageError × Command) Request
  | [] => .ok (.showHelp Command.program)
  | name :: rest => match Command.named? name with
    | none => .error (.unknownCommand name, Command.program)
    | some command => match rest with
      | [] => .ok (.showHelp command)
      | name :: _ => .error (.unknownCommand name, command)

/-- What an interruption in the arguments of a command comes to. -/
def ofInterruption (command : Command) : Interruption → Except (UsageError × Command) Request
  | .refused error => .error (error, command)
  | .help => .ok (.showHelp command)
  | .version => .ok .showVersion

/-- What is asked for by the name of a command and the arguments behind it. -/
def ofCommand (name : String) (debug : Bool) (arguments : List String) :
    Except (UsageError × Command) Request :=
  if name = Command.help.name then ofHelp arguments
  else match Command.named? name with
    | none => .error (.unknownCommand name, Command.program)
    | some command => match Reading.acceptAll command {} arguments with
      | .error interruption => ofInterruption command interruption
      | .ok (given, _) => match actionOf command given with
        | .error error => .error (error, command)
        | .ok action => .ok (.perform action (debug || given.has Command.debugSwitch.word))

/-- Reads the arguments of the program. Arguments that are refused are given back with the command that
refused them. -/
def ofArguments (arguments : List String) : Except (UsageError × Command) Request :=
  match Reading.acceptAll Command.program {} arguments with
  | .error interruption => ofInterruption Command.program interruption
  | .ok (given, some (name, rest)) => ofCommand name (given.has Command.debugSwitch.word) rest
  | .ok (given, none) =>
    .error (if given.flags.isEmpty then .nothingAsked else .noCommand, Command.program)

end Request

end BatchRunner.Cli
