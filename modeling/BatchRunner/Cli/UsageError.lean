import BatchRunner.Cli.Command
import BatchRunner.Cli.Count

/-!
# Errors of usage

What can be wrong with the arguments of the program.
-/

namespace BatchRunner.Cli

/-- Why arguments are refused. -/
inductive UsageError where
  /-- Nothing was asked for; the help says what can be. -/
  | nothingAsked
  /-- There is no command with a name. -/
  | unknownCommand (name : String)
  /-- No command was named. -/
  | noCommand
  /-- An argument is neither a switch nor an operand of the command. -/
  | unexpected (argument : String)
  /-- A switch that takes no value was given one. -/
  | unexpectedValue (value switch : String)
  /-- A switch or an operand lacks its value. -/
  | noValue (argument : String)
  /-- The value of a switch is no count. -/
  | invalidValue (value switch : String) (fault : CountFault)
  /-- A switch was given twice. -/
  | repeated (switch : String)
  /-- An operand is missing. -/
  | missing (operand : String)
  deriving DecidableEq, Repr, Inhabited

namespace UsageError

/-- What is wrong, without the advice that follows. -/
def complaint : UsageError → String
  | nothingAsked => Command.program.purpose
  | unknownCommand name => "error: unrecognized subcommand '" ++ name ++ "'"
  | noCommand => "error: '" ++ Command.program.name ++ "' requires a subcommand but one was not provided"
  | unexpected argument => "error: unexpected argument '" ++ argument ++ "' found"
  | unexpectedValue value switch =>
    "error: unexpected value '" ++ value ++ "' for '" ++ switch ++ "' found; no more were expected"
  | noValue argument => "error: a value is required for '" ++ argument ++ "' but none was supplied"
  | invalidValue value switch fault =>
    "error: invalid value '" ++ value ++ "' for '" ++ switch ++ "': " ++ fault.message
  | repeated switch => "error: the argument '" ++ switch ++ "' cannot be used multiple times"
  | missing operand =>
    "error: the following required arguments were not provided:\n  " ++ operand

/-- What is said of arguments that are refused by a command. -/
def message (error : UsageError) (command : Command) : String :=
  match error with
  | nothingAsked => Command.program.helpText
  | error => error.complaint ++ "\n\n" ++ command.usage ++ "\n\nFor more information, try '--help'.\n"

end UsageError

end BatchRunner.Cli
