import BatchRunner.Error

/-!
# Transcripts

What a program says while it works, in the order in which it says it.
-/

namespace BatchRunner.Cli

/-- How much is logged. -/
inductive LogLevel where
  | off
  | info
  | debug
  deriving DecidableEq, Repr, Inhabited

namespace LogLevel

/-- The levels by name. -/
def named? : String → Option LogLevel
  | "off" => some off
  | "info" => some info
  | "debug" => some debug
  | _ => none

/-- Whether a line of a level is logged when so much is. -/
def admitsLine : LogLevel → LogLevel → Bool
  | off, _ => false
  | info, line => line == info
  | debug, _ => true

end LogLevel

/-- One thing that is said. -/
inductive Remark where
  /-- Text for standard output. -/
  | output (text : String)
  /-- Text for standard error. -/
  | complaint (text : String)
  /-- A line for the log. -/
  | log (level : LogLevel) (text : String)
  deriving DecidableEq, Repr, Inhabited

/-- Everything that is said, in order. -/
abbrev Transcript := List Remark

namespace Transcript

/-- Everything for standard output. -/
def output (transcript : Transcript) : String :=
  String.join (transcript.map fun
    | .output text => text
    | _ => "")

/-- Everything for standard error, with as much of the log as a level lets through. -/
def errors (transcript : Transcript) (level : LogLevel) : String :=
  String.join (transcript.map fun
    | .output _ => ""
    | .complaint text => text
    | .log line text => if level.admitsLine line then text else "")

end Transcript

/-- A failure that ends a program, with what the program was about. -/
structure Failure where
  context : Option String
  error : Error
  deriving DecidableEq, Repr

namespace Failure

/-- A text whose lines after the first are indented. -/
def indented (text : String) : String := text.replace "\n" "\n    "

/-- What is said of a failure: what the program was about and, indented, the cause; or the cause alone. -/
def message (failure : Failure) : String :=
  match failure.context with
  | some context => "Error: " ++ context ++ "\n\nCaused by:\n    " ++ indented failure.error.message ++ "\n"
  | none => "Error: " ++ failure.error.message ++ "\n"

end Failure

end BatchRunner.Cli
