import BatchRunner.Os.Fault
import BatchRunner.Decode.Message

/-!
# Errors

Everything that can go wrong between reading a batch and reporting its outcome, as causes; the wording is in
`Error.message`.
-/

namespace BatchRunner

/-- The number by which the operating system names a process. -/
abbrev Pid := Nat

/-- What can be wrong with a configuration or a batch file. -/
inductive ConfigFault where
  /-- A task entry names no program. -/
  | emptyProgram (task : String)
  /-- A file could not be read. -/
  | unreadable (path : String) (cause : Os.Fault)
  /-- A text does not describe what it should; `what` names it. -/
  | unparsable (what : String) (cause : Decode.DecodeError)
  /-- The directory of a store could not be made. -/
  | noDirectory (cause : Os.Fault)
  /-- A number of the value to be saved is too large for the file format. -/
  | outOfRange
  /-- A file could not be written. -/
  | unwritable (path : String) (cause : Os.Fault)
  /-- Anything else, in words. -/
  | other (text : String)
  deriving DecidableEq, Repr, Inhabited

/-- The text of a fault of configuration. A text that could not be parsed is reported with the parser's own
report behind the name of the text. -/
def ConfigFault.message : ConfigFault → String
  | emptyProgram task => "Task '" ++ task ++ "' has an empty program"
  | unreadable path cause => "Failed to read " ++ path ++ ": " ++ cause.message
  | unparsable what cause => "Failed to parse " ++ what ++ ": TOML parse error: " ++ cause.message ++ "\n"
  | noDirectory cause => "Failed to create directory: " ++ cause.message
  | outOfRange => "Failed to serialize: out-of-range value for u64 type"
  | unwritable path cause => "Failed to write " ++ path ++ ": " ++ cause.message
  | other text => text

/-- What can go wrong in a batch. -/
inductive Error where
  | config (fault : ConfigFault)
  /-- An environment entry is not of the form `KEY=VALUE` with a key. -/
  | invalidEnv (entry : String)
  /-- No process could be started for a program. -/
  | spawn (program : String) (cause : Os.Fault)
  /-- The end of a process could not be learnt. -/
  | wait (pid : Pid) (cause : Os.Fault)
  /-- The call that waits for output failed. -/
  | readiness (cause : Os.Fault)
  /-- The output of a process could not be read. -/
  | pipeRead (pid : Pid) (cause : Os.Fault)
  /-- A verdict stopped the batch. -/
  | stopped (reason : String)
  | io (cause : Os.Fault)
  | internal (text : String)
  deriving DecidableEq, Repr, Inhabited

namespace Error

/-- The text of an error in a report. -/
def message : Error → String
  | config fault => "Configuration error: " ++ fault.message
  | invalidEnv entry => "Invalid environment entry '" ++ entry ++ "': expected KEY=VALUE"
  | spawn program cause => "Failed to spawn '" ++ program ++ "': " ++ cause.message
  | wait pid cause => "Failed to wait for process " ++ toString pid ++ ": " ++ cause.message
  | readiness cause => "Readiness wait failed: " ++ cause.message
  | pipeRead pid cause => "Failed to read output of process " ++ toString pid ++ ": " ++ cause.message
  | stopped reason => "Batch stopped: " ++ reason
  | io cause => "IO error: " ++ cause.message
  | internal text => "Internal error: " ++ text

/-- The fault of the outside world behind an error, if there is one. -/
def cause? : Error → Option Os.Fault
  | spawn _ cause => some cause
  | wait _ cause => some cause
  | readiness cause => some cause
  | pipeRead _ cause => some cause
  | io cause => some cause
  | _ => none

/-- Errors that end a batch whatever the verdicts say. -/
def isFatal (error : Error) : Bool := error.cause?.isSome

/-- Errors by which a verdict ended a batch. -/
def isPolicyStop : Error → Bool
  | stopped _ => true
  | _ => false

end Error

end BatchRunner
