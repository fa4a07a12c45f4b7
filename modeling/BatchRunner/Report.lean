import BatchRunner.Queue.Runner
import BatchRunner.Text.Blank
import BatchRunner.Text.Utf8

/-!
# Reports

What is told of a finished task and of a finished batch: as text while the batch runs, or as one JSON value
at its end.
-/

namespace BatchRunner

/-- What is told of one task. -/
structure TaskReport where
  name : String
  command : String
  pid : Option Pid
  termination : Option Termination
  output : String
  /-- Standard error, if it was captured apart. -/
  errors : Option String
  /-- The time from start to end in whole milliseconds. -/
  milliseconds : Option Nat
  usage : Option ResourceUsage
  deriving DecidableEq, Repr, Inhabited

namespace TaskReport

/-- The nanoseconds of one millisecond. -/
def nanosecondsPerMillisecond : Nat := 1000000

/-- The report of a task under a name. Captured bytes are shown as text, whatever they are. -/
def ofTask {κ : Type} (name : String) (task : Task κ) (now : Nat) : TaskReport where
  name
  command := task.spec.commandLine
  pid := task.pid
  termination := task.termination
  output := Text.ofBytes task.output
  errors := task.errors?.map Text.ofBytes
  milliseconds := (task.duration? now).map (· / nanosecondsPerMillisecond)
  usage := task.usage

/-- Whether the process of a task exited with zero. -/
def succeeded (report : TaskReport) : Bool := report.termination.any (·.isSuccess)

/-- A report written as JSON. Standard error and usage are left out where there are none. -/
def toJson (report : TaskReport) : Json.Value :=
  .object ([
    ("name", .text report.name),
    ("command", .text report.command),
    ("pid", .ofOption .count report.pid),
    ("termination", .ofOption Termination.toJson report.termination),
    ("output", .text report.output)] ++
    (report.errors.map fun errors => ("errors", Json.Value.text errors)).toList ++
    [("duration_ms", .ofOption .count report.milliseconds)] ++
    (report.usage.map fun usage => ("usage", usage.toJson)).toList)

/-- The mark in front of the name of a task. -/
def mark (succeeded : Bool) : String := if succeeded then "✓" else "✗"

/-- The lines of a text, indented. -/
def block (text : String) : String := String.join ((Text.lines text).map fun line => "  " ++ line ++ "\n")

/-- What became of a task, in brackets behind its name. -/
def outcome (report : TaskReport) : String :=
  let ending := match report.termination with
    | some termination => termination.message
    | none => "not reaped"
  match report.milliseconds with
  | some milliseconds => ending ++ ", " ++ toString milliseconds ++ "ms"
  | none => ending

/-- The part of the text for standard error: nothing if nothing was captured apart. -/
def errorBlock (report : TaskReport) : String :=
  match report.errors with
  | some errors => if errors.isEmpty then "" else "  --- stderr ---\n" ++ block errors
  | none => ""

/-- A report written as text: a line with the outcome, and the captured output below it. -/
def toText (report : TaskReport) : String :=
  mark report.succeeded ++ " " ++ report.name ++ " (" ++ report.outcome ++ ")\n" ++
    block report.output ++ report.errorBlock

end TaskReport

/-- What is told of a batch. -/
structure BatchReport where
  runner : RunnerKind
  error : Option Error
  stats : BatchStats
  tasks : List TaskReport
  deriving DecidableEq, Repr

namespace BatchReport

/-- Whether no error was recorded. -/
def success (report : BatchReport) : Bool := report.error.isNone

/-- A report written as JSON. -/
def toJson (report : BatchReport) : Json.Value :=
  .object ([
    ("runner", .text report.runner.name),
    ("success", .boolean report.success)] ++
    (report.error.map fun error => ("error", Json.Value.text error.message)).toList ++
    [("stats", report.stats.toJson), ("tasks", .array (report.tasks.map TaskReport.toJson))])

/-- The closing line of a batch. -/
def summary (report : BatchReport) : String :=
  "\n" ++ toString report.stats.launched ++ " launched, " ++ toString report.stats.exited ++ " exited, " ++
    toString report.stats.signalled ++ " signalled, " ++ toString report.stats.dropped ++
    " dropped (peak " ++ toString report.stats.peakExecuting ++ " running)\n"

/-- What is said of a batch that failed. -/
def complaint (report : BatchReport) : String :=
  match report.error with
  | some error => "Batch failed: " ++ error.message ++ "\n"
  | none => ""

end BatchReport

end BatchRunner
