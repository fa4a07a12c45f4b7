import BatchRunner.Task.Capture
import BatchRunner.Task.Spec

/-!
# Tasks

A task is one command of a batch from the moment it is queued until its process has been reaped: what to
run, the caller's context, and everything that is learnt about its process.
-/

namespace BatchRunner

/-- A command with all that is known of its process. -/
structure Task (κ : Type) where
  id : TaskId
  spec : TaskSpec
  /-- The caller's own, never looked at. -/
  context : κ
  /-- Whether standard error is captured apart. -/
  separateErrors : Bool
  state : TaskState
  /-- Set once a process was started. -/
  pid : Option Pid
  process : Option Child
  streams : Capture.Streams
  termination : Option Termination
  usage : Option ResourceUsage
  createdAt : Nat
  startedAt : Option Nat
  completedAt : Option Nat

namespace Task

variable {κ W : Type}

/-- A task about to be queued. Environment entries of a wrong form are refused. -/
def create (id : TaskId) (spec : TaskSpec) (context : κ) (separateByDefault : Bool) (now : Nat) :
    Except Error (Task κ) := do
  Environment.validate spec.env
  return {
    id
    spec
    context
    separateErrors := spec.separateErrors.getD separateByDefault
    state := .preparing
    pid := none
    process := none
    streams := ⟨.empty, .empty⟩
    termination := none
    usage := none
    createdAt := now
    startedAt := none
    completedAt := none }

/-- What was written to standard output, and to standard error too if the two share a pipe. -/
def output (task : Task κ) : ByteArray := task.streams.output

/-- What was written to standard error, if it has a pipe of its own. -/
def errors? (task : Task κ) : Option ByteArray :=
  if task.separateErrors then some task.streams.errors else none

/-- The descriptor from which standard output is read, while it is open. -/
def stdout? (task : Task κ) : Option Fd := task.process.bind (·.stdout)

/-- Whether a pipe of the task is open. -/
def hasOpenPipes (task : Task κ) : Bool :=
  task.process.any fun child => child.stdout.isSome || child.stderr.isSome

/-- The time from the start of a task to its end, or to now, in nanoseconds. -/
def duration? (task : Task κ) (now : Nat) : Option Nat :=
  task.startedAt.map fun start => task.completedAt.getD now - start

/-- The exit code, if the process exited. -/
def exitCode? (task : Task κ) : Option Int := task.termination.bind (·.exitCode?)

/-- The signal, if one killed the process. -/
def signal? (task : Task κ) : Option Signal := task.termination.bind (·.signal?)

/-- The variables for the process of a task: its own entries if it has any, else those of the source. -/
def resolveVariables (task : Task κ) (host : Host W) (source : EnvironmentSource) (w : W) :
    Except Error Variables :=
  if task.spec.env.isEmpty then
    match source with
    | .ambient => .ok (host.vars w)
    | .fixed vars => .ok vars
  else Environment.ofEntries task.spec.env

end Task

end BatchRunner
