import BatchRunner.Task.Id
import BatchRunner.Task.State

/-!
# Calls that give no answer

A call on a task or a queue gives no answer if it breaks a rule of its own, if it waits for something that
can no longer happen, or if it was not allowed enough steps.
-/

namespace BatchRunner

/-- A rule that a call broke. -/
inductive Violation where
  /-- A task was to move between states that no move connects. -/
  | illegalMove (task : TaskId) (source target : TaskState)
  /-- A task was to finish that was not executing. -/
  | finishedEarly (task : TaskId) (state : TaskState)
  /-- The end of a task's process was asked for a second time. -/
  | reapedTwice (task : TaskId)
  /-- The end of a process was asked for that never was. -/
  | noProcess (task : TaskId)
  /-- A task left the queue with a pipe open. -/
  | openPipes (task : TaskId)
  /-- A sum of counts does not fit a word. -/
  | sumTooLarge
  deriving DecidableEq, Repr

/-- The text of a broken rule. -/
def Violation.message : Violation → String
  | illegalMove task source target =>
    "task " ++ task.short ++ " cannot move from " ++ source.name ++ " to " ++ target.name
  | finishedEarly task state =>
    "finish_execution called on task " ++ task.short ++ " in state " ++ state.name
  | reapedTwice task => "task " ++ task.short ++ " reaped twice"
  | noProcess task => "task " ++ task.short ++ " has no process to reap"
  | openPipes _ => "assertion failed: !task.has_open_pipes()"
  | sumTooLarge => "attempt to add with overflow"

/-- Why a call gives no answer. -/
inductive Halt where
  | violation (violation : Violation)
  /-- The host waits for ever. -/
  | stalled
  /-- The call was not allowed enough steps. -/
  | outOfFuel
  deriving DecidableEq, Repr

end BatchRunner
