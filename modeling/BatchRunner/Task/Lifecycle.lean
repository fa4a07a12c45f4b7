import BatchRunner.Task.Basic

/-!
# The life of a task

The calls that take a task from queued to finished. Each checks first that the task is in the right state
and changes nothing if it is not.
-/

namespace BatchRunner.Task

variable {κ W : Type}

/-- A call on a task that came to an end: its result, the task and the world after it. -/
abbrev Step (κ W α : Type) := Except Error α × Task κ × W

/-- Refuses a move that does not exist. -/
def checkMove (task : Task κ) (target : TaskState) : Except Halt Unit :=
  if task.state.canMoveTo target then .ok ()
  else .error (.violation (.illegalMove task.id task.state target))

/-- Starts the process of a task. If that fails the task is finished and never executes. -/
def execute (task : Task κ) (host : Host W) (source : EnvironmentSource) (w : W) : Except Halt (Step κ W Unit) := do
  task.checkMove .executing
  match task.resolveVariables host source w with
  | .error error => return (.error error, task, w)
  | .ok vars =>
    match host.spawn ⟨task.spec.program, task.spec.args, vars, task.separateErrors⟩ w with
    | (.ok child, w) =>
      return (.ok (), { task with
        pid := some child.pid
        process := some child
        state := .executing
        startedAt := some (host.now w) }, w)
    | (.error cause, w) =>
      return (.error (.spawn task.spec.program cause), { task with
        state := .finished
        completedAt := some (host.now w) }, w)

/-- Reads what is there now from the pipes of a task, and tells whether standard output has ended. A task
without a process has nothing to read. -/
def readAvailable (task : Task κ) (host : Host W) (fuel : Nat) (w : W) : Except Halt (Step κ W Bool) :=
  match task.process with
  | none => .ok (.ok true, task, w)
  | some child => do
    let (drained, streams, w) ← Capture.drainBoth host fuel child task.streams w
    let task := { task with streams }
    match drained with
    | .ok drained => return (.ok (drained == .closed), task, w)
    | .error cause => return (.error (.pipeRead child.pid cause), task, w)

/-- Reads the pipes of a task up to the end, however long that takes. The task stays executing. -/
def readToClose (task : Task κ) (host : Host W) (fuel : Nat) (w : W) : Except Halt (Step κ W Unit) :=
  match task.process with
  | none => .ok (.ok (), task, w)
  | some child => do
    let (result, streams, w) ← Capture.readBoth host fuel child task.streams w
    let task := { task with streams }
    match result with
    | .ok () => return (.ok (), task, w)
    | .error cause => return (.error (.pipeRead child.pid cause), task, w)

/-- Reads what is left, closes the pipes, and finishes an executing task. The task is finished even if the
last read fails. -/
def finishExecution (task : Task κ) (host : Host W) (fuel : Nat) (w : W) : Except Halt (Step κ W Unit) := do
  if task.state != .executing then
    throw (.violation (.finishedEarly task.id task.state))
  let (drained, task, w) ← task.readAvailable host fuel w
  let (process, w) := match task.process with
    | none => (none, w)
    | some child =>
      let (child, w) := Capture.closePipes host child w
      (some child, w)
  return (drained.map fun _ => (), { task with
    process
    state := .finished
    completedAt := some (host.now w) }, w)

/-- Finishes a task, unless that was done before. -/
def finishIfRunning (task : Task κ) (host : Host W) (fuel : Nat) (w : W) : Except Halt (Step κ W Unit) :=
  if task.state.isRunning then task.finishExecution host fuel w else .ok (.ok (), task, w)

/-- Waits for the end of the process of a task and notes how it ended. This and finishing may come in either
order. -/
def reap (task : Task κ) (host : Host W) (fuel : Nat) (w : W) : Except Halt (Step κ W Termination) :=
  if task.termination.isSome then .error (.violation (.reapedTwice task.id))
  else match task.process with
    | none => .error (.violation (.noProcess task.id))
    | some child => do
      match ← Capture.awaitEnd host child.pid fuel w with
      | (.error cause, w) => return (.error (.wait child.pid cause), task, w)
      | (.ok (status, usage), w) =>
        let termination := Termination.ofStatus status
        return (.ok termination, { task with
          usage := some usage
          termination := some termination }, w)

/-- Marks a task as executing under a made-up number, without a process. -/
def simulateStart (task : Task κ) (pid : Pid) (now : Nat) : Except Halt (Task κ) := do
  task.checkMove .executing
  return { task with pid := some pid, state := .executing, startedAt := some now }

/-- Finishes a task without a process as if it had exited with zero. -/
def simulateExit (task : Task κ) (now : Nat) : Except Halt (Task κ) := do
  task.checkMove .finished
  return { task with
    state := .finished
    termination := some (.exited 0)
    usage := some .zero
    completedAt := some now }

end BatchRunner.Task
