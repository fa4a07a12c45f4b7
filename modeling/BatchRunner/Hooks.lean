import BatchRunner.Policy
import BatchRunner.Task.Basic
import BatchRunner.Verdict

/-!
# Hooks

What the caller of a batch wants to be told, and to decide. Every hook may be left out; the outcome that a
missing hook would have judged is judged by the policy of the queue. A hook may change the world.
-/

namespace BatchRunner

/-- The hooks of a caller. -/
structure Hooks (κ W : Type) where
  /-- Told of a task as soon as its process runs. -/
  began : Option (Task κ → W → W) := none
  /-- Judges a task whose process exited, by its code. -/
  finished : Option (Task κ → Int → W → Verdict × W) := none
  /-- Judges a task whose process was killed. -/
  signalled : Option (Task κ → Signal → W → Verdict × W) := none
  /-- Told of every task whose process was reaped, before it is judged. -/
  reported : Option (Task κ → W → W) := none

namespace Hooks

variable {κ W : Type}

/-- Tells that a task runs. -/
def tellBegan (hooks : Hooks κ W) (task : Task κ) (w : W) : W :=
  match hooks.began with
  | some hook => hook task w
  | none => w

/-- Tells of the end of a task, if its process was reaped. -/
def tellReported (hooks : Hooks κ W) (task : Task κ) (w : W) : W :=
  match task.termination, hooks.reported with
  | some _, some hook => hook task w
  | _, _ => w

/-- Judges the end of a task: by the hook for its way to end, or else by the policy. A task whose process
was not reaped lets the batch go on. -/
def judge (hooks : Hooks κ W) (policy : Policy) (task : Task κ) (w : W) : Verdict × W :=
  match task.termination with
  | some (.exited code) => match hooks.finished with
    | some hook => hook task code w
    | none => (.ofStop (policy.stopsOnExit code), w)
  | some (.signalled signal) => match hooks.signalled with
    | some hook => hook task signal w
    | none => (.ofStop policy.stopsOnSignal, w)
  | none => (.proceed, w)

/-- Tells of the end of a task and judges it. -/
def terminated (hooks : Hooks κ W) (policy : Policy) (task : Task κ) (w : W) : Verdict × W :=
  hooks.judge policy task (hooks.tellReported task w)

/-- Each hook by its name, with whether it is there. -/
def presence (hooks : Hooks κ W) : List (String × Bool) := [
  ("began", hooks.began.isSome),
  ("finished", hooks.finished.isSome),
  ("signalled", hooks.signalled.isSome),
  ("reported", hooks.reported.isSome)]

/-- Which hooks are there, on one line. -/
def summary (hooks : Hooks κ W) : String :=
  "TaskCallbacks \x7b " ++
    ", ".intercalate (hooks.presence.map fun (name, there) => name ++ ": " ++ toString there) ++ " \x7d"

/-- Which hooks are there, one to a line. -/
def listing (hooks : Hooks κ W) : String :=
  "TaskCallbacks \x7b\n" ++
    String.join (hooks.presence.map fun (name, there) => "    " ++ name ++ ": " ++ toString there ++ ",\n") ++
    "\x7d"

end Hooks

end BatchRunner
