import BatchRunner.Decode.Choice

/-!
# Task states

A task is prepared, runs, and is finished. A task whose process cannot be started is finished at once.
-/

namespace BatchRunner

/-- Where a task stands. -/
inductive TaskState where
  /-- Queued, with no process yet. -/
  | preparing
  /-- Its process was started and its output is being captured. -/
  | executing
  /-- Its descriptors are closed and its output is complete. -/
  | finished
  deriving DecidableEq, Repr, Inhabited

namespace TaskState

/-- The name of a state. -/
def name : TaskState → String
  | preparing => "Preparing"
  | executing => "Executing"
  | finished => "Finished"

/-- All states, in order. -/
def all : List TaskState := [preparing, executing, finished]

/-- Whether a task may move from one state to another. -/
def canMoveTo : TaskState → TaskState → Bool
  | preparing, executing => true
  | preparing, finished => true
  | executing, finished => true
  | _, _ => false

/-- Whether no move leads out of a state. -/
def isTerminal (state : TaskState) : Bool := state == finished

/-- Whether the process of a task runs or may run. -/
def isRunning (state : TaskState) : Bool := state == executing

/-- Whether a task has not been started. -/
def isPending (state : TaskState) : Bool := state == preparing

/-- The states by name. -/
def choices : Decode.Choices TaskState := all.map fun state => (state.name, .bare state)

/-- Reads a state. -/
def decode : Decode.Decoder TaskState := choices.decode

end TaskState

end BatchRunner
