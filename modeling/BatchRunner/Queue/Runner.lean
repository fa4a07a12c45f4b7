import BatchRunner.Queue.Run

/-!
# Queues

A queue holds tasks in the order in which they were added and runs them as a batch. A local queue starts a
process for each; a dry run reports each as if it had succeeded, and starts none.
-/

namespace BatchRunner

/-- The two kinds of queue. -/
inductive RunnerKind where
  /-- Tasks run as processes of the host, several at once. -/
  | localProcesses
  /-- Tasks are only listed. -/
  | dryRun
  deriving DecidableEq, Repr, Inhabited

namespace RunnerKind

/-- The name of a kind in a report. -/
def name : RunnerKind → String
  | localProcesses => "local"
  | dryRun => "dry-run"

/-- Whether the output of tasks is kept for the report. -/
def buffersOutput (kind : RunnerKind) : Bool := kind == localProcesses

/-- Whether tasks may run at the same time. -/
def runsInParallel (kind : RunnerKind) : Bool := kind == localProcesses

end RunnerKind

/-- Tasks waiting to be run, with the options to run them under. -/
structure Queue (κ : Type) where
  kind : RunnerKind
  options : QueueOptions
  source : EnvironmentSource
  pending : List (Task κ)
  /-- The numbers of the processes that have not been reaped. -/
  pids : List (Pid × TaskId)
  /-- The counts of the last run. -/
  stats : BatchStats

/-- What came of running a queue. -/
structure BatchOutcome (κ W : Type) where
  /-- The first error that was recorded, if there was one. -/
  result : Except Error Unit
  queue : Queue κ
  world : W
  /-- What happened, in order. -/
  history : List RunEvent

namespace Queue

variable {κ W : Type}

/-- An empty queue. -/
def create (kind : RunnerKind) (options : QueueOptions) (source : EnvironmentSource) : Queue κ :=
  ⟨kind, options, source, [], [], .zero⟩

/-- Adds a task at the end, under an identifier that the caller gives. A task that is refused leaves the
queue as it is. -/
def add (queue : Queue κ) (id : TaskId) (spec : TaskSpec) (context : κ) (now : Nat) :
    Except Error (Queue κ) := do
  let task ← Task.create id spec context queue.options.separateErrors now
  return { queue with pending := queue.pending ++ [task] }

/-- How many tasks may run at once. -/
def limit (queue : Queue κ) : Nat := queue.options.effectiveParallelism

/-- The task whose process has a number and has not been reaped. -/
def taskForPid (queue : Queue κ) (pid : Pid) : Option TaskId := queue.pids.lookup pid

/-- An error, if there is one, as the result of a run. -/
def resultOf : Option Error → Except Error Unit
  | none => .ok ()
  | some error => .error error

/-- The queue after a run: empty, with the tasks that were not started counted as dropped. -/
def settle (queue : Queue κ) (stats : BatchStats) (left : List (Task κ)) : Queue κ :=
  { queue with pending := [], pids := [], stats := { stats with dropped := left.length } }

/-- What comes of a run that has ended. -/
def outcome (queue : Queue κ) (run : Run κ W) : BatchOutcome κ W where
  result := resultOf run.held
  queue := queue.settle run.stats run.pending
  world := run.world
  history := run.history.reverse

/-- The run of the tasks of a local queue. The fuel bounds the number of waits for output. -/
def runLocally (queue : Queue κ) (host : Host W) (hooks : Hooks κ W) (fuel : Nat) (w : W) :
    Except (Interrupted κ W) (Run κ W) :=
  (Run.start queue.pending w).complete ⟨host, hooks, queue.options, queue.source, fuel⟩ fuel

/-- Runs the tasks of a local queue. -/
def executeLocally (queue : Queue κ) (host : Host W) (hooks : Hooks κ W) (fuel : Nat) (w : W) :
    Except Halt (BatchOutcome κ W) :=
  match queue.runLocally host hooks fuel w with
  | .ok run => .ok (queue.outcome run)
  | .error interrupted => .error interrupted.halt

/-- The error by which a verdict stops a dry run. -/
def dryStopError (task : Task κ) : Error :=
  .stopped ("'" ++ task.spec.commandLine ++ "' stopped the dry run")

/-- Lists tasks in order, each under the next made-up number, up to the first stopping verdict. -/
def listTasks (policy : Policy) (now : W → Nat) (hooks : Hooks κ W) :
    Pid → Run κ W → Except Halt (Run κ W)
  | next, run => match h : run.pending with
    | [] => .ok run
    | task :: rest => do
      let task ← task.simulateStart next (now run.world)
      let run := { run with
        pending := rest
        world := hooks.tellBegan task run.world
        stats := { run.stats with launched := run.stats.launched + 1, peakExecuting := 1 } }
      let task ← task.simulateExit (now run.world)
      let (verdict, w) := hooks.terminated policy task run.world
      let run := { run with
        world := w
        stats := { run.stats with exited := run.stats.exited + 1 }
        history := .judged task.id (.exited 0) verdict :: .reported task.id :: .began task.id :: run.history }
      if verdict.isStop then return run.record (dryStopError task)
      else listTasks policy now hooks (next + 1) run
  termination_by _ run => run.pending.length
  decreasing_by simp [h]

/-- Lists the tasks of a dry run. -/
def executeDry (queue : Queue κ) (now : W → Nat) (hooks : Hooks κ W) (w : W) :
    Except Halt (BatchOutcome κ W) := do
  let run ← listTasks queue.options.policy now hooks 1 (.start queue.pending w)
  return queue.outcome run

/-- Runs the tasks of a queue. -/
def execute (queue : Queue κ) (host : Host W) (hooks : Hooks κ W) (fuel : Nat) (w : W) :
    Except Halt (BatchOutcome κ W) :=
  match queue.kind with
  | .localProcesses => queue.executeLocally host hooks fuel w
  | .dryRun => queue.executeDry host.now hooks w

end Queue

end BatchRunner
