import BatchRunner.Hooks
import BatchRunner.Queue.Stats
import BatchRunner.Readiness
import BatchRunner.Settings
import BatchRunner.Task.Lifecycle

/-!
# A run of a batch

One control thread starts queued tasks up to the limit, waits until the output of one of them is ready,
reads it, and reaps and reports the tasks that are done. The first failure or stopping verdict ends the
starting of tasks; running tasks always finish. A failure of the waiting, reading or reaping ends the
waiting too: the tasks still running are then read to the end one by one.

Only standard output is waited for. A separate standard error is read whenever standard output is, and once
more after the process has ended.
-/

namespace BatchRunner

/-- What happened in a run, as far as a statement about runs may want to know it. -/
inductive RunEvent where
  /-- The process of a task was started. -/
  | spawned (task : TaskId)
  /-- The process of a task could not be started. -/
  | spawnFailed (task : TaskId) (error : Error)
  /-- The caller was told that a task began to execute. -/
  | began (task : TaskId)
  /-- Output is waited for, with these entries watched, these tasks executing under these numbers, and this
  many tasks queued; `stopped` says whether an error is held. -/
  | waiting (watch : ReadinessSet) (executing : List TaskId) (pids : List (Pid × TaskId)) (queued : Nat)
      (stopped : Bool)
  /-- The wait for output failed. -/
  | watchFailed (cause : Os.Fault)
  /-- The output of an executing task could not be read. -/
  | readFailed (task : TaskId) (error : Error)
  /-- An executing task left the queue. -/
  | retiring (task : TaskId)
  /-- The end of the process of a task that had left was learnt. -/
  | reaped (task : TaskId) (termination : Termination)
  /-- The end of the process of a task that had left could not be learnt; `cut` is the failure of its last
  reading, if that failed as well. -/
  | lost (task : TaskId) (error : Error) (cut : Option Error)
  /-- The end of a task was reported. -/
  | reported (task : TaskId)
  /-- The end of a task was judged. -/
  | judged (task : TaskId) (termination : Termination) (verdict : Verdict)
  /-- A task that was judged is done with; `cut` is the failure of its last reading, if that failed. -/
  | settled (task : TaskId) (cut : Option Error)
  /-- A failure, or a stop by verdict, was recorded. -/
  | recorded (error : Error)
  deriving DecidableEq, Repr

/-- What a run is made with and does not change. -/
structure RunSetting (κ W : Type) where
  host : Host W
  hooks : Hooks κ W
  options : QueueOptions
  source : EnvironmentSource
  /-- The most calls made on the host in one reading or one wait. -/
  patience : Nat

/-- The state of a run. -/
structure Run (κ W : Type) where
  world : W
  pending : List (Task κ)
  executing : List (TaskId × Task κ)
  /-- The numbers of the processes that have not been reaped. -/
  pids : List (Pid × TaskId)
  watch : ReadinessSet
  stats : BatchStats
  /-- The first error that was recorded. -/
  held : Option Error
  /-- What happened, last first. -/
  history : List RunEvent

/-- A run that gives no answer: why not, and the run as far as it came. -/
structure Interrupted (κ W : Type) where
  halt : Halt
  run : Run κ W

namespace Run

variable {κ W : Type}

/-- Takes the answer of a call that a run makes. If there is none the run ends where it is. -/
def await {α : Type} (run : Run κ W) : Except Halt α → Except (Interrupted κ W) α
  | .ok answer => .ok answer
  | .error halt => .error ⟨halt, run⟩

/-- The run in another world. -/
def inWorld (run : Run κ W) (w : W) : Run κ W := { run with world := w }

/-- The run with other entries watched. -/
def watching (run : Run κ W) (watch : ReadinessSet) : Run κ W := { run with watch }

/-- Adds an event to the history. -/
def note (run : Run κ W) (event : RunEvent) : Run κ W := { run with history := event :: run.history }

/-- Records an error; the first one is held. -/
def record (run : Run κ W) (error : Error) : Run κ W :=
  ({ run with held := run.held <|> some error } : Run κ W).note (.recorded error)

/-- Whether an error is held, so that no further task is started. -/
def isStopped (run : Run κ W) : Bool := run.held.isSome

/-- The executing task with an identifier. -/
def executing? (run : Run κ W) (id : TaskId) : Option (Task κ) := run.executing.lookup id

/-- The identifiers of the executing tasks. -/
def ids (run : Run κ W) : List TaskId := run.executing.map (·.1)

/-- Puts an executing task in its place. -/
def update (run : Run κ W) (id : TaskId) (task : Task κ) : Run κ W :=
  { run with executing := run.executing.map fun entry => if entry.1 = id then (id, task) else entry }

/-- Takes a task that was just started into the run. -/
def enter (run : Run κ W) (task : Task κ) : Run κ W :=
  let executing := run.executing.filter (·.1 != task.id) ++ [(task.id, task)]
  { run with
    executing
    watch := match task.stdout? with
      | some fd => run.watch.register fd task.id
      | none => run.watch
    pids := match task.pid with
      | some pid => run.pids.filter (·.1 != pid) ++ [(pid, task.id)]
      | none => run.pids
    stats := { run.stats with peakExecuting := max run.stats.peakExecuting executing.length } }

/-- Takes an executing task out of the run. -/
def leave (run : Run κ W) (id : TaskId) (task : Task κ) : Run κ W :=
  ({ run with
    executing := run.executing.filter (·.1 != id)
    pids := match task.pid with
      | some pid => run.pids.filter (·.1 != pid)
      | none => run.pids } : Run κ W).note (.retiring id)

/-- The run without the first queued task, in the world in which it was tried to start it. -/
def pop (run : Run κ W) (rest : List (Task κ)) (w : W) : Run κ W := { run with pending := rest, world := w }

/-- Counts a task that was just started, and tells the caller that it began. -/
def tell (setting : RunSetting κ W) (run : Run κ W) (task : Task κ) : Run κ W :=
  ({ run.note (.spawned task.id) with
    world := setting.hooks.tellBegan task run.world
    stats := { run.stats with launched := run.stats.launched + 1 } } : Run κ W).note (.began task.id)

/-- Starts the first queued task. A task whose process cannot be started is dropped, and the failure
recorded. -/
def launch (setting : RunSetting κ W) (task : Task κ) (rest : List (Task κ)) (run : Run κ W) :
    Except (Interrupted κ W) (Run κ W) := do
  match ← run.await (task.execute setting.host setting.source run.world) with
  | (.error error, task, w) => return ((run.pop rest w).note (.spawnFailed task.id error)).record error
  | (.ok (), task, w) => return ((run.pop rest w).tell setting task).enter task

/-- Whether there is room for another task and nothing has stopped the batch. -/
def hasRoom (setting : RunSetting κ W) (run : Run κ W) : Bool :=
  !run.isStopped && run.executing.length < setting.options.effectiveParallelism

/-- Starts queued tasks while there is room and nothing has stopped the batch. The fuel bounds their number;
the number of queued tasks is enough. -/
def launchAll (setting : RunSetting κ W) : Nat → Run κ W → Except (Interrupted κ W) (Run κ W)
  | 0, run => .ok run
  | fuel + 1, run =>
    if run.hasRoom setting then
      match run.pending with
      | [] => .ok run
      | task :: rest => do
        let run ← run.launch setting task rest
        run.launchAll setting fuel
    else .ok run

/-- Counts the end of a task. -/
def countEnd (stats : BatchStats) : Termination → BatchStats
  | .exited _ => { stats with exited := stats.exited + 1 }
  | .signalled _ => { stats with signalled := stats.signalled + 1 }

/-- The error that a stopping verdict on a task records. -/
def stopError (task : Task κ) (termination : Termination) : Error :=
  .stopped ("'" ++ task.spec.commandLine ++ "' " ++ termination.message)

/-- The run after the end of a task was reported and judged, which led to another world. -/
def judge (run : Run κ W) (id : TaskId) (termination : Termination) (verdict : Verdict) (w : W) : Run κ W :=
  (({ run with world := w, stats := countEnd run.stats termination } : Run κ W).note (.reported id)).note
    (.judged id termination verdict)

/-- Reports and judges a task that was reaped. -/
def conclude (setting : RunSetting κ W) (task : Task κ) (run : Run κ W) : Run κ W :=
  match task.termination with
  | none => run
  | some termination =>
    let (verdict, w) := setting.hooks.terminated setting.options.policy task run.world
    let run := run.judge task.id termination verdict w
    if verdict.isStop then run.record (stopError task termination) else run

/-- The failure of a call that gives nothing else. -/
def failureOf : Except Error Unit → Option Error
  | .ok () => none
  | .error error => some error

/-- Reaps, finishes and reports a task that left the queue. A task that cannot be reaped is not reported. A
last read that fails is a failure only after the report. -/
def settle (setting : RunSetting κ W) (task : Task κ) (run : Run κ W) :
    Except (Interrupted κ W) (Except Error Unit × Run κ W) := do
  let (reaped, task, w) ← run.await (task.reap setting.host setting.patience run.world)
  let (drained, task, w) ← run.await (task.finishIfRunning setting.host setting.patience w)
  if task.hasOpenPipes then throw ⟨.violation (.openPipes task.id), run⟩
  let run := run.inWorld w
  match reaped with
  | .error error => return (.error error, run.note (.lost task.id error (failureOf drained)))
  | .ok termination =>
    let run := (run.note (.reaped task.id termination)).conclude setting task
    return (drained, run.note (.settled task.id (failureOf drained)))

/-- Takes an executing task out of the run, and reaps, finishes and reports it. -/
def retire (setting : RunSetting κ W) (id : TaskId) (run : Run κ W) :
    Except (Interrupted κ W) (Except Error Unit × Run κ W) :=
  match run.executing? id with
  | none => .ok (.ok (), run)
  | some task => (run.leave id task).settle setting task

/-- Reads what is there now of an executing task, and tells whether its output has ended. -/
def readNow (setting : RunSetting κ W) (id : TaskId) (task : Task κ) (run : Run κ W) :
    Except (Interrupted κ W) (Except Error Bool × Run κ W) := do
  let (ended, task, w) ← run.await (task.readAvailable setting.host setting.patience run.world)
  let run := (run.inWorld w).update id task
  match ended with
  | .error error => return (.error error, run.note (.readFailed id error))
  | .ok ended => return (.ok ended, run)

/-- Reads what an event says is there. -/
def listen (setting : RunSetting κ W) (event : ReadyEvent) (task : Task κ) (run : Run κ W) :
    Except (Interrupted κ W) (Except Error Bool × Run κ W) :=
  if event.readable then run.readNow setting event.owner task else .ok (.ok false, run)

/-- Acts on one event: reads what is there, and retires the task if its output has ended. A failure ends
the waiting for output. -/
def service (setting : RunSetting κ W) (event : ReadyEvent) (run : Run κ W) :
    Except (Interrupted κ W) (Except Error Unit × Run κ W) :=
  match run.executing? event.owner with
  | none => .ok (.ok (), run.watching (run.watch.markFinished event.index))
  | some task => do
    match ← run.listen setting event task with
    | (.error error, run) => return (.error error, run)
    | (.ok ended, run) =>
      if event.hungUp || ended then
        (run.watching (run.watch.markFinished event.index)).retire setting event.owner
      else return (.ok (), run)

/-- Acts on events in order, up to the first failure. -/
def serviceAll (setting : RunSetting κ W) :
    List ReadyEvent → Run κ W → Except (Interrupted κ W) (Except Error Unit × Run κ W)
  | [], run => .ok (.ok (), run)
  | event :: events, run => do
    match ← run.service setting event with
    | (.error error, run) => return (.error error, run)
    | (.ok (), run) => run.serviceAll setting events

/-- The event that output is waited for. -/
def waitingEvent (run : Run κ W) : RunEvent :=
  .waiting run.watch run.ids run.pids run.pending.length run.isStopped

/-- Starts tasks, waits for output and acts on it. A failure is recorded and ends the waiting, which the
first component tells. -/
def round (setting : RunSetting κ W) (run : Run κ W) : Except (Interrupted κ W) (Bool × Run κ W) := do
  let run ← run.launchAll setting run.pending.length
  if run.executing.isEmpty then return (false, run)
  let run := run.note run.waitingEvent
  match ← run.await (run.watch.wait setting.host setting.patience run.world) with
  | (.error cause, w) =>
    return (true, ((run.inWorld w).note (.watchFailed cause)).record (.readiness cause))
  | (.ok events, w) => do
    match ← (run.inWorld w).serviceAll setting events with
    | (.error error, run) => return (true, run.record error)
    | (.ok (), run) => return (false, run.watching run.watch.compact)

/-- Whether there is something left to do: a task that executes, or one that may be started. -/
def isActive (run : Run κ W) : Bool :=
  (!run.pending.isEmpty && !run.isStopped) || !run.executing.isEmpty

/-- Repeats rounds while there is something to do. The fuel bounds their number. -/
def rounds (setting : RunSetting κ W) : Nat → Run κ W → Except (Interrupted κ W) (Run κ W)
  | 0, run => .error ⟨.outOfFuel, run⟩
  | fuel + 1, run =>
    if run.isActive then do
      let (failed, run) ← run.round setting
      if failed then return run else run.rounds setting fuel
    else .ok run

/-- Reads an executing task up to the end of its output. Where that fails its pipes are closed, so that it is
not kept from ending. -/
def readRest (setting : RunSetting κ W) (id : TaskId) (task : Task κ) (run : Run κ W) :
    Except (Interrupted κ W) (Run κ W) := do
  match ← run.await (task.readToClose setting.host setting.patience run.world) with
  | (.ok (), task, w) => return (run.inWorld w).update id task
  | (.error error, task, w) =>
    let (_, task, w) ← run.await (task.finishExecution setting.host setting.patience w)
    return (((run.inWorld w).update id task).note (.readFailed id error)).record error

/-- Lets one executing task run to its end without waiting for others. -/
def finishOff (setting : RunSetting κ W) (id : TaskId) (run : Run κ W) :
    Except (Interrupted κ W) (Run κ W) :=
  match run.executing? id with
  | none => .ok run
  | some task => do
    let run ← run.readRest setting id task
    match ← run.retire setting id with
    | (.error error, run) => return run.record error
    | (.ok (), run) => return run

/-- Lets tasks run to their ends one by one, in the order given. -/
def finishAll (setting : RunSetting κ W) : List TaskId → Run κ W → Except (Interrupted κ W) (Run κ W)
  | [], run => .ok run
  | id :: ids, run => do
    let run ← run.finishOff setting id
    run.finishAll setting ids

/-- Lets the tasks that still execute run to their ends, in whatever order the host gives. -/
def abort (setting : RunSetting κ W) (run : Run κ W) : Except (Interrupted κ W) (Run κ W) :=
  (run.watching .empty).finishAll setting (setting.host.shuffle run.world run.ids).val

/-- A run about to begin. -/
def start (pending : List (Task κ)) (w : W) : Run κ W where
  world := w
  pending
  executing := []
  pids := []
  watch := .empty
  stats := .zero
  held := none
  history := []

/-- A whole run. -/
def complete (setting : RunSetting κ W) (fuel : Nat) (run : Run κ W) :
    Except (Interrupted κ W) (Run κ W) := do
  let run ← run.rounds setting fuel
  if run.executing.isEmpty then return run else run.abort setting

end Run

end BatchRunner
