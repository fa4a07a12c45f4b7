import BatchRunner.Cli.RunOptions
import BatchRunner.Cli.Session
import BatchRunner.Json.Printer
import BatchRunner.Report

/-!
# Running a batch

The batch is loaded and put into a queue, and its tasks are reported as they end: at once as text, or
together as JSON when the batch has ended.
-/

namespace BatchRunner.Cli

variable {W : Type}

/-- A session with the reports of the tasks that have ended, last first. -/
structure Reporting (W : Type) where
  session : Session W
  reports : List TaskReport

namespace Reporting

/-- The world of a session with reports. -/
def worldPart : Part (Reporting W) W :=
  ⟨(·.session.world), fun w r => { r with session := { r.session with world := w } }⟩

/-- Says something. -/
def say (reporting : Reporting W) (remark : Remark) : Reporting W :=
  { reporting with session := reporting.session.say remark }

/-- Takes down the report of a task; unless all are printed at the end, it is printed now. -/
def add (reporting : Reporting W) (report : TaskReport) (atOnce : Bool) : Reporting W :=
  let reporting := { reporting with reports := report :: reporting.reports }
  if atOnce then reporting.say (.output report.toText) else reporting

end Reporting

/-- The line that is logged when a batch is about to run. -/
def runningLine (kind : RunnerKind) (tasks limit : Nat) : String :=
  "INFO Running batch runner=" ++ Json.quote kind.name ++ " tasks=" ++ toString tasks ++
    " parallelism=" ++ toString limit ++ "\n"

/-- The line that is logged when a task was queued. -/
def queuedLine (id : TaskId) (name : String) : String :=
  "DEBUG Queued task=" ++ id.short ++ " name=" ++ Json.quote name ++ "\n"

/-- The line that is logged when a task began. -/
def beganLine {κ : Type} (task : Task κ) : String :=
  "DEBUG Began pid=" ++ task.pid.elim "None" toString ++ " command=" ++ task.spec.commandLine ++ "\n"

/-- The name under which a task of a batch is reported. -/
def nameIn (batch : Batch) (task : Task Nat) : String :=
  match batch.tasks[task.context]? with
  | some entry => entry.displayName
  | none => task.spec.program

/-- The hooks of a run: the beginning of tasks is logged and their end reported; the policy judges. -/
def reportingHooks (batch : Batch) (options : RunOptions) (now : W → Nat) : Hooks Nat (Reporting W) where
  began := some fun task r => r.say (.log .debug (beganLine task))
  reported := some fun task r =>
    r.add (TaskReport.ofTask (nameIn batch task) task (now r.session.world)) (!options.json)

/-- Queues the entries of a batch in order, each under the identifier that is drawn for it and with its index as
context. -/
def queueAll (now : W → Nat) (drawId : Nat → TaskId) : Nat → List TaskEntry → Queue Nat → Session W →
    Except Error (Queue Nat) × Session W
  | _, [], queue, session => (.ok queue, session)
  | index, entry :: entries, queue, session =>
    let id := drawId index
    match queue.add id entry.spec index (now session.world) with
    | .error error => (.error error, session)
    | .ok queue =>
      queueAll now drawId (index + 1) entries queue
        (session.say (.log .debug (queuedLine id entry.displayName)))

/-- What is said at the end of a batch. -/
def conclude (options : RunOptions) (report : BatchReport) (session : Session W) : Session W :=
  if options.json then session.say (.output (report.toJson.pretty 0 ++ "\n"))
  else (session.say (.output report.summary)).say (.complaint report.complaint)

/-- Runs a queue that holds the entries of a batch. -/
def runQueue (around : Surroundings W) (options : RunOptions) (batch : Batch) (queue : Queue Nat)
    (session : Session W) : Except Halt (Bool × Session W) := do
  let outcome ← queue.execute (around.host.within Reporting.worldPart)
    (reportingHooks batch options around.host.now) around.patience ⟨session, []⟩
  let report : BatchReport := {
    runner := queue.kind
    error := match outcome.result with
      | .ok () => none
      | .error error => some error
    stats := outcome.queue.stats
    tasks := outcome.world.reports.reverse }
  return (report.success, conclude options report outcome.world.session)

/-- Runs the batch that the options name, and tells whether it succeeded. -/
def runBatch (around : Surroundings W) (options : RunOptions) (session : Session W) :
    Except Halt (Bool × Session W) :=
  match Batch.load (session.workspace around) options.batch with
  | .error error => return session.fail (some ("Failed to load batch " ++ options.batch)) error
  | .ok batch => match Configuration.load (session.workspace around) around.configDirectory with
    | .error error => return session.fail (some "Failed to load configuration") error
    | .ok config =>
      let kind : RunnerKind := if options.dryRun then .dryRun else .localProcesses
      let queue : Queue Nat :=
        .create kind (options.queueOptions config batch (.builtIn around.hostParallelism)) .ambient
      let session := session.say (.log .info (runningLine kind batch.tasks.length queue.limit))
      match queueAll around.host.now around.drawId 0 batch.tasks queue session with
      | (.error error, session) => return session.fail none error
      | (.ok queue, session) => runQueue around options batch queue session

end BatchRunner.Cli
