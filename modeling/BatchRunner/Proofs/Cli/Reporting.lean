import BatchRunner.Proofs.Cli.Status
import BatchRunner.Proofs.Queue.Learning
import BatchRunner.Proofs.Queue.Reuse
import Mathlib.Data.List.Forall2

/-!
# The report matches the batch

The report of a batch is gathered by a hook, one task at a time, and a task carries the index of its entry. In a run
of processes a report is added whenever a task is reaped, and tells what was learnt then (`Cli.Reported`): the end
that the bits of the status tell which the host gave for its process (`Cli.Learnt`). In a dry run one is added for each
entry in order (`Cli.listTasks_reports`). Since the identifiers that are drawn are told apart and no task is reaped
twice, reports belong to distinct entries, and if the batch succeeds every entry has one (`Cli.report_of_batch`).
-/

namespace BatchRunner

namespace RunEvent

/-- The task whose end was learnt, and that end. -/
def reaped? : RunEvent → Option (TaskId × Termination)
  | reaped id termination => some (id, termination)
  | _ => none

/-- Whether an event tells of the end of a task. -/
def tellsEnd : RunEvent → Bool
  | reaped .. | reported _ => true
  | _ => false

theorem reaped?_of_tellsEnd {event : RunEvent} (h : event.tellsEnd = false) : event.reaped? = none := by
  cases event with
  | reaped id termination => cases h
  | _ => rfl

theorem reported?_of_tellsEnd {event : RunEvent} (h : event.tellsEnd = false) : event.reported? = none := by
  cases event with
  | reported id => cases h
  | _ => rfl

end RunEvent

namespace Cli

open Run

variable {W : Type} {batch : Batch} {options : RunOptions} {host : Host W} {queue : Queue Nat} {fuel : Nat}
  {v : Reporting W}

/-! ## What is told of a task that was reaped -/

/-- What a run that is reported is made with. -/
abbrev reportedSetting (queue : Queue Nat) (host : Host W) (batch : Batch) (options : RunOptions) (fuel : Nat) :
    RunSetting Nat (Reporting W) :=
  queue.setting (host.within Reporting.worldPart) (reportingHooks batch options host.now) fuel

/-- A point of the course of a run that is reported. -/
abbrev OnReportedCourse (queue : Queue Nat) (host : Host W) (batch : Batch) (options : RunOptions) (fuel : Nat)
    (v : Reporting W) (point : Point Nat (Reporting W)) : Prop :=
  queue.OnCourse (host.within Reporting.worldPart) (reportingHooks batch options host.now) fuel v point

/-- A report tells of a task what it was when it had been reaped and finished, at a point of the course. -/
def Tells (queue : Queue Nat) (host : Host W) (batch : Batch) (options : RunOptions) (fuel : Nat) (v : Reporting W)
    (learnt : TaskId × Termination) (report : TaskReport) : Prop :=
  ∃ stage run task between u drained after u',
    OnReportedCourse queue host batch options fuel v ⟨stage, run⟩ ∧ stage.reaping? = some task ∧
    task.reap (host.within Reporting.worldPart) fuel run.world = .ok (.ok learnt.2, between, u) ∧
    between.finishIfRunning (host.within Reporting.worldPart) fuel u = .ok (drained, after, u') ∧
    after.id = learnt.1 ∧ report = .ofTask (nameIn batch after) after (host.now u'.session.world)

/-- The reports are those of the tasks that were reaped, in order. -/
structure Reported (queue : Queue Nat) (host : Host W) (batch : Batch) (options : RunOptions) (fuel : Nat)
    (v : Reporting W) (run : Run Nat (Reporting W)) : Prop where
  reaped : (run.history.filterMap RunEvent.reaped?).map (·.1) = run.history.filterMap RunEvent.reported?
  tells : List.Forall₂ (Tells queue host batch options fuel v) (run.history.filterMap RunEvent.reaped?)
    run.world.reports

/-- No end is told between two moments of a run, and nothing is reported. -/
def Silent (run run' : Run Nat (Reporting W)) : Prop :=
  (∃ added, run'.history = added ++ run.history ∧ ∀ event ∈ added, event.tellsEnd = false) ∧
    run'.world.reports = run.world.reports

theorem Silent.add {run run' : Run Nat (Reporting W)} (added : List RunEvent)
    (hhistory : run'.history = added ++ run.history) (hquiet : ∀ event ∈ added, event.tellsEnd = false)
    (hreports : run'.world.reports = run.world.reports) : Silent run run' :=
  ⟨⟨added, hhistory, hquiet⟩, hreports⟩

theorem Silent.trans {run between run' : Run Nat (Reporting W)} (h : Silent run between) (h' : Silent between run') :
    Silent run run' := by
  obtain ⟨⟨added, hadded, hquiet⟩, hreports⟩ := h
  obtain ⟨⟨added', hadded', hquiet'⟩, hreports'⟩ := h'
  refine .add (added' ++ added) ?_ ?_ (hreports'.trans hreports)
  · rw [hadded', hadded, List.append_assoc]
  · exact List.forall_mem_append.2 ⟨hquiet', hquiet⟩

theorem Silent.record (run : Run Nat (Reporting W)) (error : Error) : Silent run (run.record error) :=
  .add [.recorded error] rfl (by simp [RunEvent.tellsEnd]) rfl

theorem Reported.silent {run run' : Run Nat (Reporting W)} (h : Reported queue host batch options fuel v run)
    (hsilent : Silent run run') : Reported queue host batch options fuel v run' := by
  obtain ⟨⟨added, hhistory, hquiet⟩, hreports⟩ := hsilent
  have hreaped : added.filterMap RunEvent.reaped? = [] :=
    List.filterMap_eq_nil_iff.2 fun event hevent => RunEvent.reaped?_of_tellsEnd (hquiet event hevent)
  have hreported : added.filterMap RunEvent.reported? = [] :=
    List.filterMap_eq_nil_iff.2 fun event hevent => RunEvent.reported?_of_tellsEnd (hquiet event hevent)
  refine ⟨?_, ?_⟩
  · rw [hhistory, List.filterMap_append, List.filterMap_append, hreaped, hreported]
    exact h.reaped
  · rw [hhistory, List.filterMap_append, hreaped, hreports]
    exact h.tells

variable {run run' : Run Nat (Reporting W)}

theorem launch_silent {task : Task Nat} {rest : List (Task Nat)}
    (hcall : run.launch (reportedSetting queue host batch options fuel) task rest = .ok run') : Silent run run' := by
  rcases launch_ok hcall with ⟨error, after, w, hexecute, rfl⟩ | ⟨after, w, hexecute, rfl⟩
  · obtain ⟨w, rfl⟩ := Host.execute_leaves Reporting.worldPart_lawful hexecute
    exact .add [_, _] rfl (by simp [RunEvent.tellsEnd]) rfl
  · obtain ⟨w, rfl⟩ := Host.execute_leaves Reporting.worldPart_lawful hexecute
    exact .add [.began after.id, .spawned after.id] rfl
      (by simp [RunEvent.tellsEnd]) rfl

theorem listen_silent {event : ReadyEvent} {task : Task Nat} {result : Except Error Bool}
    (hcall : run.listen (reportedSetting queue host batch options fuel) event task = .ok (result, run')) :
    Silent run run' := by
  rcases listen_ok hcall with ⟨-, rfl⟩ | ⟨after, w, failed, hread, rfl⟩
  · exact .add [] rfl (List.forall_mem_nil _) rfl
  · obtain ⟨w, rfl⟩ := Host.readAvailable_leaves Reporting.worldPart_lawful hread
    refine .add _ rfl ?_ rfl
    cases failed <;> simp [RunEvent.tellsEnd]

theorem readRest_silent {id : TaskId} {task : Task Nat}
    (hcall : run.readRest (reportedSetting queue host batch options fuel) id task = .ok run') : Silent run run' := by
  rcases readRest_ok hcall with ⟨after, w, hread, rfl⟩ | ⟨error, between, u, result, after, w, hread, hclose, rfl⟩
  · obtain ⟨w, rfl⟩ := Host.readToClose_leaves Reporting.worldPart_lawful hread
    exact .add [] rfl (List.forall_mem_nil _) rfl
  · obtain ⟨u, rfl⟩ := Host.readToClose_leaves Reporting.worldPart_lawful hread
    obtain ⟨w, rfl⟩ := Host.finishExecution_leaves Reporting.worldPart_lawful hclose
    exact .add [_, _] rfl (by simp [RunEvent.tellsEnd]) rfl

/-- The hook for reports takes down one of a task that was reaped. -/
theorem terminated_reports {now : W → Nat} {task : Task Nat} {termination : Termination}
    (h : task.termination = some termination) (policy : Policy) (r : Reporting W) :
    ((reportingHooks batch options now).terminated policy task r).2.reports =
      .ofTask (nameIn batch task) task (now r.session.world) :: r.reports := by
  cases termination <;> simp only [Hooks.terminated, Hooks.tellReported, Hooks.judge, h, reportingHooks,
    Reporting.add] <;> split <;> rfl

/-- Settling a task adds a report exactly if its end was learnt. -/
theorem settle_reported {stage : Stage Nat} {task : Task Nat} {result : Except Error Unit}
    (hcourse : OnReportedCourse queue host batch options fuel v ⟨stage, run⟩) (hreaping : stage.reaping? = some task)
    (h : Reported queue host batch options fuel v run)
    (hcall : run.settle (reportedSetting queue host batch options fuel) task = .ok (result, run')) :
    Reported queue host batch options fuel v run' := by
  obtain ⟨reaped, between, u, drained, after, u', hreap, hclose, hsettled⟩ := settle_ok hcall
  obtain ⟨w, hu⟩ := Host.reap_leaves Reporting.worldPart_lawful hreap
  obtain ⟨w', hu'⟩ := Host.finishIfRunning_leaves Reporting.worldPart_lawful hclose
  have hreports : u'.reports = run.world.reports := by
    rw [hu', hu]
    rfl
  rcases hsettled with ⟨error, -, -, rfl⟩ | ⟨termination, rfl, -, rfl⟩
  · refine h.silent (.add [_] rfl ?_ hreports)
    simp [RunEvent.tellsEnd]
  · have htermination : after.termination = some termination :=
      (Task.finishIfRunning_keeps hclose).2.trans (Task.reap_termination hreap)
    have htells : Tells queue host batch options fuel v (after.id, termination)
        (.ofTask (nameIn batch after) after (host.now u'.session.world)) :=
      ⟨stage, run, task, between, u, drained, after, u', hcourse, hreaping, hreap, hclose, rfl, rfl⟩
    cases hverdict : (reportingHooks batch options host.now).terminated queue.options.policy after u' with
    | mk verdict w =>
      have hadded : w.reports = .ofTask (nameIn batch after) after (host.now u'.session.world) :: run.world.reports := by
        rw [← hreports, ← terminated_reports htermination queue.options.policy u', hverdict]
      have hjudged : Reported queue host batch options fuel v
          (((run.inWorld u').note (.reaped after.id termination)).judge after.id termination verdict w) := by
        refine ⟨?_, ?_⟩
        · exact congrArg (after.id :: ·) h.reaped
        · show List.Forall₂ _ ((after.id, termination) :: run.history.filterMap RunEvent.reaped?) w.reports
          rw [hadded]
          exact .cons htells h.tells
      have hconcluded : Reported queue host batch options fuel v
          (((run.inWorld u').note (.reaped after.id termination)).conclude
            (reportedSetting queue host batch options fuel) after) := by
        rw [conclude_eq htermination hverdict]
        split
        · exact hjudged.silent (.record _ _)
        · exact hjudged
      refine hconcluded.silent (.add [_] rfl ?_ rfl)
      simp [RunEvent.tellsEnd]

/-- All along its course a run has reported the tasks that were reaped. -/
theorem OnReportedCourse.reported {point : Point Nat (Reporting W)} (hv : v.reports = [])
    (h : OnReportedCourse queue host batch options fuel v point) :
    Reported queue host batch options fuel v point.run := by
  induction h with
  | refl =>
    refine ⟨rfl, ?_⟩
    show List.Forall₂ _ [] v.reports
    rw [hv]
    exact .nil
  | tail hbefore hstep ih =>
    -- Only a step that settles a task tells of an end; all others are silent.
    cases hstep with
    | launch hroom hpending hcall => exact ih.silent (launch_silent hcall)
    | watch hsome hbusy =>
      refine ih.silent (.add [_] rfl ?_ rfl)
      simp [Run.waitingEvent, RunEvent.tellsEnd]
    | wake hcall =>
      obtain ⟨w, rfl⟩ := Host.watch_leaves Reporting.worldPart_lawful hcall
      exact ih.silent (.add [] rfl (List.forall_mem_nil _) rfl)
    | watchFail hcall =>
      obtain ⟨w, rfl⟩ := Host.watch_leaves Reporting.worldPart_lawful hcall
      refine ih.silent (.add [_, _] rfl ?_ rfl)
      simp [RunEvent.tellsEnd]
    | readFail hsome hcall => exact ih.silent ((listen_silent hcall).trans (.record _ _))
    | read hsome hcall hmore => exact ih.silent (listen_silent hcall)
    | retire hsome hcall hend hafter =>
      refine (ih.silent (listen_silent hcall)).silent (.add [_] rfl ?_ rfl)
      simp [RunEvent.tellsEnd]
    | part hsome hcall hafter =>
      refine (ih.silent (readRest_silent hcall)).silent (.add [_] rfl ?_ rfl)
      simp [RunEvent.tellsEnd]
    | settle hcall | finish hcall => exact settle_reported hbefore rfl ih hcall
    | settleFail hcall | finishFail hcall =>
      exact (settle_reported hbefore rfl ih hcall).silent (.record _ _)
    | compact | skip | abort | pass => exact ih.silent (.add [] rfl (List.forall_mem_nil _) rfl)

/-! ## Which entry a report belongs to -/

/-- The name, the command line and the kind of capture in a report are those of an entry. -/
def Describes (batch : Batch) (separateByDefault : Bool) (index : Nat) (report : TaskReport) : Prop :=
  ∃ entry, batch.tasks[index]? = some entry ∧ report.name = entry.displayName ∧
    report.command = entry.spec.commandLine ∧
    report.errors.isSome = entry.separateErrors.getD separateByDefault

/-- A task asks for what an entry says, under the identifier that was drawn for it. -/
def Asks (drawId : Nat → TaskId) (batch : Batch) (separateByDefault : Bool) (index : Nat) (task : Task Nat) : Prop :=
  ∃ entry, batch.tasks[index]? = some entry ∧
    task.request = ⟨drawId index, entry.spec, index, entry.separateErrors.getD separateByDefault⟩

/-- The end in a report was learnt of the process that the host started for the entry: the task had left the queue, at
a point of the course, a wait for its process gave a status, and the report has what the bits of the status tell. -/
def Learnt (drawId : Nat → TaskId) (queue : Queue Nat) (host : Host W) (batch : Batch) (options : RunOptions)
    (fuel : Nat) (v : Reporting W) (index : Nat) (report : TaskReport) : Prop :=
  ∃ stage run task child status usage termination u w,
    OnReportedCourse queue host batch options fuel v ⟨stage, run⟩ ∧ stage.reaping? = some task ∧
    Asks drawId batch queue.options.separateErrors index task ∧
    queue.StartedFor (host.within Reporting.worldPart) (reportingHooks batch options host.now) fuel v task ∧
    task.process = some child ∧ report.pid = some child.pid ∧
    Capture.awaitEnd host child.pid fuel run.world.session.world = .ok (.ok (status, usage), w) ∧
    host.wait child.pid u = (.answer (status, usage), w) ∧ status.Tells termination ∧
    report.termination = some termination ∧ report.usage = some usage

variable {drawId : Nat → TaskId}

theorem asks_of_mem {separateByDefault : Bool} {now : Nat} {task : Task Nat}
    (h : task ∈ entryTasks drawId separateByDefault now 0 batch.tasks) :
    ∃ index, Asks drawId batch separateByDefault index task := by
  obtain ⟨⟨entry, index⟩, hmem, rfl⟩ := List.mem_map.1 h
  exact ⟨index, entry, List.mk_mem_zipIdx_iff_getElem?.1 hmem, rfl⟩

theorem Asks.id {separateByDefault : Bool} {index : Nat} {task : Task Nat}
    (h : Asks drawId batch separateByDefault index task) : task.id = drawId index := by
  obtain ⟨entry, -, hrequest⟩ := h
  exact congrArg TaskRequest.id hrequest

/-- The report of a task describes the entry that the task was queued for. -/
theorem Asks.describes {separateByDefault : Bool} {index : Nat} {task : Task Nat}
    (h : Asks drawId batch separateByDefault index task) (now : Nat) :
    Describes batch separateByDefault index (.ofTask (nameIn batch task) task now) := by
  obtain ⟨entry, hentry, hrequest⟩ := h
  have hspec : task.spec = entry.spec := congrArg TaskRequest.spec hrequest
  have hcontext : task.context = index := congrArg TaskRequest.context hrequest
  have hseparate : task.separateErrors = entry.separateErrors.getD separateByDefault :=
    congrArg TaskRequest.separateErrors hrequest
  refine ⟨entry, hentry, ?_, ?_, ?_⟩
  · show nameIn batch task = entry.displayName
    rw [nameIn, hcontext, hentry]
  · show task.spec.commandLine = entry.spec.commandLine
    rw [hspec]
  · show (task.errors?.map Text.ofBytes).isSome = entry.separateErrors.getD separateByDefault
    rw [← hseparate, Task.errors?]
    cases task.separateErrors <;> rfl

theorem Asks.of_request {separateByDefault : Bool} {index : Nat} {task after : Task Nat}
    (h : Asks drawId batch separateByDefault index task) (hrequest : after.request = task.request) :
    Asks drawId batch separateByDefault index after := by
  obtain ⟨entry, hentry, hasked⟩ := h
  exact ⟨entry, hentry, hrequest.trans hasked⟩

theorem awaitEnd_of_within {pid : Pid} {found : Except Os.Fault (WaitStatus × ResourceUsage)} {r u : Reporting W}
    (h : Capture.awaitEnd (host.within Reporting.worldPart) pid fuel r = .ok (found, u)) :
    ∃ w, Capture.awaitEnd host pid fuel r.session.world = .ok (found, w) := by
  have hwithin : Capture.awaitEnd (host.within Reporting.worldPart) pid fuel r =
      (Capture.awaitEnd host pid fuel r.session.world).map (Reporting.worldPart.put r) :=
    Host.awaitEnd_within Reporting.worldPart_lawful host r.session.world r pid fuel
  rw [h] at hwithin
  cases hcall : Capture.awaitEnd host pid fuel r.session.world with
  | error halt =>
    rw [hcall] at hwithin
    cases hwithin
  | ok result =>
    rw [hcall] at hwithin
    cases hwithin
    exact ⟨result.2, rfl⟩

/-- What is told of a task that was reaped is told of an entry, and was learnt of its process. -/
theorem Tells.entry {now : Nat}
    (hpending : queue.pending = entryTasks drawId queue.options.separateErrors now 0 batch.tasks)
    {learnt : TaskId × Termination} {report : TaskReport}
    (h : Tells queue host batch options fuel v learnt report) :
    ∃ index, learnt.1 = drawId index ∧ Describes batch queue.options.separateErrors index report ∧
      Learnt drawId queue host batch options fuel v index report ∧ report.termination = some learnt.2 := by
  obtain ⟨stage, run, task, between, u, drained, after, u', hcourse, hreaping, hreap, hclose, hid, rfl⟩ := h
  have hsound : Sound queue.pending (Point.moment ⟨stage, run⟩) :=
    Moves.sound (Queue.OnCourse.moves hcourse) (sound_start v)
  have hleaving : (Point.moment (W := Reporting W) ⟨stage, run⟩).phase.leaving? = some task := by
    show stage.phase.leaving? = some task
    rw [Stage.phase_of_reaping hreaping]
    rfl
  obtain ⟨origin, horigin, hrequest⟩ := hsound.leaving task hleaving
  obtain ⟨index, hindex⟩ := asks_of_mem (hpending ▸ horigin)
  have htask : Asks drawId batch queue.options.separateErrors index task := hindex.of_request hrequest
  have hsame : task.Same after := (Task.reap_same hreap).trans (Task.finishIfRunning_same hclose)
  have hafter : Asks drawId batch queue.options.separateErrors index after := htask.of_request hsame.request
  obtain ⟨child, status, usage, hprocess, hwait, hstatus, hbetween⟩ := Task.reap_learns hreap
  have hstarted := (Queue.OnCourse.started hcourse).2 task hreaping
  have hpid : after.pid = some child.pid := by
    obtain ⟨-, -, -, -, started, -, -, -, -, -, hpid, hnumber⟩ := hstarted
    rw [hprocess] at hnumber
    rw [hsame.pid, hpid]
    exact hnumber.symm
  obtain ⟨w, hlearnt⟩ : ∃ w, Capture.awaitEnd host child.pid fuel run.world.session.world =
      .ok (.ok (status, usage), w) := awaitEnd_of_within hwait
  obtain ⟨u₀, hreply⟩ := Capture.awaitEnd_reply hlearnt
  have htermination : after.termination = some learnt.2 :=
    (Task.finishIfRunning_keeps hclose).2.trans (Task.reap_termination hreap)
  have husage : after.usage = some usage := by
    rw [Task.finishIfRunning_usage hclose, hbetween]
  exact ⟨index, hid.symm.trans hafter.id, hafter.describes _,
    ⟨stage, run, task, child, status, usage, learnt.2, u₀, w, hcourse, hreaping, htask, hstarted, hprocess, hpid,
      hlearnt, hreply, Termination.tells_iff.2 hstatus, htermination, husage⟩, htermination⟩

/-- The report of a batch that has ended. -/
def reportOf (queue : Queue Nat) (outcome : BatchOutcome Nat (Reporting W)) : BatchReport where
  runner := queue.kind
  error := match outcome.result with
    | .ok () => none
    | .error error => some error
  stats := outcome.queue.stats
  tasks := outcome.world.reports.reverse

end Cli

end BatchRunner
