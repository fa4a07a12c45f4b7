import BatchRunner.Proofs.Queue.Starting
import BatchRunner.Proofs.Task.Classifying

/-!
# Where ends are learnt

**Waits** (`Queue.Waited`): at the point of the course where a task is to be reaped, the host is asked for the end of
the process that it started for that task, and answers with a status or fails.

**Ends** (`Queue.Learns`, `Queue.Loses`): an end is learnt if the bits of such a status tell it, and lost if the wait
failed. All ends in a history came about so (`Queue.learns_of_events`, `Queue.loses_of_events`), since they are noted
by the step that settles a task and by no other. Conversely, a run that ends has noted what came of every wait
(`Queue.told_of_waited`), since from each point of its course it goes on to its end and takes nothing back.
-/

namespace BatchRunner

variable {κ W : Type}

/-- An event that tells what came of the wait for the process of a task: the end that the bits of the status tell, or
the failure. -/
def RunEvent.TellsWait (id : TaskId) (pid : Pid) :
    Except Os.Fault (WaitStatus × ResourceUsage) → RunEvent → Prop
  | .ok (status, _), reaped other termination => other = id ∧ status.Tells termination
  | .error cause, lost other error _ => other = id ∧ error = .wait pid cause
  | _, _ => False

namespace Run

variable {setting : RunSetting κ W}

/-- Settling a task tells what came of the wait for its process. -/
theorem settle_told {run run' : Run κ W} {task : Task κ} {child : Child} {result : Except Error Unit}
    {found : Except Os.Fault (WaitStatus × ResourceUsage)} {w' : W} (hprocess : task.process = some child)
    (hawait : Capture.awaitEnd setting.host child.pid setting.patience run.world = .ok (found, w'))
    (hcall : run.settle setting task = .ok (result, run')) :
    ∃ event ∈ run'.history, event.TellsWait task.id child.pid found := by
  obtain ⟨reaped, between, v, drained, after, w, hreap, hclose, hnoted⟩ := settle_ok hcall
  have hid : after.id = task.id :=
    congrArg TaskRequest.id ((Task.finishIfRunning_same hclose).request.trans (Task.reap_same hreap).request)
  rcases hnoted with ⟨error, rfl, -, rfl⟩ | ⟨termination, rfl, -, rfl⟩
  · obtain ⟨child', cause, hprocess', hawait', rfl, -⟩ := Task.reap_fails hreap
    obtain rfl : child = child' := Option.some.inj (hprocess.symm.trans hprocess')
    obtain ⟨rfl, -⟩ := Prod.mk.inj (Except.ok.inj (hawait.symm.trans hawait'))
    exact ⟨_, List.mem_cons_self, hid, rfl⟩
  · obtain ⟨child', status, usage, hprocess', hawait', rfl, -⟩ := Task.reap_learns hreap
    obtain rfl : child = child' := Option.some.inj (hprocess.symm.trans hprocess')
    obtain ⟨rfl, -⟩ := Prod.mk.inj (Except.ok.inj (hawait.symm.trans hawait'))
    obtain ⟨added, hadded, -⟩ :=
      conclude_notes setting ((run.inWorld w).note (.reaped after.id (.ofStatus status))) after
    refine ⟨.reaped after.id (.ofStatus status), List.mem_cons_of_mem _ ?_, hid, Termination.tells_iff.2 rfl⟩
    rw [hadded]
    exact List.mem_append_right _ List.mem_cons_self

/-- The step from a point where a task is to be reaped settles that task. -/
theorem Step.settles {first last : Point κ W} {task : Task κ} (hstep : Step setting first last)
    (hreaping : first.stage.reaping? = some task) :
    ∃ result run', first.run.settle setting task = .ok (result, run') ∧ run'.history ⊆ last.run.history := by
  cases hstep with
  | settle hcall | finish hcall =>
    obtain rfl := Option.some.inj hreaping
    exact ⟨_, _, hcall, List.Subset.refl _⟩
  | settleFail hcall | finishFail hcall =>
    obtain rfl := Option.some.inj hreaping
    exact ⟨_, _, hcall, List.subset_cons_self _ _⟩
  | _ => cases hreaping

/-- Reading notes at most that it failed. -/
theorem listen_forall_history {run run' : Run κ W} {event : ReadyEvent} {task : Task κ} {result : Except Error Bool}
    {p : RunEvent → Prop} (h : ∀ event ∈ run.history, p event)
    (hfailed : ∀ id error, p (.readFailed id error)) (hcall : run.listen setting event task = .ok (result, run')) :
    ∀ event ∈ run'.history, p event := by
  rcases listen_ok hcall with ⟨-, rfl⟩ | ⟨after, w, failed, -, rfl⟩
  · exact h
  · cases failed with
    | none => exact h
    | some error => exact List.forall_mem_cons.2 ⟨hfailed _ _, h⟩

end Run

namespace Queue

open Run

variable {queue : Queue κ} {host : Host W} {hooks : Hooks κ W} {fuel : Nat} {w : W}

/-- At the point where a task was to be reaped, the host was asked for the end of the process that it had started for
the task. The last wait, after those that were interrupted, came to the result. -/
def Waited (queue : Queue κ) (host : Host W) (hooks : Hooks κ W) (fuel : Nat) (w : W) (id : TaskId) (pid : Pid)
    (found : Except Os.Fault (WaitStatus × ResourceUsage)) : Prop :=
  ∃ stage run task v w', queue.OnCourse host hooks fuel w ⟨stage, run⟩ ∧ stage.reaping? = some task ∧ task.id = id ∧
    queue.StartedFor host hooks fuel w task ∧ task.process.map (·.pid) = some pid ∧
    Capture.awaitEnd host pid fuel run.world = .ok (found, w') ∧ host.wait pid v = (.ofResult found, w')

/-- A wait for the process of a task gave a status whose bits tell of an end. -/
def Learns (queue : Queue κ) (host : Host W) (hooks : Hooks κ W) (fuel : Nat) (w : W) (id : TaskId)
    (termination : Termination) : Prop :=
  ∃ pid status usage, queue.Waited host hooks fuel w id pid (.ok (status, usage)) ∧ status.Tells termination

/-- The wait for the process of a task failed. -/
def Loses (queue : Queue κ) (host : Host W) (hooks : Hooks κ W) (fuel : Nat) (w : W) (id : TaskId) (error : Error) :
    Prop :=
  ∃ pid cause, queue.Waited host hooks fuel w id pid (.error cause) ∧ error = .wait pid cause

/-- What an event tells of an end came from a wait. -/
def Borne (queue : Queue κ) (host : Host W) (hooks : Hooks κ W) (fuel : Nat) (w : W) : RunEvent → Prop
  | .reaped id termination => queue.Learns host hooks fuel w id termination
  | .lost id error _ => queue.Loses host hooks fuel w id error
  | _ => True

theorem OnCourse.waited {stage : Stage κ} {run : Run κ W} {task : Task κ} {child : Child} {w' : W}
    {found : Except Os.Fault (WaitStatus × ResourceUsage)} (h : queue.OnCourse host hooks fuel w ⟨stage, run⟩)
    (hreaping : stage.reaping? = some task) (hprocess : task.process = some child)
    (hawait : Capture.awaitEnd host child.pid fuel run.world = .ok (found, w')) :
    queue.Waited host hooks fuel w task.id child.pid found := by
  obtain ⟨v, hwait⟩ := Capture.awaitEnd_reply hawait
  exact ⟨stage, run, task, v, w', h, hreaping, rfl, h.started.2 task hreaping, by rw [hprocess]; rfl, hawait, hwait⟩

theorem OnCourse.settle_borne {stage : Stage κ} {run run' : Run κ W} {task : Task κ} {result : Except Error Unit}
    (h : queue.OnCourse host hooks fuel w ⟨stage, run⟩) (hreaping : stage.reaping? = some task)
    (hcall : run.settle (queue.setting host hooks fuel) task = .ok (result, run'))
    (hborne : ∀ event ∈ run.history, queue.Borne host hooks fuel w event) :
    ∀ event ∈ run'.history, queue.Borne host hooks fuel w event := by
  obtain ⟨reaped, between, v, drained, after, w', hreap, hclose, hnoted⟩ := settle_ok hcall
  have hid : after.id = task.id :=
    congrArg TaskRequest.id ((Task.finishIfRunning_same hclose).request.trans (Task.reap_same hreap).request)
  rcases hnoted with ⟨error, rfl, -, rfl⟩ | ⟨termination, rfl, -, rfl⟩
  · obtain ⟨child, cause, hprocess, hawait, rfl, -⟩ := Task.reap_fails hreap
    refine List.forall_mem_cons.2 ⟨?_, hborne⟩
    exact ⟨child.pid, cause, hid ▸ h.waited hreaping hprocess hawait, rfl⟩
  · obtain ⟨child, status, usage, hprocess, hawait, rfl, -⟩ := Task.reap_learns hreap
    have hlearnt : queue.Learns host hooks fuel w after.id (.ofStatus status) :=
      ⟨child.pid, status, usage, hid ▸ h.waited hreaping hprocess hawait, Termination.tells_iff.2 rfl⟩
    refine List.forall_mem_cons.2 ⟨trivial, ?_⟩
    exact conclude_forall (List.forall_mem_cons.2 ⟨hlearnt, hborne⟩) trivial (fun _ _ => trivial) fun _ => trivial

/-- Every end that a history tells of came from a wait. -/
theorem OnCourse.borne {point : Point κ W} (h : queue.OnCourse host hooks fuel w point) :
    ∀ event ∈ point.run.history, queue.Borne host hooks fuel w event := by
  induction h with
  | refl => exact List.forall_mem_nil _
  | tail hbefore hstep ih =>
    have hcourse : queue.OnCourse host hooks fuel w _ := hbefore
    have hread : ∀ id error, queue.Borne host hooks fuel w (.readFailed id error) := fun _ _ => trivial
    -- Only settling notes an end; of what other steps note there is nothing to show.
    cases hstep with
    | launch hroom hpending hcall =>
      rcases launch_ok hcall with ⟨error, after, w', -, rfl⟩ | ⟨after, w', -, rfl⟩
      · exact List.forall_mem_cons.2 ⟨trivial, List.forall_mem_cons.2 ⟨trivial, ih⟩⟩
      · exact List.forall_mem_cons.2 ⟨trivial, List.forall_mem_cons.2 ⟨trivial, ih⟩⟩
    | watch => exact List.forall_mem_cons.2 ⟨trivial, ih⟩
    | watchFail => exact List.forall_mem_cons.2 ⟨trivial, List.forall_mem_cons.2 ⟨trivial, ih⟩⟩
    | wake | compact | skip | abort | pass => exact ih
    | readFail hsome hcall =>
      have hlisten := listen_forall_history ih hread hcall
      exact List.forall_mem_cons.2 ⟨trivial, hlisten⟩
    | read hsome hcall hmore => exact listen_forall_history ih hread hcall
    | retire hsome hcall hend hafter =>
      have hlisten := listen_forall_history ih hread hcall
      exact List.forall_mem_cons.2 ⟨trivial, hlisten⟩
    | settle hcall => exact hcourse.settle_borne rfl hcall ih
    | settleFail hcall =>
      have hsettle := hcourse.settle_borne rfl hcall ih
      exact List.forall_mem_cons.2 ⟨trivial, hsettle⟩
    | part hsome hcall hafter =>
      rcases readRest_ok hcall with ⟨after, w', -, rfl⟩ | ⟨error, between, v, result, after, w', -, -, rfl⟩
      · exact List.forall_mem_cons.2 ⟨trivial, ih⟩
      · exact List.forall_mem_cons.2 ⟨trivial, List.forall_mem_cons.2 ⟨trivial, List.forall_mem_cons.2 ⟨trivial, ih⟩⟩⟩
    | finish hcall => exact hcourse.settle_borne rfl hcall ih
    | finishFail hcall =>
      have hsettle := hcourse.settle_borne rfl hcall ih
      exact List.forall_mem_cons.2 ⟨trivial, hsettle⟩

theorem borne_of_events {event : RunEvent} (h : event ∈ queue.events host hooks fuel w) :
    queue.Borne host hooks fuel w event := by
  obtain ⟨stage, hcourse⟩ := queue.reached_course host hooks fuel w
  exact OnCourse.borne hcourse event (List.mem_reverse.1 h)

/-- An end that was learnt is told by the bits of the status that a wait for the process of the task gave. -/
theorem learns_of_events {id : TaskId} {termination : Termination}
    (h : .reaped id termination ∈ queue.events host hooks fuel w) : queue.Learns host hooks fuel w id termination :=
  borne_of_events h

/-- An end is lost only if the wait for the process of the task failed. -/
theorem loses_of_events {id : TaskId} {error : Error} {cut : Option Error}
    (h : .lost id error cut ∈ queue.events host hooks fuel w) : queue.Loses host hooks fuel w id error :=
  borne_of_events h

/-- A run that ends tells what came of every wait for the process of a task. -/
theorem told_of_waited {outcome : BatchOutcome κ W} {id : TaskId} {pid : Pid}
    {found : Except Os.Fault (WaitStatus × ResourceUsage)} (h : queue.executeLocally host hooks fuel w = .ok outcome)
    (hwaited : queue.Waited host hooks fuel w id pid found) :
    ∃ event ∈ queue.events host hooks fuel w, event.TellsWait id pid found := by
  obtain ⟨stage, run, task, v, w', hcourse, hreaping, rfl, -, hpid, hawait, -⟩ := hwaited
  obtain ⟨child, hprocess, rfl⟩ := Option.map_eq_some_iff.1 hpid
  obtain ⟨last, hsteps, hover⟩ := hcourse.goes_on (runLocally_of_executeLocally h).1
  rcases Relation.ReflTransGen.cases_head hsteps with hlast | ⟨next, hstep, hrest⟩
  · -- Where a task is to be reaped, something is left to do.
    obtain ⟨rfl, -⟩ := Point.mk.inj hlast
    cases stage with
    | retiring | parting => exact hover.elim
    | _ => cases hreaping
  · obtain ⟨result, run', hcall, hsettled⟩ := hstep.settles hreaping
    obtain ⟨event, hmem, htells⟩ := settle_told hprocess hawait hcall
    have hlater : queue.OnCourse host hooks fuel w next := hcourse.tail hstep
    exact ⟨event, List.mem_reverse.2 (hlater.history_subset hrest (hsettled hmem)), htells⟩

end Queue

end BatchRunner
