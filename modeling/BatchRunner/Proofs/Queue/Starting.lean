import BatchRunner.Proofs.Queue.Captures

/-!
# Where processes come from

The calls on a task that was started leave it what was asked for and the process that it has (`Task.Same`). So every
task that executes, or is about to be reaped, has the process that the host started for it, at a point of the course
where it was the first in the queue (`Queue.OnCourse.started`).
-/

namespace BatchRunner

variable {κ W : Type}

/-! ## The process of a task -/

namespace Task

variable {task between after : Task κ} {host : Host W} {fuel : Nat} {w w' : W}

/-- A task before and after a call, with the same process. -/
structure Same (task after : Task κ) : Prop where
  request : after.request = task.request
  pid : after.pid = task.pid
  process : after.process.map (·.pid) = task.process.map (·.pid)

theorem Same.refl (task : Task κ) : task.Same task := ⟨rfl, rfl, rfl⟩

theorem Same.trans (h : task.Same between) (h' : between.Same after) : task.Same after :=
  ⟨h'.request.trans h.request, h'.pid.trans h.pid, h'.process.trans h.process⟩

theorem same_of_streams {streams : Capture.Streams} (h : after = { task with streams }) : task.Same after := by
  rw [h]
  exact ⟨rfl, rfl, rfl⟩

theorem readAvailable_same {result : Except Error Bool}
    (h : task.readAvailable host fuel w = .ok (result, after, w')) : task.Same after :=
  same_of_streams (readAvailable_eq h)

theorem readToClose_same {result : Except Error Unit}
    (h : task.readToClose host fuel w = .ok (result, after, w')) : task.Same after :=
  same_of_streams (readToClose_eq h)

theorem reap_same {result : Except Error Termination}
    (h : task.reap host fuel w = .ok (result, after, w')) : task.Same after := by
  rw [reap_eq h]
  exact ⟨rfl, rfl, rfl⟩

/-- What is learnt of the end of a task is what a wait for its process gave. -/
theorem reap_learns {termination : Termination}
    (h : task.reap host fuel w = .ok (.ok termination, after, w')) :
    ∃ child status usage, task.process = some child ∧
      Capture.awaitEnd host child.pid fuel w = .ok (.ok (status, usage), w') ∧
      termination = .ofStatus status ∧ after = { task with usage := some usage, termination := some termination } := by
  unfold reap at h
  split at h
  · cases h
  · split at h
    · cases h
    · next child hprocess =>
      obtain ⟨⟨found, v⟩, hwait, h⟩ := except_bind_ok.1 h
      cases found with
      | error cause => cases h
      | ok end' =>
        obtain ⟨status, usage⟩ := end'
        cases h
        exact ⟨child, status, usage, hprocess, hwait, rfl, rfl⟩

/-- Reaping fails if the wait for the process does. -/
theorem reap_fails {error : Error} (h : task.reap host fuel w = .ok (.error error, after, w')) :
    ∃ child cause, task.process = some child ∧ Capture.awaitEnd host child.pid fuel w = .ok (.error cause, w') ∧
      error = .wait child.pid cause ∧ after = task := by
  unfold reap at h
  split at h
  · cases h
  · split at h
    · cases h
    · next child hprocess =>
      obtain ⟨⟨found, v⟩, hwait, h⟩ := except_bind_ok.1 h
      cases found with
      | error cause =>
        cases h
        exact ⟨child, cause, hprocess, hwait, rfl, rfl⟩
      | ok end' => cases h

/-- Closing the pipes of a process leaves it its number. -/
theorem finishExecution_same {result : Except Error Unit}
    (h : task.finishExecution host fuel w = .ok (result, after, w')) : task.Same after := by
  refine ⟨(finishExecution_keeps h).1, finishExecution_pid h, ?_⟩
  cases hprocess : task.process with
  | none =>
    unfold finishExecution at h
    split at h
    · cases h
    · obtain ⟨⟨ended, drained, v⟩, hread, h⟩ := except_bind_ok.1 h
      have hnone : drained.process = none := by rw [readAvailable_eq hread, hprocess]
      simp only [hnone] at h
      cases h
      rfl
  | some child =>
    obtain ⟨ended, drained, v, -, -, -, hafter⟩ := finishExecution_eq hprocess h
    rw [hafter]
    rfl

theorem finishExecution_usage {result : Except Error Unit}
    (h : task.finishExecution host fuel w = .ok (result, after, w')) : after.usage = task.usage := by
  unfold finishExecution at h
  split at h
  · cases h
  · obtain ⟨⟨ended, drained, v⟩, hread, h⟩ := except_bind_ok.1 h
    have husage : drained.usage = task.usage := by rw [readAvailable_eq hread]
    cases h
    exact husage

theorem finishIfRunning_usage {result : Except Error Unit}
    (h : task.finishIfRunning host fuel w = .ok (result, after, w')) : after.usage = task.usage := by
  unfold finishIfRunning at h
  split at h
  · exact finishExecution_usage h
  · cases h
    rfl

theorem finishIfRunning_same {result : Except Error Unit}
    (h : task.finishIfRunning host fuel w = .ok (result, after, w')) : task.Same after := by
  unfold finishIfRunning at h
  split at h
  · exact finishExecution_same h
  · cases h
    exact .refl task

end Task

/-! ## The tasks of a run -/

namespace Run

variable {setting : RunSetting κ W} {run run' : Run κ W} {p : Task κ → Prop}

/-- What is true of a task as long as it has the same process stays true of executing ones when one is read. -/
theorem listen_forall (hp : ∀ {task after : Task κ}, task.Same after → p task → p after)
    (h : ∀ entry ∈ run.executing, p entry.2) {event : ReadyEvent} {task : Task κ} {result : Except Error Bool}
    (hsome : run.executing? event.owner = some task) (hcall : run.listen setting event task = .ok (result, run')) :
    ∀ entry ∈ run'.executing, p entry.2 := by
  rcases listen_ok hcall with ⟨-, rfl⟩ | ⟨after, w, failed, hread, rfl⟩
  · exact h
  · intro entry hmem
    rcases mem_update hmem with rfl | ⟨hold, -⟩
    · exact hp (Task.readAvailable_same hread) (h _ (mem_executing_of_executing? hsome))
    · exact h entry hold

theorem readRest_forall (hp : ∀ {task after : Task κ}, task.Same after → p task → p after)
    (h : ∀ entry ∈ run.executing, p entry.2) {id : TaskId} {task : Task κ} (hsome : run.executing? id = some task)
    (hcall : run.readRest setting id task = .ok run') : ∀ entry ∈ run'.executing, p entry.2 := by
  have htask : p task := h _ (mem_executing_of_executing? hsome)
  intro entry hmem
  rcases readRest_ok hcall with ⟨after, w, hread, rfl⟩ | ⟨error, between, v, result, after, w, hread, hclose, rfl⟩
  · rcases mem_update hmem with rfl | ⟨hold, -⟩
    · exact hp (Task.readToClose_same hread) htask
    · exact h entry hold
  · rcases mem_update hmem with rfl | ⟨hold, -⟩
    · exact hp ((Task.readToClose_same hread).trans (Task.finishExecution_same hclose)) htask
    · exact h entry hold

end Run

namespace Queue

open Run

variable {queue : Queue κ} {host : Host W} {hooks : Hooks κ W} {fuel : Nat} {w : W}

/-- The host started the process of a task for it, at a point of the course where it was the first in the queue. -/
def StartedFor (queue : Queue κ) (host : Host W) (hooks : Hooks κ W) (fuel : Nat) (w : W) (task : Task κ) : Prop :=
  ∃ run first rest vars child w', queue.OnCourse host hooks fuel w ⟨.admitting, run⟩ ∧
    run.pending = first :: rest ∧ first.request = task.request ∧
    host.spawn ⟨task.spec.program, task.spec.args, vars, task.separateErrors⟩ run.world = (.ok child, w') ∧
    task.pid = some child.pid ∧ task.process.map (·.pid) = some child.pid

theorem StartedFor.of_same {task after : Task κ} (hsame : task.Same after)
    (h : queue.StartedFor host hooks fuel w task) : queue.StartedFor host hooks fuel w after := by
  obtain ⟨run, first, rest, vars, child, w', hcourse, hpending, hrequest, hspawn, hpid, hprocess⟩ := h
  have hspec : after.spec = task.spec := Task.spec_eq_of_request_eq hsame.request
  have hseparate : after.separateErrors = task.separateErrors := congrArg TaskRequest.separateErrors hsame.request
  refine ⟨run, first, rest, vars, child, w', hcourse, hpending, hrequest.trans hsame.request.symm, ?_,
    hsame.pid.trans hpid, hsame.process.trans hprocess⟩
  rw [hspec, hseparate]
  exact hspawn

theorem startedFor_of_execute {run : Run κ W} {task after : Task κ} {rest : List (Task κ)} {w' : W}
    (hcourse : queue.OnCourse host hooks fuel w ⟨.admitting, run⟩) (hpending : run.pending = task :: rest)
    (hcall : task.execute host queue.source run.world = .ok (.ok (), after, w')) :
    queue.StartedFor host hooks fuel w after := by
  have hrequest : after.request = task.request := Task.execute_request hcall
  obtain ⟨vars, child, hspawn, hafter⟩ := Task.execute_ok hcall
  have hspec : after.spec = task.spec := Task.spec_eq_of_request_eq hrequest
  have hseparate : after.separateErrors = task.separateErrors := congrArg TaskRequest.separateErrors hrequest
  refine ⟨run, task, rest, vars, child, w', hcourse, hpending, hrequest.symm, ?_, ?_, ?_⟩
  · rw [hspec, hseparate]
    exact hspawn
  · rw [hafter]
  · rw [hafter]
    rfl

/-- The tasks that execute, and the one that is about to be reaped, have the processes that the host started for
them. -/
theorem OnCourse.started {point : Point κ W} (h : queue.OnCourse host hooks fuel w point) :
    (∀ entry ∈ point.run.executing, queue.StartedFor host hooks fuel w entry.2) ∧
      ∀ task, point.stage.reaping? = some task → queue.StartedFor host hooks fuel w task := by
  induction h with
  | refl => exact ⟨List.forall_mem_nil _, fun task hreaping => by cases hreaping⟩
  | tail hbefore hstep ih =>
    obtain ⟨hexecuting, -⟩ := ih
    cases hstep with
    | launch hroom hpending hcall =>
      refine ⟨?_, fun task hreaping => by cases hreaping⟩
      rcases launch_ok hcall with ⟨error, after, w, -, rfl⟩ | ⟨after, w, hexecute, rfl⟩
      · exact hexecuting
      · intro entry hmem
        rcases List.mem_append.1 hmem with hold | hnew
        · exact hexecuting entry (List.mem_of_mem_filter hold)
        · rw [List.mem_singleton.1 hnew]
          exact startedFor_of_execute hbefore hpending hexecute
    | readFail hsome hcall =>
      have hread := listen_forall StartedFor.of_same hexecuting hsome hcall
      exact ⟨hread, fun task hreaping => by cases hreaping⟩
    | read hsome hcall hmore =>
      exact ⟨listen_forall StartedFor.of_same hexecuting hsome hcall, fun task hreaping => by cases hreaping⟩
    | retire hsome hcall hend hafter =>
      have hread := listen_forall StartedFor.of_same hexecuting hsome hcall
      refine ⟨fun entry hmem => hread entry (List.mem_of_mem_filter hmem), fun task hreaping => ?_⟩
      obtain rfl := Option.some.inj hreaping
      exact hread _ (mem_executing_of_executing? hafter)
    | part hsome hcall hafter =>
      have hread := readRest_forall StartedFor.of_same hexecuting hsome hcall
      refine ⟨fun entry hmem => hread entry (List.mem_of_mem_filter hmem), fun task hreaping => ?_⟩
      obtain rfl := Option.some.inj hreaping
      exact hread _ (mem_executing_of_executing? hafter)
    | settle hcall | finish hcall =>
      rw [(settle_keeps hcall).1]
      exact ⟨hexecuting, fun task hreaping => by cases hreaping⟩
    | settleFail hcall | finishFail hcall =>
      refine ⟨?_, fun task hreaping => by cases hreaping⟩
      rw [show (Run.record _ _).executing = _ from (settle_keeps hcall).1]
      exact hexecuting
    | _ => exact ⟨hexecuting, fun task hreaping => by cases hreaping⟩

end Queue

end BatchRunner
