import BatchRunner.Proofs.Host.Scripted
import BatchRunner.Proofs.Queue.Ending

/-!
# Tasks are captured exactly

When a task is reported its output is all that was ever written to its standard output, and its errors are all
that was written to a separate standard error up to the last read from it, unless a reading of the task failed
(`Queue.captured_exactly`). The final reading finds standard output without writers, whichever way the task was
taken out, so that nothing can be missed; standard error may be held open by others, but what the process itself
wrote was written before its end was learnt, and so before the final reading.
-/

namespace BatchRunner

variable {κ W : Type} {account : Account W}

/-- What was captured of a process whose end was learnt in one world, when its pipes were last read in another. -/
structure Task.Captures (account : Account W) (v u : W) (child : Child) (task : Task κ) : Prop where
  /-- Nobody can write to standard output any more, and all that was written to it was captured. -/
  output : ∃ fd p, child.stdout = some fd ∧ account.pipe? u fd = some p ∧ p.writers = [] ∧
    task.output = p.written
  /-- All that was written to a separate standard error was captured, and all that the process wrote to it was
  written when its end was learnt. -/
  errors : ∀ fd, child.stderr = some fd → ∃ p q, account.pipe? v fd = some p ∧ child.pid ∉ p.writers ∧
    account.pipe? u fd = some q ∧ (∃ more, q.written = p.written ++ more) ∧ task.errors? = some q.written
  /-- Streams that share a pipe are captured as one. -/
  merged : task.separateErrors = false → child.stderr = none ∧ task.streams.errors = .empty

/-- The last reading of a task with all its pipes, after the end of its process was learnt, captures all that can be
had if nobody could write to standard output before. -/
theorem Task.Whole.captures {host : Host W} {hooks : Hooks κ W} {fuel : Nat} {w v w' : W} {child : Child}
    {task between after : Task κ} {termination : Termination} {drained : Except Error Unit}
    (h : task.Whole account w child) (hpiped : account.Piped host hooks) (hreadable : child.Readable account w)
    (hfilled : task.Filled account w child) (hstate : task.state = .executing)
    (hended : ∀ fd ∈ child.stdout, account.IsEnded w fd)
    (hreap : task.reap host fuel w = .ok (.ok termination, between, v))
    (hclose : between.finishIfRunning host fuel v = .ok (drained, after, w')) :
    ∃ ended last u, task.process = some child ∧ between.readAvailable host fuel v = .ok (ended, last, u) ∧
      w' = (Capture.closePipes host child u).2 ∧ after.hasOpenPipes = false ∧ after.Filled account u child ∧
      (drained = .ok () → after.Captures account v u child) := by
  have hsame := Task.reap_eq hreap
  have hprocess : between.process = some child := by rw [hsame]; exact h.process
  have hmerged : between.separateErrors = false → child.stderr = none := by rw [hsame]; exact h.merged
  have hrunning : between.state.isRunning = true := by rw [hsame]; simp [hstate, TaskState.isRunning]
  rw [Task.finishIfRunning, if_pos hrunning] at hclose
  have hreadable' := hreadable.keeps (hpiped.reap_keeps h.process hreap)
  obtain ⟨ended, last, u, hread, hworld, hfill, hend⟩ := hreadable'.finishExecution hpiped hprocess hclose
  obtain ⟨_, _, _, hread', -, -, hafter⟩ := Task.finishExecution_eq hprocess hclose
  have hseparate : after.separateErrors = task.separateErrors := by
    rw [hafter, Task.readAvailable_eq hread', hsame]
  have hfilled' := hfill hmerged (hfilled.reap hreadable hpiped h.process hreap)
  refine ⟨ended, last, u, h.process, hread, hworld, by rw [hafter]; rfl, hfilled', fun hok => ?_⟩
  obtain ⟨hexhausted, hcomplete⟩ := hend hok
  exact {
    -- Standard output has ended before the wait. Standard error may go on after it, but not by the process itself:
    -- what that wrote is in the pipe as the wait leaves it, and the final reading comes later.
    output := by
      obtain ⟨fd, hfd⟩ := Option.isSome_iff_exists.1 h.stdout
      obtain ⟨p, hp, hwriters, hunread⟩ := hcomplete (fun fd hfd =>
        (hpiped.reap_grows h.process hreap).isEnded List.not_mem_nil (hended fd hfd)) fd hfd
      exact ⟨fd, p, hfd, hp, hwriters, hfilled'.output.eq_written hfd hp hunread⟩
    errors := fun fd hfd => by
      obtain ⟨p, hp⟩ := Option.isSome_iff_exists.1 (hreadable'.isOpen_stderr fd hfd)
      obtain ⟨q, hq, hmore⟩ := (hpiped.reads_extend child.descriptors).readAvailable hprocess hread fd p hp
      have hapart : after.separateErrors = true := by rw [hseparate, ← h.stderr, hfd]; rfl
      refine ⟨p, q, hp, hpiped.reap_ended h.process hreap hp, hq, hmore, ?_⟩
      rw [Task.errors?, if_pos hapart, hfilled'.errors.eq_written hfd hq (hexhausted fd hfd q hq)]
    merged := fun hfalse => ⟨h.merged (hseparate ▸ hfalse), hfilled'.merged hfalse⟩ }

/-- How a process ended and what its task is reported with, if that is learnt and no last reading fails. -/
def Task.conclusion? (task : Task κ) (host : Host W) (fuel : Nat) (w : W) : Option (Termination × Task κ) :=
  match task.reap host fuel w with
  | .ok (.ok termination, between, v) =>
    match between.finishIfRunning host fuel v with
    | .ok (.ok (), after, _) => some (termination, after)
    | _ => none
  | _ => none

theorem Task.conclusion?_eq_some {task after : Task κ} {host : Host W} {fuel : Nat} {w : W} {termination : Termination}
    (h : task.conclusion? host fuel w = some (termination, after)) :
    ∃ between v w', task.reap host fuel w = .ok (.ok termination, between, v) ∧
      between.finishIfRunning host fuel v = .ok (.ok (), after, w') := by
  unfold conclusion? at h
  split at h
  · next hreap =>
    split at h <;> cases h
    exact ⟨_, _, _, hreap, ‹_›⟩
  · cases h

namespace Run

variable {setting : RunSetting κ W}

/-- The task that is about to be reaped. -/
def Stage.reaping? : Stage κ → Option (Task κ)
  | retiring task _ | parting task _ => some task
  | _ => none

theorem Stage.phase_of_reaping {stage : Stage κ} {task : Task κ} (h : stage.reaping? = some task) :
    stage.phase = .leaving task := by
  cases stage <;> cases h <;> rfl

theorem Ending.outputEnded {stage : Stage κ} {run : Run κ W} {task : Task κ} {child : Child}
    (h : Ending account ⟨stage, run⟩) (hreaping : stage.reaping? = some task)
    (hchild : task.Attached account run.world child) : ∀ fd ∈ child.stdout, account.IsEnded run.world fd := by
  intro fd hfd
  cases stage with
  | retiring other events =>
    cases hreaping
    exact h.1 fd (hchild.stdout_eq ▸ hfd)
  | parting other ids =>
    cases hreaping
    refine (h fd ?_).isEnded
    rw [hchild.descriptors_eq]
    exact Child.mem_descriptors.2 (.inl hfd)
  | _ => cases hreaping

/-- What is reported of a task is what it was when its pipes were closed. -/
theorem settle_eq {run : Run κ W} {task between after : Task κ} {v w : W} {termination : Termination}
    {drained : Except Error Unit}
    (hreap : task.reap setting.host setting.patience run.world = .ok (.ok termination, between, v))
    (hclose : between.finishIfRunning setting.host setting.patience v = .ok (drained, after, w))
    (hpipes : after.hasOpenPipes = false) :
    run.settle setting task = .ok (drained,
      (((run.inWorld w).note (.reaped after.id termination)).conclude setting after).note
        (.settled after.id (failureOf drained))) := by
  unfold settle
  rw [hreap]
  simp only [await, bind, Except.bind, hclose, hpipes]
  rfl

end Run

namespace Queue

open Run

variable {queue : Queue κ} {host : Host W} {hooks : Hooks κ W} {fuel : Nat} {w : W} {point : Point κ W}

theorem OnCourse.fills (hpiped : account.Piped host hooks) (hids : (queue.pending.map (·.id)).Nodup)
    (hfresh : queue.Fresh)
    (h : queue.OnCourse host hooks fuel w point) : Fills account point.moment :=
  Moves.fills hpiped hids h.moves (sound_start w) (tracked_start _ w) (holds_start _ w) (hfresh.fills w)

/-- A task that is about to be reaped executes, unless it could not be read. -/
theorem OnCourse.reaping_running {stage : Stage κ} {run : Run κ W} {task : Task κ}
    (h : queue.OnCourse host hooks fuel w ⟨stage, run⟩) (hreaping : stage.reaping? = some task) :
    task.state = .executing ∨ ∃ error, RunEvent.readFailed task.id error ∈ run.history := by
  cases stage with
  | retiring other events =>
    cases hreaping
    exact .inl h.retiring_running
  | parting other ids =>
    cases hreaping
    cases h with
    | tail hbefore hstep =>
      cases hstep with
      | @part run run' id ids origin _ hsome hcall hafter =>
        have hbefore : queue.OnCourse host hooks fuel w ⟨.finishing (id :: ids), run⟩ := hbefore
        obtain ⟨_, hmoves, rfl, -⟩ := (readRest_leads hsome).of_ok hcall
        have hid := ((Moves.sound (hbefore.moves.trans hmoves) (sound_start w)).of_executing? hafter).1
        rcases readRest_ok hcall with ⟨put, v, hread, rfl⟩ | ⟨error, between, v, result, put, v', -, -, rfl⟩
        · obtain rfl := eq_of_executing?_update hafter
          left
          rw [Task.readToClose_eq hread]
          exact hbefore.running _ (mem_executing_of_executing? hsome)
        · right
          refine ⟨error, ?_⟩
          rw [hid]
          simp [leave, record, note]
  | _ => cases hreaping

/-- The final reading of a task that executes, after its end was learnt. -/
theorem OnCourse.captures (hpiped : account.Piped host hooks) (hids : (queue.pending.map (·.id)).Nodup)
    (hfresh : queue.Fresh) {stage : Stage κ} {run : Run κ W}
    {task between after : Task κ} {termination : Termination} {v w' : W} {drained : Except Error Unit}
    (h : queue.OnCourse host hooks fuel w ⟨stage, run⟩) (hreaping : stage.reaping? = some task)
    (hstate : task.state = .executing) (hreap : task.reap host fuel run.world = .ok (.ok termination, between, v))
    (hclose : between.finishIfRunning host fuel v = .ok (drained, after, w')) :
    ∃ child ended last u, task.process = some child ∧ between.readAvailable host fuel v = .ok (ended, last, u) ∧
      w' = (Capture.closePipes host child u).2 ∧ after.hasOpenPipes = false ∧ after.Filled account u child ∧
      (drained = .ok () → after.Captures account v u child) := by
  have hphase := Stage.phase_of_reaping hreaping
  have hholds : Holds account ⟨.leaving task, run⟩ := hphase ▸ h.holds hpiped.toOrderly hids
  have hfills : Fills account ⟨.leaving task, run⟩ := hphase ▸ h.fills hpiped hids hfresh
  obtain ⟨child, hchild, hreadable⟩ := hholds.of_leaving
  have hfilled := hfills.alive task (List.mem_append_right _ (by simp [Phase.leaving?])) child hchild.process
  have hended := (h.ending hpiped hids).outputEnded hreaping hchild
  exact ⟨child, (hchild.whole hstate).captures hpiped hreadable hfilled hstate hended hreap hclose⟩

/-- A run was about to reap each task that it took out. -/
theorem reaping_of_events {id : TaskId} {before after : List RunEvent}
    (hsplit : queue.events host hooks fuel w = before ++ .retiring id :: after) :
    ∃ stage task run, queue.OnCourse host hooks fuel w ⟨stage, run⟩ ∧ stage.reaping? = some task ∧ task.id = id ∧
      run.history.reverse = before ++ [.retiring id] := by
  have hannounces : (RunEvent.retiring id).announces = true := rfl
  obtain ⟨⟨stage, run⟩, hcourse, hannounced, hhistory⟩ := announced_of_events hannounces hsplit
  cases stage <;> cases hannounced
  · exact ⟨_, _, run, hcourse, rfl, rfl, hhistory⟩
  · exact ⟨_, _, run, hcourse, rfl, rfl, hhistory⟩

/-- What tasks are reported with is exactly what they wrote. At every point the buffers of a task hold what was read
from its pipes. A task of which no reading failed is reported with all that was ever written to its standard output,
and to a separate standard error up to the last read; one whose last reading failed, or whose pipes had to be given
up, with what was read by then. -/
theorem captured_exactly (hpiped : account.Piped host hooks) (hids : (queue.pending.map (·.id)).Nodup)
    (hfresh : queue.Fresh) (fuel : Nat) (w : W) :
    (∀ point, queue.OnCourse host hooks fuel w point → ∀ task ∈ point.moment.alive,
      ∃ child, task.Attached account point.run.world child ∧ task.Filled account point.run.world child) ∧
    (∀ stage task run, queue.OnCourse host hooks fuel w ⟨stage, run⟩ → stage.reaping? = some task →
      (∀ error, RunEvent.readFailed task.id error ∉ run.history) →
        ∀ termination between v drained after w',
          task.reap host fuel run.world = .ok (.ok termination, between, v) →
          between.finishIfRunning host fuel v = .ok (drained, after, w') →
            (∃ child ended last u, task.process = some child ∧
              between.readAvailable host fuel v = .ok (ended, last, u) ∧
              w' = (Capture.closePipes host child u).2 ∧ after.Filled account u child ∧
              (drained = .ok () → after.Captures account v u child)) ∧
            run.settle (queue.setting host hooks fuel) task = .ok (drained,
              (((run.inWorld w').note (.reaped after.id termination)).conclude (queue.setting host hooks fuel)
                after).note (.settled after.id (failureOf drained)))) ∧
    (∀ id ids run task, queue.OnCourse host hooks fuel w ⟨.finishing (id :: ids), run⟩ →
      run.executing? id = some task → ∀ error between v result after w',
        task.readToClose host fuel run.world = .ok (.error error, between, v) →
        between.finishExecution host fuel v = .ok (result, after, w') →
          ∃ child ended last u, task.process = some child ∧
            between.readAvailable host fuel v = .ok (ended, last, u) ∧
            w' = (Capture.closePipes host child u).2 ∧ after.Filled account u child) ∧
    (∀ id before after, queue.events host hooks fuel w = before ++ .retiring id :: after →
      ∃ stage task run, queue.OnCourse host hooks fuel w ⟨stage, run⟩ ∧ stage.reaping? = some task ∧
        task.id = id ∧ run.history.reverse = before ++ [.retiring id]) := by
  refine ⟨?_, ?_, ?_, fun id before after => reaping_of_events⟩
  · intro point hcourse task hmem
    obtain ⟨child, hchild⟩ := (hcourse.holds hpiped.toOrderly hids).apart.attached task hmem
    exact ⟨child, hchild, (hcourse.fills hpiped hids hfresh).alive task hmem child hchild.process⟩
  · intro stage task run hcourse hreaping hread termination between v drained after w' hreap hclose
    have hstate : task.state = .executing :=
      (hcourse.reaping_running hreaping).resolve_right fun ⟨error, hmem⟩ => hread error hmem
    obtain ⟨child, ended, last, u, hprocess, hlast, hworld, hpipes, hfilled, hcaptures⟩ :=
      hcourse.captures hpiped hids hfresh hreaping hstate hreap hclose
    exact ⟨⟨child, ended, last, u, hprocess, hlast, hworld, hfilled, hcaptures⟩, settle_eq hreap hclose hpipes⟩
  · intro id ids run task hcourse hsome error between v result after w' hread hclose
    obtain ⟨child, hchild, hreadable, hfilled⟩ :=
      (hcourse.fills hpiped hids hfresh).of_executing (hcourse.holds hpiped.toOrderly hids) hsome
    have hsame := Task.readToClose_eq hread
    have hprocess : between.process = some child := (congrArg Task.process hsame).trans hchild.process
    have hmerged : between.separateErrors = false → child.stderr = none := fun hseparate =>
      hchild.merged ((congrArg Task.separateErrors hsame).symm.trans hseparate)
    have hbetween := (hreadable.readToClose hpiped hchild.process hread).1 hchild.merged hfilled
    have hreadable' := hreadable.keeps ((hpiped.readsAlong _).readToClose hchild.process hread)
    obtain ⟨ended, last, u, hlast, hworld, hclosed, -⟩ := hreadable'.finishExecution hpiped hprocess hclose
    exact ⟨child, ended, last, u, hchild.process, hlast, hworld, hclosed hmerged hbetween⟩

/-- Of a process that writes more than a pipe holds, and to standard error in between, everything is captured. -/
theorem captured_exactly_of_six :
    let queue := Queue.streaming 1 true ["six"]
    let host := Host.scripted 4 fun _ =>
      some [.write false ⟨#[1, 2, 3, 4, 5]⟩, .write true ⟨#[7, 8]⟩, .write false ⟨#[6]⟩]
    Account.scripted.Piped host (Hooks.plain : Hooks Unit Scripted.World) ∧ (queue.pending.map (·.id)).Nodup ∧
      queue.Fresh ∧
      ∃ stage task run between v after w' child u,
        queue.OnCourse host .plain 9 (.fresh []) ⟨stage, run⟩ ∧ stage.reaping? = some task ∧
        (∀ error, RunEvent.readFailed task.id error ∉ run.history) ∧
        task.reap host 9 run.world = .ok (.ok (.exited 0), between, v) ∧
        between.finishIfRunning host 9 v = .ok (.ok (), after, w') ∧
        after.Captures Account.scripted v u child ∧
        after.output = ⟨#[1, 2, 3, 4, 5, 6]⟩ ∧ after.errors? = some ⟨#[7, 8]⟩ := by
  intro queue host
  have hpiped : Account.scripted.Piped host (Hooks.plain : Hooks Unit Scripted.World) := Account.scripted_piped 4 _
  have hids : (queue.pending.map (·.id)).Nodup := by decide
  have hfresh : queue.Fresh := List.forall_mem_singleton.2 rfl
  have hends : (do
      let point ← queue.pointAfter host .plain 9 (.fresh []) 4
      let task ← point.stage.reaping?
      let (termination, after) ← task.conclusion? host 9 point.run.world
      return (point.run.history, termination, after.output, after.errors?)) =
      some ([.retiring (.ofNat 0), .waiting ⟨[0], [.ofNat 0], [false]⟩ [.ofNat 0] [(0, .ofNat 0)] 0 false,
        .began (.ofNat 0), .spawned (.ofNat 0)], .exited 0, ⟨#[1, 2, 3, 4, 5, 6]⟩, some ⟨#[7, 8]⟩) := by
    decide +kernel
  obtain ⟨⟨stage, run⟩, hpoint, hends⟩ := Option.bind_eq_some_iff.1 hends
  obtain ⟨task, hreaping, hends⟩ := Option.bind_eq_some_iff.1 hends
  obtain ⟨⟨termination, after⟩, hconclusion, hends⟩ := Option.bind_eq_some_iff.1 hends
  obtain ⟨between, v, w', hreap, hclose⟩ := Task.conclusion?_eq_some hconclusion
  simp only [Option.pure_def, Option.some.injEq, Prod.mk.injEq] at hends
  obtain ⟨hhistory, rfl, houtput, herrors⟩ := hends
  have hcourse : queue.OnCourse host .plain 9 (.fresh []) ⟨stage, run⟩ := onCourse_iff.2 ⟨4, hpoint⟩
  have hread : ∀ error, RunEvent.readFailed task.id error ∉ run.history := by simp [hhistory]
  obtain ⟨-, hsettle, -⟩ := captured_exactly hpiped hids hfresh 9 (.fresh [])
  obtain ⟨⟨child, _, _, u, -, -, -, -, hcaptures⟩, -⟩ :=
    hsettle stage task run hcourse hreaping hread _ between v _ after w' hreap hclose
  exact ⟨hpiped, hids, hfresh, stage, task, run, between, v, after, w', child, u, hcourse, hreaping, hread, hreap,
    hclose, hcaptures rfl, houtput, herrors⟩

end Queue

end BatchRunner
