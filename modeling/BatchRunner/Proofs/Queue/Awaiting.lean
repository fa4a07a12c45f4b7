import BatchRunner.Proofs.Queue.Captures

/-!
# What is open while a process is waited for

A process whose output shares one pipe, and any process that is let run to its end, is waited for only when nobody
can write to its pipes any more, or when their reading ends were given up: in either case a full pipe does not keep
it from ending. And the pipes of a process stay open until it was waited for, unless they could not be read
(`Queue.awaits_before_closing`). A separate standard error of a task that is retired is open and may be written to
while the process is waited for; only what cannot be written to standard output either is ended by then
(`Queue.unblocked_of_shared`).
-/

namespace BatchRunner

variable {κ W : Type} {account : Account W}

/-! ## Waiting for a process -/

/-- The worlds in which the end of a process is waited for: the first, and those after a wait that was
interrupted. -/
inductive Capture.Awaits (host : Host W) (pid : Pid) (w : W) : W → Prop
  | first : Awaits host pid w w
  | again {v v' : W} {cause : Os.Fault} (hbefore : Awaits host pid w v) (hwait : host.wait pid v = (.fault cause, v'))
      (hagain : cause.isInterruption = true) : Awaits host pid w v'

namespace Capture.Awaits

variable {host : Host W} {pid : Pid} {w v : W}

theorem along {R : W → W → Prop} (h : Awaits host pid w v) (hrefl : R w w)
    (htrans : ∀ {w w' w''}, R w w' → R w' w'' → R w w'') (hwait : ∀ w, R w (host.wait pid w).2) : R w v := by
  induction h with
  | first => exact hrefl
  | @again v v' cause hbefore hreply hagain ih =>
    have hlast := hwait v
    rw [hreply] at hlast
    exact htrans ih hlast

theorem grows {hooks : Hooks κ W} (h : Awaits host pid w v) (hpiped : account.Piped host hooks) :
    account.Grows [] w v :=
  h.along (.refl [] w) .trans (hpiped.wait_grows pid)

theorem keeps {hooks : Hooks κ W} (h : Awaits host pid w v) (horderly : account.Orderly host hooks) :
    account.Keeps [] [pid] w v :=
  h.along (.refl [] [pid] w) .trans (horderly.wait pid)

end Capture.Awaits

/-- What was learnt of a process was learnt by a wait for it, the last one that was made. -/
theorem Capture.awaitEnd_awaits {host : Host W} {pid : Pid} {fuel : Nat} {w w' : W}
    {found : Except Os.Fault (WaitStatus × ResourceUsage)} (hcall : awaitEnd host pid fuel w = .ok (found, w')) :
    ∃ v reply, Awaits host pid w v ∧ host.wait pid v = (reply, w') := by
  suffices h : ∀ u, Awaits host pid w u → awaitEnd host pid fuel u = .ok (found, w') →
      ∃ v reply, Awaits host pid w v ∧ host.wait pid v = (reply, w') from h w .first hcall
  clear hcall
  intro u hu hcall
  induction fuel generalizing u with
  | zero => cases hcall
  | succ fuel ih =>
    rw [awaitEnd] at hcall
    rcases hreply : host.wait pid u with ⟨_ | cause | _, v⟩
    · rw [hreply] at hcall
      cases hcall
      exact ⟨u, _, hu, hreply⟩
    · rw [hreply] at hcall
      dsimp only at hcall
      split at hcall
      · next hagain => exact ih v (.again hu hreply hagain) hcall
      · cases hcall
        exact ⟨u, _, hu, hreply⟩
    · rw [hreply] at hcall
      cases hcall

/-! ## Pipes while a process is waited for -/

theorem Task.Attached.mem_stdout {task : Task κ} {child : Child} {w : W} (h : task.Attached account w child)
    (hmerged : task.separateErrors = false) {fd : Fd} (hfd : fd ∈ child.descriptors) : fd ∈ child.stdout := by
  rcases Child.mem_descriptors.1 hfd with hout | herr
  · exact hout
  · rw [h.merged hmerged] at herr
    cases herr

/-- No pipe of a process keeps it from ending while it is waited for: nobody can write to the pipe any more, or its
reading end was closed. -/
def Child.Unblocked (account : Account W) (host : Host W) (w : W) (child : Child) : Prop :=
  ∀ v, Capture.Awaits host child.pid w v → ∀ fd ∈ child.descriptors, account.IsEnded v fd ∨ ¬ account.IsOpen v fd

/-- The pipes of a task are open while its process is waited for, and still when the wait for it has returned. -/
structure Task.OpenUntilAwaited (account : Account W) (host : Host W) (fuel : Nat) (w : W) (child : Child)
    (task : Task κ) : Prop where
  awaiting : ∀ v, Capture.Awaits host child.pid w v → ∀ fd ∈ child.descriptors, account.IsOpen v fd
  awaited : ∀ {reaped between v}, task.reap host fuel w = .ok (reaped, between, v) →
    (∃ u reply, Capture.Awaits host child.pid w u ∧ host.wait child.pid u = (reply, v)) ∧
      ∀ fd ∈ child.descriptors, account.IsOpen v fd

/-- Nothing closes the pipes of a task before the wait for its process has returned. -/
theorem Task.Whole.openUntilAwaited {host : Host W} {hooks : Hooks κ W} {task : Task κ} {child : Child} {w : W}
    (h : task.Whole account w child) (horderly : account.Orderly host hooks) (fuel : Nat) :
    task.OpenUntilAwaited account host fuel w child where
  awaiting := fun _ hawaits fd hfd => (hawaits.keeps horderly).isOpen fd List.not_mem_nil (h.isOpen fd hfd)
  awaited := fun hreap => by
    obtain ⟨found, hawait, -⟩ := Task.reap_awaitEnd h.process hreap
    exact ⟨Capture.awaitEnd_awaits hawait, fun fd hfd =>
      (horderly.reap_keeps h.process hreap).isOpen fd List.not_mem_nil (h.isOpen fd hfd)⟩

theorem Account.Orderly.not_isOpen_closePipes {host : Host W} {hooks : Hooks κ W}
    (h : account.Orderly host hooks) (child : Child) (w : W) :
    ∀ fd ∈ child.descriptors, ¬ account.IsOpen (Capture.closePipes host child w).2 fd := by
  obtain ⟨pid, stdout, stderr⟩ := child
  intro fd hfd
  rcases Child.mem_descriptors.1 hfd with hout | herr
  · obtain rfl : stdout = some fd := hout
    cases stderr with
    | none => exact h.closed fd w
    | some err => exact fun hopen => h.closed fd w ((h.close err _).wasOpen fd hopen)
  · obtain rfl : stderr = some fd := herr
    exact h.closed fd _

namespace Run.Stage

/-- The task that is about to be reaped because its output has ended, and the events that are left. -/
def retiring? : Stage κ → Option (Task κ × List ReadyEvent)
  | retiring task events => some (task, events)
  | _ => none

/-- The task that is about to be reaped after it was let run to its end, and those that are left. -/
def parting? : Stage κ → Option (Task κ × List TaskId)
  | parting task ids => some (task, ids)
  | _ => none

theorem retiring?_eq_some {stage : Stage κ} {task : Task κ} {events : List ReadyEvent} :
    stage.retiring? = some (task, events) ↔ stage = .retiring task events := by
  cases stage <;> simp [retiring?]

theorem parting?_eq_some {stage : Stage κ} {task : Task κ} {ids : List TaskId} :
    stage.parting? = some (task, ids) ↔ stage = .parting task ids := by
  cases stage <;> simp [parting?]

end Run.Stage

namespace Queue

open Run

variable {queue : Queue κ} {host : Host W} {hooks : Hooks κ W} {fuel : Nat} {w : W} {point : Point κ W}

/-- A point of the course at which a task is retired, found by computing it. -/
theorem exists_retiring {α : Type} (n : Nat) (f : Task κ → Run κ W → α) {a : α}
    (h : (do
      let point ← queue.pointAfter host hooks fuel w n
      let (task, _) ← point.stage.retiring?
      return f task point.run) = some a) :
    ∃ task events run, queue.OnCourse host hooks fuel w ⟨.retiring task events, run⟩ ∧ f task run = a := by
  obtain ⟨⟨stage, run⟩, hpoint, h⟩ := Option.bind_eq_some_iff.1 h
  obtain ⟨⟨task, events⟩, hstage, h⟩ := Option.bind_eq_some_iff.1 h
  obtain rfl := Stage.retiring?_eq_some.1 hstage
  exact ⟨task, events, run, onCourse_iff.2 ⟨n, hpoint⟩, Option.some.inj h⟩

/-- A point of the course at which a task is reaped that was let run to its end, found by computing it. -/
theorem exists_parting {α : Type} (n : Nat) (f : Task κ → Run κ W → α) {a : α}
    (h : (do
      let point ← queue.pointAfter host hooks fuel w n
      let (task, _) ← point.stage.parting?
      return f task point.run) = some a) :
    ∃ task ids run, queue.OnCourse host hooks fuel w ⟨.parting task ids, run⟩ ∧ f task run = a := by
  obtain ⟨⟨stage, run⟩, hpoint, h⟩ := Option.bind_eq_some_iff.1 h
  obtain ⟨⟨task, ids⟩, hstage, h⟩ := Option.bind_eq_some_iff.1 h
  obtain rfl := Stage.parting?_eq_some.1 hstage
  exact ⟨task, ids, run, onCourse_iff.2 ⟨n, hpoint⟩, Option.some.inj h⟩

/-- An executing task has all its pipes. -/
theorem OnCourse.whole (horderly : account.Orderly host hooks) (hids : (queue.pending.map (·.id)).Nodup)
    (h : queue.OnCourse host hooks fuel w point) {entry : TaskId × Task κ} (hmem : entry ∈ point.run.executing) :
    ∃ child, entry.2.Whole account point.run.world child := by
  have hmem' : entry.2 ∈ point.moment.alive := List.mem_append_left _ (List.mem_map_of_mem hmem)
  obtain ⟨child, hchild⟩ := (h.holds horderly hids).apart.attached entry.2 hmem'
  exact ⟨child, hchild.whole (h.running entry hmem)⟩

/-- So has a task that is retired, and nobody can write to its standard output. -/
theorem OnCourse.retiring_whole (hpiped : account.Piped host hooks) (hids : (queue.pending.map (·.id)).Nodup)
    {task : Task κ} {events : List ReadyEvent} {run : Run κ W}
    (h : queue.OnCourse host hooks fuel w ⟨.retiring task events, run⟩) :
    ∃ child, task.Whole account run.world child ∧ ∀ fd ∈ child.stdout, account.IsEnded run.world fd := by
  obtain ⟨child, hchild⟩ := (h.holds hpiped.toOrderly hids).leaving
  exact ⟨child, hchild.whole h.retiring_running, (h.ending hpiped hids).outputEnded rfl hchild⟩

/-- A task that is let run to its end had all its pipes before. They were read to their ends, or could not be read
and were closed. -/
theorem OnCourse.parting_whole (hpiped : account.Piped host hooks) (hids : (queue.pending.map (·.id)).Nodup)
    {task : Task κ} {ids : List TaskId} {run : Run κ W}
    (h : queue.OnCourse host hooks fuel w ⟨.parting task ids, run⟩) :
    ∃ before origin child, queue.OnCourse host hooks fuel w ⟨.finishing (task.id :: ids), before⟩ ∧
      before.executing? task.id = some origin ∧ origin.Whole account before.world child ∧
      task.pid = some child.pid ∧
      ((origin.readToClose host fuel before.world = .ok (.ok (), task, run.world) ∧
          task.Whole account run.world child ∧ ∀ fd ∈ child.descriptors, account.IsEnded run.world fd) ∨
        ((∃ error between v, origin.readToClose host fuel before.world = .ok (.error error, between, v)) ∧
          ∀ fd ∈ child.descriptors, ¬ account.IsOpen run.world fd)) := by
  have hending := h.ending hpiped hids
  obtain ⟨child', hchild'⟩ := (h.holds hpiped.toOrderly hids).leaving
  cases h with
  | tail hbefore hstep =>
    cases hstep with
    | @part run run' id ids origin _ hsome hcall hafter =>
      have hbefore : queue.OnCourse host hooks fuel w ⟨.finishing (id :: ids), run⟩ := hbefore
      obtain ⟨_, hmoves, rfl, -⟩ := (readRest_leads hsome).of_ok hcall
      obtain rfl : task.id = id :=
        ((Moves.sound (hbefore.moves.trans hmoves) (sound_start w)).of_executing? hafter).1
      obtain ⟨child, hwhole⟩ := hbefore.whole hpiped.toOrderly hids (mem_executing_of_executing? hsome)
      have hwhole : origin.Whole account run.world child := hwhole
      -- Pipes are closed here only after a reading that failed; else they were read to their ends and are kept.
      rcases readRest_ok hcall with ⟨put, v, hread, rfl⟩ | ⟨error, between, v, result, put, v', hread, hclose, rfl⟩
      · obtain rfl := eq_of_executing?_update hafter
        have hsame := Task.readToClose_eq hread
        obtain rfl : child' = child := by
          have hprocess := hchild'.process
          rw [hsame] at hprocess
          exact Option.some.inj (hprocess.symm.trans hwhole.process)
        have hstate : task.state = .executing := by
          rw [hsame]
          exact hbefore.running _ (mem_executing_of_executing? hsome)
        exact ⟨run, origin, child', hbefore, hsome, hwhole, hchild'.pid,
          .inl ⟨hread, hchild'.whole hstate, fun fd hfd => (hending fd (hchild'.descriptors_eq ▸ hfd)).isEnded⟩⟩
      · obtain rfl := eq_of_executing?_update hafter
        have hsame := Task.readToClose_eq hread
        have hprocess : between.process = some child := by rw [hsame]; exact hwhole.process
        obtain ⟨ended, drained, u, hlast, -, rfl, hfinished⟩ := Task.finishExecution_eq hprocess hclose
        refine ⟨run, origin, child, hbefore, hsome, hwhole, ?_, .inr ⟨⟨error, between, v, hread⟩, ?_⟩⟩
        · rw [hfinished, Task.readAvailable_eq hlast, hsame]
          exact hwhole.pid
        · exact hpiped.not_isOpen_closePipes child u

/-- Waits and closings come in an order that neither hangs nor breaks a pipe. A task has all its pipes open as long
as it executes, and they stay open until a wait for its process has returned; only those of a task that is let run
to its end are closed before, if they could not be read. While a process is waited for nobody can be blocked
on a pipe that is still open, if its output shares one pipe or it was let run to its end. -/
theorem awaits_before_closing (hpiped : account.Piped host hooks) (hids : (queue.pending.map (·.id)).Nodup)
    (fuel : Nat) (w : W) :
    (∀ point, queue.OnCourse host hooks fuel w point → ∀ entry ∈ point.run.executing,
      ∃ child, entry.2.Whole account point.run.world child) ∧
    (∀ task events run, queue.OnCourse host hooks fuel w ⟨.retiring task events, run⟩ →
      ∃ child, task.Whole account run.world child ∧ task.OpenUntilAwaited account host fuel run.world child ∧
        (task.separateErrors = false → child.Unblocked account host run.world)) ∧
    (∀ task ids run, queue.OnCourse host hooks fuel w ⟨.parting task ids, run⟩ →
      ∃ before origin child, queue.OnCourse host hooks fuel w ⟨.finishing (task.id :: ids), before⟩ ∧
        before.executing? task.id = some origin ∧ origin.Whole account before.world child ∧
        task.pid = some child.pid ∧ child.Unblocked account host run.world ∧
        (task.OpenUntilAwaited account host fuel run.world child ∨
          ∃ error between v, origin.readToClose host fuel before.world = .ok (.error error, between, v))) ∧
    (∀ id before after, queue.events host hooks fuel w = before ++ .retiring id :: after →
      ∃ stage task run, queue.OnCourse host hooks fuel w ⟨stage, run⟩ ∧ stage.reaping? = some task ∧
        task.id = id ∧ run.history.reverse = before ++ [.retiring id]) := by
  refine ⟨fun point hcourse entry => hcourse.whole hpiped.toOrderly hids, fun task events run hcourse => ?_,
    fun task ids run hcourse => ?_, fun id before after => reaping_of_events⟩
  · obtain ⟨child, hwhole, hended⟩ := hcourse.retiring_whole hpiped hids
    refine ⟨child, hwhole, hwhole.openUntilAwaited hpiped.toOrderly fuel, fun hmerged v hawaits fd hfd => .inl ?_⟩
    exact (hawaits.grows hpiped).isEnded List.not_mem_nil (hended fd (hwhole.mem_stdout hmerged hfd))
  · obtain ⟨before, origin, child, hbefore, hsome, hwhole, hpid, hpipes⟩ := hcourse.parting_whole hpiped hids
    refine ⟨before, origin, child, hbefore, hsome, hwhole, hpid, ?_⟩
    rcases hpipes with ⟨-, hafter, hended⟩ | ⟨hfailed, hclosed⟩
    · exact ⟨fun v hawaits fd hfd => .inl ((hawaits.grows hpiped).isEnded List.not_mem_nil (hended fd hfd)),
        .inl (hafter.openUntilAwaited hpiped.toOrderly fuel)⟩
    · exact ⟨fun v hawaits fd hfd => .inr fun hopen =>
        hclosed fd hfd ((hawaits.keeps hpiped.toOrderly).wasOpen fd hopen), .inr hfailed⟩

/-- Of three tasks the first is retired, and the second cannot be read. It and the third are let run to their ends: the
pipe of the one is closed before it is waited for, that of the other after. -/
theorem awaits_before_closing_of_unreadable :
    let queue := Queue.streaming 3 false ["first", "second", "third"]
    let host := Host.scripted 4 fun _ => some [.write false ⟨#[7]⟩]
    Account.scripted.Piped host (Hooks.plain : Hooks Unit Scripted.World) ∧ (queue.pending.map (·.id)).Nodup ∧
      (∃ task events run, ∃ child : Child, queue.OnCourse host .plain 9 (.fresh [1]) ⟨.retiring task events, run⟩ ∧
        task.id = .ofNat 0 ∧ task.OpenUntilAwaited Account.scripted host 9 run.world child ∧
        child.Unblocked Account.scripted host run.world) ∧
      (∃ task ids run, ∃ child : Child, queue.OnCourse host .plain 9 (.fresh [1]) ⟨.parting task ids, run⟩ ∧
        task.id = .ofNat 1 ∧ task.descriptors = [] ∧ child.Unblocked Account.scripted host run.world) ∧
      ∃ task ids run, ∃ child : Child, queue.OnCourse host .plain 9 (.fresh [1]) ⟨.parting task ids, run⟩ ∧
        task.id = .ofNat 2 ∧ task.descriptors = [2] ∧ child.Unblocked Account.scripted host run.world := by
  intro queue host
  have hpiped : Account.scripted.Piped host (Hooks.plain : Hooks Unit Scripted.World) := Account.scripted_piped 4 _
  have hids : (queue.pending.map (·.id)).Nodup := by decide
  obtain ⟨-, hretire, hpart, -⟩ := awaits_before_closing hpiped hids 9 (.fresh [1])
  refine ⟨hpiped, hids, ?_, ?_, ?_⟩
  · obtain ⟨task, events, run, hcourse, heq⟩ : ∃ task events run,
        queue.OnCourse host .plain 9 (.fresh [1]) ⟨.retiring task events, run⟩ ∧
          (task.id, task.separateErrors) = (.ofNat 0, false) :=
      exists_retiring 6 (fun task _ => (task.id, task.separateErrors)) (by decide +kernel)
    obtain ⟨hid, hmerged⟩ := Prod.mk.inj heq
    obtain ⟨child, -, hopen, hunblocked⟩ := hretire task events run hcourse
    exact ⟨task, events, run, child, hcourse, hid, hopen, hunblocked hmerged⟩
  · obtain ⟨task, ids, run, hcourse, heq⟩ : ∃ task ids run,
        queue.OnCourse host .plain 9 (.fresh [1]) ⟨.parting task ids, run⟩ ∧
          (task.id, task.descriptors) = (.ofNat 1, []) :=
      exists_parting 10 (fun task _ => (task.id, task.descriptors)) (by decide +kernel)
    obtain ⟨hid, hdescriptors⟩ := Prod.mk.inj heq
    obtain ⟨-, -, child, -, -, -, -, hunblocked, -⟩ := hpart task ids run hcourse
    exact ⟨task, ids, run, child, hcourse, hid, hdescriptors, hunblocked⟩
  · obtain ⟨task, ids, run, hcourse, heq⟩ : ∃ task ids run,
        queue.OnCourse host .plain 9 (.fresh [1]) ⟨.parting task ids, run⟩ ∧
          (task.id, task.descriptors) = (.ofNat 2, [2]) :=
      exists_parting 12 (fun task _ => (task.id, task.descriptors)) (by decide +kernel)
    obtain ⟨hid, hdescriptors⟩ := Prod.mk.inj heq
    obtain ⟨-, -, child, -, -, -, -, hunblocked, -⟩ := hpart task ids run hcourse
    exact ⟨task, ids, run, child, hcourse, hid, hdescriptors, hunblocked⟩

/-- A separate standard error is no hindrance to a process that is waited for if nobody has it who has not standard
output too, for standard output has ended by then. -/
theorem unblocked_of_shared (hpiped : account.Piped host hooks) (hids : (queue.pending.map (·.id)).Nodup)
    (fuel : Nat) (w : W) :
    ∀ task events run, queue.OnCourse host hooks fuel w ⟨.retiring task events, run⟩ →
      ∃ child, task.Whole account run.world child ∧
        (∀ v, Capture.Awaits host child.pid run.world v → ∀ fd ∈ child.stdout, account.IsEnded v fd) ∧
        ((∀ out ∈ child.stdout, ∀ err ∈ child.stderr, ∀ p q, account.pipe? run.world out = some p →
            account.pipe? run.world err = some q → q.writers ⊆ p.writers) →
          child.Unblocked account host run.world) := by
  intro task events run hcourse
  obtain ⟨child, hwhole, hended⟩ := hcourse.retiring_whole hpiped hids
  refine ⟨child, hwhole, fun v hawaits fd hfd => (hawaits.grows hpiped).isEnded List.not_mem_nil (hended fd hfd),
    fun hshared v hawaits fd hfd => .inl ((hawaits.grows hpiped).isEnded List.not_mem_nil ?_)⟩
  rcases Child.mem_descriptors.1 hfd with hout | herr
  · exact hended fd hout
  · obtain ⟨out, hout⟩ := Option.isSome_iff_exists.1 hwhole.stdout
    obtain ⟨p, hp, hwriters⟩ := hended out hout
    obtain ⟨q, hq⟩ := Option.isSome_iff_exists.1 (hwhole.isOpen fd hfd)
    have hsubset := hshared out hout fd herr p q hp hq
    rw [hwriters] at hsubset
    exact ⟨q, hq, List.subset_nil.1 hsubset⟩

/-- A process that writes to both of its streams and ends is not blocked when it is waited for. -/
theorem unblocked_of_shared_of_two :
    let queue := Queue.streaming 1 true ["both"]
    let host := Host.scripted 4 fun _ => some [.write true ⟨#[8, 9]⟩, .write false ⟨#[7]⟩]
    Account.scripted.Piped host (Hooks.plain : Hooks Unit Scripted.World) ∧ (queue.pending.map (·.id)).Nodup ∧
      ∃ task events run, ∃ child : Child, queue.OnCourse host .plain 9 (.fresh []) ⟨.retiring task events, run⟩ ∧
        task.Whole Account.scripted run.world child ∧ task.separateErrors = true ∧
        child.Unblocked Account.scripted host run.world := by
  intro queue host
  have hpiped : Account.scripted.Piped host (Hooks.plain : Hooks Unit Scripted.World) := Account.scripted_piped 4 _
  have hids : (queue.pending.map (·.id)).Nodup := by decide
  obtain ⟨task, events, run, hcourse, heq⟩ : ∃ task events run,
      queue.OnCourse host .plain 9 (.fresh []) ⟨.retiring task events, run⟩ ∧
        (task.separateErrors, task.process, (Account.scripted.pipe? run.world 1).map (·.writers)) =
          (true, some ⟨0, some 0, some 1⟩, some []) :=
    exists_retiring 4
      (fun task run => (task.separateErrors, task.process, (Account.scripted.pipe? run.world 1).map (·.writers)))
      (by decide +kernel)
  simp only [Prod.mk.injEq] at heq
  obtain ⟨hseparate, hprocess, hwriters⟩ := heq
  obtain ⟨child, hwhole, -, hunblocked⟩ :=
    unblocked_of_shared hpiped hids 9 (.fresh []) task events run hcourse
  obtain rfl : child = ⟨0, some 0, some 1⟩ := Option.some.inj (hwhole.process.symm.trans hprocess)
  refine ⟨hpiped, hids, task, events, run, _, hcourse, hwhole, hseparate, hunblocked ?_⟩
  rintro out - err ⟨⟩ p q - hq
  obtain ⟨q', hq', hnone⟩ := Option.map_eq_some_iff.1 hwriters
  obtain rfl : q' = q := Option.some.inj (hq'.symm.trans hq)
  rw [hnone]
  exact List.nil_subset _

/-- A process that gives up its standard output, and then writes more to standard error than the pipe holds, is waited
for while it waits for somebody to read: the pipe is open and full, and the run never ends. -/
theorem blocked_of_early_close :
    let queue := Queue.streaming 1 true ["early"]
    let host := Host.scripted 4 fun _ => some [.closeOutput, .write true ⟨#[1, 2, 3, 4, 5]⟩]
    (∃ task events run, queue.OnCourse host .plain 9 (.fresh []) ⟨.retiring task events, run⟩ ∧
      task.separateErrors = true ∧ task.process = some ⟨0, some 0, some 1⟩ ∧
      run.world.isBlocked 4 0 1 = true ∧ task.reap host 9 run.world = .error .stalled) ∧
    queue.executeLocally host .plain 9 (.fresh []) = .error .stalled := by
  intro queue host
  obtain ⟨task, events, run, hcourse, heq⟩ : ∃ task events run,
      queue.OnCourse host .plain 9 (.fresh []) ⟨.retiring task events, run⟩ ∧
        (task.separateErrors, task.process, run.world.isBlocked 4 0 1, haltOf? (task.reap host 9 run.world)) =
          (true, some ⟨0, some 0, some 1⟩, true, some .stalled) :=
    exists_retiring 4 (fun task (run : Run Unit Scripted.World) =>
      (task.separateErrors, task.process, run.world.isBlocked 4 0 1, haltOf? (task.reap host 9 run.world)))
      (by decide +kernel)
  simp only [Prod.mk.injEq] at heq
  obtain ⟨hseparate, hprocess, hblocked, hreap⟩ := heq
  exact ⟨⟨task, events, run, hcourse, hseparate, hprocess, hblocked, haltOf?_eq_some.1 hreap⟩,
    haltOf?_eq_some.1 (by decide +kernel)⟩

end Queue

end BatchRunner
