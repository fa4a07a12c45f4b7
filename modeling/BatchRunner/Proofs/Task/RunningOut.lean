import BatchRunner.Proofs.Host.Alike
import BatchRunner.Proofs.Host.Within

/-!
# Letting a task run out

After a failure the tasks that still execute are let run to their ends, one by one. What becomes of one of them
(`Task.runOut`) is the same in worlds that are alike to its process (`Task.runOut_told`), and changes the world only
as the calls on its pipes and its process do (`Task.runOut_spares`).
-/

namespace BatchRunner

variable {κ W : Type}

/-- What a caller is told of a task whose process was reaped. -/
structure EndReport where
  task : TaskId
  output : ByteArray
  errors : Option ByteArray
  termination : Termination

namespace Task

/-- What there is to report of a task, if its process was reaped. -/
def report? (task : Task κ) : Option EndReport :=
  task.termination.map fun termination => ⟨task.id, task.output, task.errors?, termination⟩

/-- Reads a task up to the end of its output. Where that fails it is finished. -/
def readOut (task : Task κ) (host : Host W) (fuel : Nat) (w : W) : Except Halt (Step κ W Unit) := do
  match ← task.readToClose host fuel w with
  | (.ok (), task, w) => return (.ok (), task, w)
  | (.error error, task, w) =>
    let (_, task, w) ← task.finishExecution host fuel w
    return (.error error, task, w)

/-- Reaps and finishes a task, which leaves it without open pipes. -/
def reapOut (task : Task κ) (host : Host W) (fuel : Nat) (w : W) : Except Halt (Step κ W Termination) := do
  let (reaped, task, w) ← task.reap host fuel w
  let (_, task, w) ← task.finishIfRunning host fuel w
  if task.hasOpenPipes then throw (.violation (.openPipes task.id))
  return (reaped, task, w)

/-- Lets a task run to its end. -/
def runOut (task : Task κ) (host : Host W) (fuel : Nat) (w : W) : Except Halt (Step κ W Termination) := do
  let (_, task, w) ← task.readOut host fuel w
  task.reapOut host fuel w

/-- What becomes of a task in a part of a larger world is the same there. -/
theorem runOut_within {V : Type} {part : Part V W} (hpart : part.Lawful) (host : Host W) (task : Task κ) (fuel : Nat)
    (w : W) (v : V) : task.runOut (host.within part) fuel (part.set w v) =
      (task.runOut host fuel w).map fun step => (step.1, part.put v step.2) := by
  have hreap : ∀ (task : Task κ) (w : W), task.reapOut (host.within part) fuel (part.set w v) =
      (task.reapOut host fuel w).map fun step => (step.1, part.put v step.2) := by
    intro task w
    unfold reapOut
    rw [Host.reap_within hpart]
    rcases task.reap host fuel w with _ | ⟨reaped, between, u⟩
    · rfl
    · simp only [Except.map, Part.put, bind, Except.bind, Host.finishIfRunning_within hpart]
      rcases between.finishIfRunning host fuel u with _ | ⟨drained, after, u'⟩
      · rfl
      · dsimp only
        split <;> rfl
  have hread : task.readOut (host.within part) fuel (part.set w v) =
      (task.readOut host fuel w).map fun step => (step.1, part.put v step.2) := by
    unfold readOut
    rw [Host.readToClose_within hpart]
    rcases task.readToClose host fuel w with _ | ⟨_ | _, between, u⟩
    · rfl
    · simp only [Except.map, Part.put, bind, Except.bind, Host.finishExecution_within hpart]
      rcases between.finishExecution host fuel u with _ | ⟨drained, after, u'⟩ <;> rfl
    · rfl
  unfold runOut
  rw [hread]
  rcases task.readOut host fuel w with _ | ⟨read, between, u⟩
  · rfl
  · exact hreap between u

variable {host : Host W} {task other after : Task κ} {fuel : Nat} {w w' v : W} {fds : List Fd} {pid : Pid}

/-- Nothing becomes of a task that has no process. -/
theorem runOut_of_process_eq_none (host : Host W) (fuel : Nat) (hprocess : task.process = none) :
    ∃ halt, ∀ w : W, task.runOut host fuel w = .error halt := by
  have hread (w : W) : task.readOut host fuel w = .ok (.ok (), task, w) := by
    unfold readOut readToClose
    rw [hprocess]
    rfl
  cases htermination : task.termination with
  | none =>
    refine ⟨.violation (.noProcess task.id), fun w => ?_⟩
    rw [runOut, hread]
    simp [reapOut, reap, hprocess, htermination, bind, Except.bind]
  | some termination =>
    refine ⟨.violation (.reapedTwice task.id), fun w => ?_⟩
    rw [runOut, hread]
    simp [reapOut, reap, htermination, bind, Except.bind]

theorem reapOut_process {result : Except Error Termination}
    (hcall : task.reapOut host fuel w = .ok (result, after, w')) : ∃ child, task.process = some child := by
  unfold reapOut at hcall
  obtain ⟨reaped, hreap, -⟩ := except_bind_ok.1 hcall
  unfold reap at hreap
  split at hreap
  · cases hreap
  · split at hreap
    · cases hreap
    · exact ⟨_, ‹_›⟩

/-! ## The same process -/

theorem within_of_process {child : Child} (hprocess : task.process = some child) :
    task.Within child.descriptors child.pid := by
  constructor <;> intro found hfound <;> obtain rfl := Option.some.inj (hprocess.symm.trans hfound)
  · rfl
  · exact List.Subset.refl _

theorem Within.of_process_eq (h : task.Within fds pid) (hprocess : after.process = task.process) :
    after.Within fds pid :=
  ⟨hprocess ▸ h.pid, hprocess ▸ h.descriptors⟩

/-- A task that is finished keeps its process, with its pipes closed. -/
theorem Within.finishExecution (h : task.Within fds pid) {result : Except Error Unit}
    (hcall : task.finishExecution host fuel w = .ok (result, after, w')) : after.Within fds pid := by
  cases hprocess : task.process with
  | none =>
    have hnone : after.process = none := by
      unfold Task.finishExecution at hcall
      split at hcall
      · cases hcall
      · obtain ⟨⟨ended, drained, u⟩, hread, hcall⟩ := except_bind_ok.1 hcall
        have hsame : drained.process = none := by rw [readAvailable_eq hread, hprocess]
        simp only [hsame] at hcall
        cases hcall
        rfl
    exact ⟨by simp [hnone], by simp [hnone]⟩
  | some child =>
    obtain ⟨ended, drained, u, -, -, -, hafter⟩ := finishExecution_eq hprocess hcall
    have hclosed : after.process = some { child with stdout := none, stderr := none } := by rw [hafter]
    refine ⟨fun found hfound => ?_, fun found hfound => ?_⟩
    · obtain rfl := Option.some.inj (hclosed.symm.trans hfound)
      exact h.pid child hprocess
    · obtain rfl := Option.some.inj (hclosed.symm.trans hfound)
      exact List.nil_subset _

theorem Within.readOut (h : task.Within fds pid) {result : Except Error Unit}
    (hcall : task.readOut host fuel w = .ok (result, after, w')) : after.Within fds pid := by
  unfold Task.readOut at hcall
  obtain ⟨⟨read, between, u⟩, hread, hcall⟩ := except_bind_ok.1 hcall
  have hbetween : between.Within fds pid := h.of_process_eq (by rw [readToClose_eq hread])
  cases read with
  | ok _ =>
    cases hcall
    exact hbetween
  | error error =>
    obtain ⟨⟨finished, last, u'⟩, hfinish, hcall⟩ := except_bind_ok.1 hcall
    cases hcall
    exact hbetween.finishExecution hfinish

/-! ## In worlds that are alike -/

section Told

variable {alike : W → W → Prop} (hrepeats : host.Repeats alike fds pid) (hwithin : task.Within fds pid)
  (htask : task.untimed = other.untimed) (hworlds : alike w v)

include hrepeats hwithin htask hworlds

theorem readOut_told : Echoes (Told alike) (task.readOut host fuel w) (other.readOut host fuel v) := by
  refine (readToClose_told hrepeats hwithin htask hworlds).bind ?_
  rintro ⟨read, between, w'⟩ ⟨_, between', v'⟩ hcall ⟨rfl, hbetween, hafter⟩
  cases read with
  | ok _ => exact .ok ⟨rfl, hbetween, hafter⟩
  | error error =>
    have hwithin' : between.Within fds pid := hwithin.of_process_eq (by rw [readToClose_eq hcall])
    refine (finishExecution_told hrepeats hwithin' hbetween hafter).bind ?_
    rintro ⟨finished, last, w''⟩ ⟨_, last', v''⟩ - ⟨rfl, hlast, hend⟩
    exact .ok ⟨rfl, hlast, hend⟩

theorem reapOut_told : Echoes (Told alike) (task.reapOut host fuel w) (other.reapOut host fuel v) := by
  refine (reap_told hrepeats hwithin htask hworlds).bind ?_
  rintro ⟨reaped, between, w'⟩ ⟨_, between', v'⟩ hcall ⟨rfl, hbetween, hafter⟩
  have hwithin' : between.Within fds pid := hwithin.of_process_eq (by rw [reap_eq hcall])
  refine (finishIfRunning_told hrepeats hwithin' hbetween hafter).bind ?_
  rintro ⟨drained, last, w''⟩ ⟨_, last', v''⟩ - ⟨rfl, hlast, hend⟩
  obtain ⟨time, rfl⟩ := eq_of_untimed_eq hlast
  have hopen : Task.hasOpenPipes { last with completedAt := time } = last.hasOpenPipes := rfl
  dsimp only
  rw [hopen]
  split
  · exact .error _
  · exact .ok ⟨rfl, rfl, hend⟩

/-- What becomes of a task that is let run to its end is the same in worlds that are alike to its process. -/
theorem runOut_told : Echoes (Told alike) (task.runOut host fuel w) (other.runOut host fuel v) := by
  refine (readOut_told hrepeats hwithin htask hworlds).bind ?_
  rintro ⟨read, between, w'⟩ ⟨_, between', v'⟩ hcall ⟨rfl, hbetween, hafter⟩
  exact reapOut_told hrepeats (hwithin.readOut hcall) hbetween hafter

end Told

end Task

/-! ## What is left alone -/

/-- A relation between worlds that the calls on the pipes and the process of a child keep to. -/
structure Host.Spares (host : Host W) (R : W → W → Prop) (fds : List Fd) (pid : Pid) : Prop
    extends host.FinishesAlong R fds where
  wait : ∀ w, R w (host.wait pid w).2

namespace Host.Spares

variable {host : Host W} {R : W → W → Prop} {fds : List Fd} {pid : Pid} {task after : Task κ} {fuel : Nat} {w w' : W}

theorem finishesAlong (h : host.Spares R fds pid) {child : Child} (hfds : child.descriptors ⊆ fds) :
    host.FinishesAlong R child.descriptors where
  refl := h.refl
  trans := h.trans
  read := fun fd hfd => h.read fd (hfds hfd)
  setBlocking := fun fd hfd => h.setBlocking fd (hfds hfd)
  close := fun fd hfd => h.close fd (hfds hfd)

theorem readOut (h : host.Spares R fds pid) (hwithin : task.Within fds pid) {child : Child}
    (hprocess : task.process = some child) {result : Except Error Unit}
    (hcall : task.readOut host fuel w = .ok (result, after, w')) : R w w' := by
  have halong := h.finishesAlong (hwithin.descriptors child hprocess)
  unfold Task.readOut at hcall
  obtain ⟨⟨read, between, u⟩, hread, hcall⟩ := except_bind_ok.1 hcall
  have hbetween : between.process = some child := by rw [Task.readToClose_eq hread, hprocess]
  have hread' := halong.readToClose hprocess hread
  cases read with
  | ok _ =>
    cases hcall
    exact hread'
  | error error =>
    obtain ⟨⟨finished, last, u'⟩, hfinish, hcall⟩ := except_bind_ok.1 hcall
    cases hcall
    exact h.trans hread' (halong.finishExecution hbetween hfinish)

theorem reapOut (h : host.Spares R fds pid) (hwithin : task.Within fds pid) {child : Child}
    (hprocess : task.process = some child) {result : Except Error Termination}
    (hcall : task.reapOut host fuel w = .ok (result, after, w')) : R w w' := by
  have halong := h.finishesAlong (hwithin.descriptors child hprocess)
  have hwait : ∀ w, R w (host.wait child.pid w).2 := by
    rw [hwithin.pid child hprocess]
    exact h.wait
  unfold Task.reapOut at hcall
  obtain ⟨⟨reaped, between, u⟩, hreap, hcall⟩ := except_bind_ok.1 hcall
  obtain ⟨⟨drained, last, u'⟩, hfinish, hcall⟩ := except_bind_ok.1 hcall
  have hbetween : between.process = some child := by rw [Task.reap_eq hreap, hprocess]
  have hworlds : R w u' :=
    h.trans (Task.reap_along h.trans hwait hprocess hreap) (halong.finishIfRunning hbetween hfinish)
  dsimp only at hcall
  split at hcall
  · cases hcall
  · cases hcall
    exact hworlds

end Host.Spares

/-- Letting a task run to its end changes the world as the calls on its pipes and its process do. -/
theorem Task.runOut_spares {host : Host W} {R : W → W → Prop} {task after : Task κ} {fuel : Nat} {w w' : W}
    (h : ∀ child ∈ task.process, host.Spares R child.descriptors child.pid) {result : Except Error Termination}
    (hcall : task.runOut host fuel w = .ok (result, after, w')) : R w w' := by
  cases hprocess : task.process with
  | none =>
    obtain ⟨halt, herror⟩ := runOut_of_process_eq_none host fuel hprocess
    rw [herror] at hcall
    cases hcall
  | some child =>
    have hspares := h child hprocess
    have hwithin := within_of_process hprocess
    unfold runOut at hcall
    obtain ⟨⟨read, between, u⟩, hread, hcall⟩ := except_bind_ok.1 hcall
    obtain ⟨kept, hkept⟩ := reapOut_process hcall
    exact hspares.trans (hspares.readOut hwithin hprocess hread)
      (hspares.reapOut (hwithin.readOut hread) hkept hcall)

end BatchRunner
