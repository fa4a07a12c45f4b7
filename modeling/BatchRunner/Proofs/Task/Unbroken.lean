import BatchRunner.Proofs.Task.Effects

/-!
# Calls that break no rule

The calls on a task check that it is in the right state, that its process was started, and that its end was not
learnt before. A call on a task for which that holds breaks no rule (`Unbroken`), whatever the host does.
-/

namespace BatchRunner

open Capture

/-- A call that breaks no rule, whether it gives an answer or not. -/
def Unbroken {α : Type} (call : Except Halt α) : Prop := ∀ violation, call ≠ .error (.violation violation)

namespace Unbroken

variable {α β : Type}

theorem ok (a : α) : Unbroken (.ok a) := nofun

theorem stalled : Unbroken (.error .stalled : Except Halt α) := nofun

theorem outOfFuel : Unbroken (.error .outOfFuel : Except Halt α) := nofun

/-- A call breaks no rule that is followed by one which breaks none, whatever the answer. -/
theorem bind {call : Except Halt α} {f : α → Except Halt β} (h : Unbroken call)
    (hf : ∀ a, call = .ok a → Unbroken (f a)) : Unbroken (call >>= f) := by
  intro violation herror
  rcases except_bind_error.1 herror with hcall | ⟨a, hcall, hrest⟩
  · exact h violation hcall
  · exact hf a hcall violation hrest

end Unbroken

variable {κ W : Type} {host : Host W} {fuel : Nat} {w : W}

/-! ## Reading and waiting -/

namespace Capture

/-- No reading and no waiting checks a rule: it gives an answer, has to wait for ever, or runs out of steps. -/
theorem drain_unbroken (fd : Fd) (bytes : ByteArray) : Unbroken (drain host fd fuel bytes w) := by
  induction fuel generalizing bytes w with
  | zero => exact .outOfFuel
  | succ fuel ih =>
    rw [drain]
    split
    · exact .stalled
    · split
      · exact .ok _
      · exact ih _
    · split
      · exact ih _
      · split <;> exact .ok _

theorem readToEnd_unbroken (fd : Fd) (bytes : ByteArray) : Unbroken (readToEnd host fd fuel bytes w) := by
  induction fuel generalizing bytes w with
  | zero => exact .outOfFuel
  | succ fuel ih =>
    rw [readToEnd]
    split
    · exact .stalled
    · split
      · exact .ok _
      · exact ih _
    · split
      · exact ih _
      · exact .ok _

theorem drainOpen_unbroken (pipe : Option Fd) (bytes : ByteArray) :
    Unbroken (drainOpen host pipe fuel bytes w) := by
  cases pipe with
  | none => exact .ok _
  | some fd => exact drain_unbroken fd bytes

theorem readOpen_unbroken (pipe : Option Fd) (bytes : ByteArray) :
    Unbroken (readOpen host pipe fuel bytes w) := by
  cases pipe with
  | none => exact .ok _
  | some fd =>
    rw [readOpen, readBlocking]
    split
    · exact .ok _
    · exact readToEnd_unbroken fd bytes

theorem drainBoth_unbroken (child : Child) (streams : Streams) :
    Unbroken (drainBoth host fuel child streams w) := by
  refine (drainOpen_unbroken _ _).bind fun ⟨first, output, v⟩ _ => ?_
  cases first with
  | error cause => exact .ok _
  | ok drained => exact (drainOpen_unbroken _ _).bind fun _ _ => .ok _

theorem readBoth_unbroken (child : Child) (streams : Streams) :
    Unbroken (readBoth host fuel child streams w) := by
  refine (readOpen_unbroken _ _).bind fun ⟨first, output, v⟩ _ => ?_
  cases first with
  | error cause => exact .ok _
  | ok _ => exact (readOpen_unbroken _ _).bind fun _ _ => .ok _

/-- Nor does the wait for the end of a process. -/
theorem awaitEnd_unbroken (pid : Pid) : Unbroken (awaitEnd host pid fuel w) := by
  induction fuel generalizing w with
  | zero => exact .outOfFuel
  | succ fuel ih =>
    rw [awaitEnd]
    split
    · exact .stalled
    · exact .ok _
    · split
      · exact ih
      · exact .ok _

end Capture

/-! ## The calls on a task -/

namespace Task

variable {task after : Task κ} {source : EnvironmentSource} {w' : W}

/-- A task whose process was started, that is not finished and whose end is not known. -/
structure Active (task : Task κ) : Prop where
  state : task.state = .executing
  process : task.process.isSome
  termination : task.termination = none

/-- A task that can be reaped and done with: its end is not known, and if it is finished its pipes are closed. -/
structure Leavable (task : Task κ) : Prop where
  process : task.process.isSome
  termination : task.termination = none
  closed : task.state = .executing ∨ task.hasOpenPipes = false

theorem Active.leavable (h : task.Active) : task.Leavable := ⟨h.process, h.termination, .inl h.state⟩

/-- A task that was not started may be. -/
theorem execute_unbroken (h : task.state = .preparing) : Unbroken (task.execute host source w) := by
  have hmove : task.checkMove .executing = .ok () := by simp [checkMove, h, TaskState.canMoveTo]
  unfold execute
  rw [hmove]
  refine (Unbroken.ok ()).bind fun _ _ => ?_
  split
  · exact .ok _
  · split <;> exact .ok _

/-- A task that was started is active. -/
theorem execute_active (h : task.termination = none)
    (hcall : task.execute host source w = .ok (.ok (), after, w')) : after.Active := by
  obtain ⟨vars, child, -, hafter⟩ := execute_ok hcall
  rw [hafter]
  exact ⟨rfl, rfl, h⟩

theorem readAvailable_unbroken (task : Task κ) : Unbroken (task.readAvailable host fuel w) := by
  unfold readAvailable
  split
  · exact .ok _
  · refine (drainBoth_unbroken _ _).bind fun ⟨drained, streams, v⟩ _ => ?_
    cases drained <;> exact .ok _

/-- A task that is read stays active, even if the read fails. -/
theorem readAvailable_active {result : Except Error Bool} (h : task.Active)
    (hcall : task.readAvailable host fuel w = .ok (result, after, w')) : after.Active := by
  rw [readAvailable_eq hcall]
  exact ⟨h.state, h.process, h.termination⟩

theorem readToClose_unbroken (task : Task κ) : Unbroken (task.readToClose host fuel w) := by
  unfold readToClose
  split
  · exact .ok _
  · refine (readBoth_unbroken _ _).bind fun ⟨result, streams, v⟩ _ => ?_
    cases result <;> exact .ok _

/-- A task that is read up to the end stays active too. -/
theorem readToClose_active {result : Except Error Unit} (h : task.Active)
    (hcall : task.readToClose host fuel w = .ok (result, after, w')) : after.Active := by
  rw [readToClose_eq hcall]
  exact ⟨h.state, h.process, h.termination⟩

/-- Only an executing task may be finished. -/
theorem finishExecution_unbroken (h : task.state = .executing) :
    Unbroken (task.finishExecution host fuel w) := by
  unfold finishExecution
  split
  · next hne => simp [h] at hne
  · exact (readAvailable_unbroken _).bind fun _ _ => .ok _

/-- A task that was finished has no open pipe, and can still be reaped. -/
theorem finishExecution_leavable {result : Except Error Unit} (h : task.Active)
    (hcall : task.finishExecution host fuel w = .ok (result, after, w')) : after.Leavable := by
  obtain ⟨child, hprocess⟩ := Option.isSome_iff_exists.1 h.process
  have htermination : after.termination = none := (finishExecution_keeps hcall).2.trans h.termination
  obtain ⟨ended, drained, v, -, -, -, hafter⟩ := finishExecution_eq hprocess hcall
  have hclosed : after.process = some { child with stdout := none, stderr := none } := by rw [hafter]
  refine ⟨?_, htermination, .inr ?_⟩
  · rw [hclosed]
    rfl
  · rw [hasOpenPipes, hclosed]
    rfl

theorem finishIfRunning_unbroken (task : Task κ) : Unbroken (task.finishIfRunning host fuel w) := by
  unfold finishIfRunning
  split
  · next hrunning => exact finishExecution_unbroken (by simpa [TaskState.isRunning] using hrunning)
  · exact .ok _

/-- A task with a process whose end is not known may be reaped. -/
theorem reap_unbroken (h : task.Leavable) : Unbroken (task.reap host fuel w) := by
  obtain ⟨child, hprocess⟩ := Option.isSome_iff_exists.1 h.process
  unfold reap
  rw [if_neg (by simp [h.termination]), hprocess]
  refine (awaitEnd_unbroken _).bind fun ⟨found, v⟩ _ => ?_
  cases found <;> exact .ok _

/-- Once a task was reaped and is done with, none of its pipes is open. -/
theorem finishIfRunning_closes {reaped : Except Error Termination} {result : Except Error Unit} {between : Task κ}
    {patience : Nat} {v : W} (h : task.Leavable) (hreap : task.reap host patience w = .ok (reaped, between, v))
    (hcall : between.finishIfRunning host fuel v = .ok (result, after, w')) : after.hasOpenPipes = false := by
  have hbetween := reap_eq hreap
  have hprocess : between.process = task.process := by rw [hbetween]
  have hstate : between.state = task.state := by rw [hbetween]
  unfold finishIfRunning at hcall
  split at hcall
  · obtain ⟨child, hchild⟩ := Option.isSome_iff_exists.1 (hprocess ▸ h.process)
    obtain ⟨ended, drained, u, -, -, -, hafter⟩ := finishExecution_eq hchild hcall
    rw [hasOpenPipes, hafter]
    rfl
  · next hrunning =>
    obtain rfl : between = after := by cases hcall; rfl
    rcases h.closed with hexecuting | hclosed
    · exact absurd (by simp [hstate, hexecuting, TaskState.isRunning]) hrunning
    · rw [hasOpenPipes, hprocess]
      exact hclosed

end Task

end BatchRunner
