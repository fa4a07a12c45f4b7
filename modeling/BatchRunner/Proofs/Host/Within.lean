import BatchRunner.Proofs.Task.Calls
import BatchRunner.Readiness

/-!
# A host for a part of a world

A host that serves for a part of a larger world gives the answers that it gives for the part alone, and
leaves the rest of the larger world as it is (`Part.put`). So do the calls on tasks and the wait for output,
which reach the world only through the host.
-/

namespace BatchRunner

/-- What makes the view of a larger world a part of it: what was put there is found there, putting back what
was found changes nothing, and only the last thing put there counts. -/
structure Part.Lawful {V W : Type} (part : Part V W) : Prop where
  get_set : ∀ w v, part.get (part.set w v) = w
  set_get : ∀ v, part.set (part.get v) v = v
  set_set : ∀ w w' v, part.set w' (part.set w v) = part.set w' v

/-- An answer with the world after it, put into a larger world. -/
def Part.put {V W α : Type} (part : Part V W) (v : V) (result : α × W) : α × V :=
  (result.1, part.set result.2 v)

/-- A call that gives the answers of a part leaves the rest of the world as it is. -/
theorem Part.set_of_map_put {V W α : Type} {part : Part V W} {v v' : V} {a : α} {call : Except Halt (α × W)}
    (h : call.map (part.put v) = .ok (a, v')) : ∃ w, v' = part.set w v := by
  cases call with
  | error halt => cases h
  | ok result =>
    cases h
    exact ⟨_, rfl⟩

/-- A call on a task that gives the answers of a part leaves the rest of the world as it is. -/
theorem Part.set_of_map_step {V W α β : Type} {part : Part V W} {v v' : V} {a : α} {b : β}
    {call : Except Halt (α × β × W)} (h : (call.map fun r => (r.1, part.put v r.2)) = .ok (a, b, v')) :
    ∃ w, v' = part.set w v := by
  cases call with
  | error halt => cases h
  | ok result =>
    cases h
    exact ⟨_, rfl⟩

namespace Host

variable {V W κ : Type} {part : Part V W} (hpart : part.Lawful) (host : Host W) (w : W) (v : V)

/-! ## Calls on the host -/

include hpart

/-- What is done in a part of what was put into a world is what is done in the part alone. -/
theorem run_within {α : Type} (f : W → α × W) : part.run f (part.set w v) = part.put v (f w) := by
  simp [Part.run, Part.put, hpart.get_set, hpart.set_set]

theorem spawn_within (launch : Launch) :
    (host.within part).spawn launch (part.set w v) = part.put v (host.spawn launch w) :=
  run_within hpart w v _

theorem poll_within (fds : List Fd) :
    (host.within part).poll fds (part.set w v) = part.put v (host.poll fds w) :=
  run_within hpart w v _

theorem read_within (fd : Fd) (count : Nat) :
    (host.within part).read fd count (part.set w v) = part.put v (host.read fd count w) :=
  run_within hpart w v _

theorem setBlocking_within (fd : Fd) :
    (host.within part).setBlocking fd (part.set w v) = part.put v (host.setBlocking fd w) :=
  run_within hpart w v _

theorem wait_within (pid : Pid) :
    (host.within part).wait pid (part.set w v) = part.put v (host.wait pid w) :=
  run_within hpart w v _

/-- Closing gives no answer, so only the world after it is put back. -/
theorem close_within (fd : Fd) :
    (host.within part).close fd (part.set w v) = part.set (host.close fd w) v := by
  simp [within, hpart.get_set, hpart.set_set]

/-- Where nothing changes the world there is nothing to put back: the clock and the variables are those of the part.
-/
theorem now_within : (host.within part).now (part.set w v) = host.now w := by
  simp [within, hpart.get_set]

theorem vars_within : (host.within part).vars (part.set w v) = host.vars w := by
  simp [within, hpart.get_set]

/-! ## Reading and waiting -/

/-- Each read gives the same answer as in the part alone, so the drain goes on as it does there. So do the other
loops. -/
theorem drain_within (fd : Fd) (fuel : Nat) (bytes : ByteArray) :
    Capture.drain (host.within part) fd fuel bytes (part.set w v) =
      (Capture.drain host fd fuel bytes w).map fun r => (r.1, part.put v r.2) := by
  induction fuel generalizing bytes w with
  | zero => rfl
  | succ fuel ih =>
    rw [Capture.drain, Capture.drain, read_within hpart]
    rcases host.read fd Capture.chunkSize w with ⟨reply, w'⟩
    cases reply with
    | answer chunk =>
      simp only [Part.put]
      split
      · rfl
      · exact ih w' _
    | fault cause =>
      simp only [Part.put]
      split
      · exact ih w' _
      · split <;> rfl
    | never => rfl

theorem readToEnd_within (fd : Fd) (fuel : Nat) (bytes : ByteArray) :
    Capture.readToEnd (host.within part) fd fuel bytes (part.set w v) =
      (Capture.readToEnd host fd fuel bytes w).map fun r => (r.1, part.put v r.2) := by
  induction fuel generalizing bytes w with
  | zero => rfl
  | succ fuel ih =>
    rw [Capture.readToEnd, Capture.readToEnd, read_within hpart]
    rcases host.read fd Capture.chunkSize w with ⟨reply, w'⟩
    cases reply with
    | answer chunk =>
      simp only [Part.put]
      split
      · rfl
      · exact ih w' _
    | fault cause =>
      simp only [Part.put]
      split
      · exact ih w' _
      · rfl
    | never => rfl

theorem awaitEnd_within (pid : Pid) (fuel : Nat) :
    Capture.awaitEnd (host.within part) pid fuel (part.set w v) =
      (Capture.awaitEnd host pid fuel w).map (part.put v) := by
  induction fuel generalizing w with
  | zero => rfl
  | succ fuel ih =>
    rw [Capture.awaitEnd, Capture.awaitEnd, wait_within hpart]
    rcases host.wait pid w with ⟨reply, w'⟩
    cases reply with
    | answer found => rfl
    | fault cause =>
      simp only [Part.put]
      split
      · exact ih w'
      · rfl
    | never => rfl

/-- The events of a wait for output are those of the part alone. -/
theorem watch_within (set : ReadinessSet) (fuel : Nat) :
    set.wait (host.within part) fuel (part.set w v) = (set.wait host fuel w).map (part.put v) := by
  induction fuel generalizing w with
  | zero => rfl
  | succ fuel ih =>
    rw [ReadinessSet.wait, ReadinessSet.wait]
    split
    · rfl
    · rw [poll_within hpart]
      rcases host.poll set.descriptors w with ⟨reply, w'⟩
      cases reply with
      | answer conditions => rfl
      | fault cause =>
        simp only [Part.put]
        split
        · exact ih w'
        · rfl
      | never => rfl

theorem readBlocking_within (fd : Fd) (fuel : Nat) (bytes : ByteArray) :
    Capture.readBlocking (host.within part) fd fuel bytes (part.set w v) =
      (Capture.readBlocking host fd fuel bytes w).map fun r => (r.1, part.put v r.2) := by
  rw [Capture.readBlocking, Capture.readBlocking, setBlocking_within hpart]
  rcases host.setBlocking fd w with ⟨_ | _, w'⟩
  · rfl
  · exact readToEnd_within hpart host w' v fd fuel bytes

theorem drainOpen_within (pipe : Option Fd) (fuel : Nat) (bytes : ByteArray) :
    Capture.drainOpen (host.within part) pipe fuel bytes (part.set w v) =
      (Capture.drainOpen host pipe fuel bytes w).map fun r => (r.1, part.put v r.2) := by
  cases pipe with
  | none => rfl
  | some fd => exact drain_within hpart host w v fd fuel bytes

theorem readOpen_within (pipe : Option Fd) (fuel : Nat) (bytes : ByteArray) :
    Capture.readOpen (host.within part) pipe fuel bytes (part.set w v) =
      (Capture.readOpen host pipe fuel bytes w).map fun r => (r.1, part.put v r.2) := by
  cases pipe with
  | none => rfl
  | some fd => exact readBlocking_within hpart host w v fd fuel bytes

/-- The pipes of a process are drained as in the part alone, the second in the world that the first left there. -/
theorem drainBoth_within (fuel : Nat) (child : Child) (streams : Capture.Streams) :
    Capture.drainBoth (host.within part) fuel child streams (part.set w v) =
      (Capture.drainBoth host fuel child streams w).map fun r => (r.1, part.put v r.2) := by
  unfold Capture.drainBoth
  rw [drainOpen_within hpart]
  rcases Capture.drainOpen host child.stdout fuel streams.output w with _ | ⟨_ | _, output, w'⟩
  · rfl
  · rfl
  · simp only [Except.map, Part.put, bind, Except.bind]
    rw [drainOpen_within hpart]
    rcases Capture.drainOpen host child.stderr fuel streams.errors w' with _ | ⟨_, errors, w''⟩ <;> rfl

theorem readBoth_within (fuel : Nat) (child : Child) (streams : Capture.Streams) :
    Capture.readBoth (host.within part) fuel child streams (part.set w v) =
      (Capture.readBoth host fuel child streams w).map fun r => (r.1, part.put v r.2) := by
  unfold Capture.readBoth
  rw [readOpen_within hpart]
  rcases Capture.readOpen host child.stdout fuel streams.output w with _ | ⟨_ | _, output, w'⟩
  · rfl
  · rfl
  · simp only [Except.map, Part.put, bind, Except.bind]
    rw [readOpen_within hpart]
    rcases Capture.readOpen host child.stderr fuel streams.errors w' with _ | ⟨_, errors, w''⟩ <;> rfl

/-- Closing the pipes of a process leaves the rest of a larger world as it is. -/
theorem closePipes_within (child : Child) :
    Capture.closePipes (host.within part) child (part.set w v) =
      part.put v (Capture.closePipes host child w) := by
  obtain ⟨pid, stdout, stderr⟩ := child
  cases stdout <;> cases stderr <;> simp [Capture.closePipes, Part.put, close_within hpart]

/-! ## Calls on tasks -/

variable (task : Task κ) (fuel : Nat)

/-- A task is started, or cannot be, as in the part alone. -/
theorem execute_within (source : EnvironmentSource) :
    task.execute (host.within part) source (part.set w v) =
      (task.execute host source w).map fun r => (r.1, part.put v r.2) := by
  unfold Task.execute
  have hvars : task.resolveVariables (host.within part) source (part.set w v) =
      task.resolveVariables host source w := by
    simp [Task.resolveVariables, vars_within hpart]
  rw [hvars]
  rcases task.checkMove .executing with _ | _
  · rfl
  · cases task.resolveVariables host source w with
    | error error => rfl
    | ok vars =>
      simp only [bind, Except.bind, spawn_within hpart]
      rcases host.spawn ⟨task.spec.program, task.spec.args, vars, task.separateErrors⟩ w with ⟨_ | _, w'⟩ <;>
        simp [Part.put, now_within hpart, Except.map, pure, Except.pure]

/-- The calls on a task that read from it, finish it or reap it leave the task that they leave in the part alone. -/
theorem readAvailable_within :
    task.readAvailable (host.within part) fuel (part.set w v) =
      (task.readAvailable host fuel w).map fun r => (r.1, part.put v r.2) := by
  unfold Task.readAvailable
  cases task.process with
  | none => rfl
  | some child =>
    simp only [drainBoth_within hpart]
    rcases Capture.drainBoth host fuel child task.streams w with _ | ⟨_ | _, streams, w'⟩ <;> rfl

theorem readToClose_within :
    task.readToClose (host.within part) fuel (part.set w v) =
      (task.readToClose host fuel w).map fun r => (r.1, part.put v r.2) := by
  unfold Task.readToClose
  cases task.process with
  | none => rfl
  | some child =>
    simp only [readBoth_within hpart]
    rcases Capture.readBoth host fuel child task.streams w with _ | ⟨_ | _, streams, w'⟩ <;> rfl

/-- A task is finished at the time that the part alone tells. -/
theorem finishExecution_within :
    task.finishExecution (host.within part) fuel (part.set w v) =
      (task.finishExecution host fuel w).map fun r => (r.1, part.put v r.2) := by
  unfold Task.finishExecution
  split
  · rfl
  · simp only [readAvailable_within hpart]
    rcases task.readAvailable host fuel w with _ | ⟨drained, after, w'⟩
    · rfl
    · simp only [Except.map, Part.put, bind, Except.bind]
      cases after.process with
      | none => simp [now_within hpart, pure, Except.pure]
      | some child => simp [closePipes_within hpart, Part.put, now_within hpart, pure, Except.pure]

theorem finishIfRunning_within :
    task.finishIfRunning (host.within part) fuel (part.set w v) =
      (task.finishIfRunning host fuel w).map fun r => (r.1, part.put v r.2) := by
  unfold Task.finishIfRunning
  split
  · exact finishExecution_within hpart host w v task fuel
  · rfl

theorem reap_within :
    task.reap (host.within part) fuel (part.set w v) =
      (task.reap host fuel w).map fun r => (r.1, part.put v r.2) := by
  unfold Task.reap
  split
  · rfl
  · cases task.process with
    | none => rfl
    | some child =>
      simp only [awaitEnd_within hpart]
      rcases Capture.awaitEnd host child.pid fuel w with _ | ⟨_ | _, w'⟩ <;> rfl

/-! ## What the calls leave as it is -/

section Leaves

variable {host : Host W} {v v' : V} {task after : Task κ} {fuel : Nat}

include hpart

/-- What a wait for output leaves differs from what it found only in the part, and so for the calls on tasks. -/
theorem watch_leaves {set : ReadinessSet} {result : Except Os.Fault (List ReadyEvent)}
    (h : set.wait (host.within part) fuel v = .ok (result, v')) : ∃ w, v' = part.set w v := by
  have hcall := watch_within hpart host (part.get v) v set fuel
  rw [hpart.set_get, h] at hcall
  exact Part.set_of_map_put hcall.symm

theorem execute_leaves {source : EnvironmentSource} {result : Except Error Unit}
    (h : task.execute (host.within part) source v = .ok (result, after, v')) : ∃ w, v' = part.set w v := by
  have hcall := execute_within hpart host (part.get v) v task source
  rw [hpart.set_get, h] at hcall
  exact Part.set_of_map_step hcall.symm

theorem readAvailable_leaves {result : Except Error Bool}
    (h : task.readAvailable (host.within part) fuel v = .ok (result, after, v')) :
    ∃ w, v' = part.set w v := by
  have hcall := readAvailable_within hpart host (part.get v) v task fuel
  rw [hpart.set_get, h] at hcall
  exact Part.set_of_map_step hcall.symm

theorem readToClose_leaves {result : Except Error Unit}
    (h : task.readToClose (host.within part) fuel v = .ok (result, after, v')) : ∃ w, v' = part.set w v := by
  have hcall := readToClose_within hpart host (part.get v) v task fuel
  rw [hpart.set_get, h] at hcall
  exact Part.set_of_map_step hcall.symm

theorem finishExecution_leaves {result : Except Error Unit}
    (h : task.finishExecution (host.within part) fuel v = .ok (result, after, v')) :
    ∃ w, v' = part.set w v := by
  have hcall := finishExecution_within hpart host (part.get v) v task fuel
  rw [hpart.set_get, h] at hcall
  exact Part.set_of_map_step hcall.symm

theorem finishIfRunning_leaves {result : Except Error Unit}
    (h : task.finishIfRunning (host.within part) fuel v = .ok (result, after, v')) :
    ∃ w, v' = part.set w v := by
  have hcall := finishIfRunning_within hpart host (part.get v) v task fuel
  rw [hpart.set_get, h] at hcall
  exact Part.set_of_map_step hcall.symm

/-- Reaping a task changes a larger world only in the part that the host serves. -/
theorem reap_leaves {result : Except Error Termination}
    (h : task.reap (host.within part) fuel v = .ok (result, after, v')) : ∃ w, v' = part.set w v := by
  have hcall := reap_within hpart host (part.get v) v task fuel
  rw [hpart.set_get, h] at hcall
  exact Part.set_of_map_step hcall.symm

end Leaves

end Host

end BatchRunner
