import BatchRunner.Proofs.Task.Effects

/-!
# Calls in worlds that are alike

A process may be the same in two worlds that differ in other things. If every call on it gives the same answer in
worlds that are alike, and leaves them alike (`Host.Repeats`), then so do the calls on its task: they give the same
results and leave the task the same but for the time (`Task.Echoes`).
-/

namespace BatchRunner

open Capture

variable {W : Type}

/-- Two answers that are the same, in worlds that are alike. -/
def Beside {α : Type} (alike : W → W → Prop) (a b : α × W) : Prop := a.1 = b.1 ∧ alike a.2 b.2

/-- Two calls of which both give an answer, such as stated, or neither does. -/
inductive Echoes {α β : Type} (same : α → β → Prop) : Except Halt α → Except Halt β → Prop
  | ok {a : α} {b : β} (h : same a b) : Echoes same (.ok a) (.ok b)
  | error (halt : Halt) : Echoes same (.error halt) (.error halt)

/-- What follows two calls echoes if the calls do, and then each answer in the same way. -/
theorem Echoes.bind {α β γ δ : Type} {same : α → β → Prop} {same' : γ → δ → Prop} {x : Except Halt α}
    {y : Except Halt β} {f : α → Except Halt γ} {g : β → Except Halt δ} (h : Echoes same x y)
    (hf : ∀ a b, x = .ok a → same a b → Echoes same' (f a) (g b)) : Echoes same' (x >>= f) (y >>= g) := by
  cases h with
  | ok hsame => exact hf _ _ rfl hsame
  | error halt => exact .error halt

/-- The calls on the pipes and the process of a child give the same answers in worlds that are alike, and leave them
alike. -/
structure Host.Repeats (host : Host W) (alike : W → W → Prop) (fds : List Fd) (pid : Pid) : Prop where
  read : ∀ fd ∈ fds, ∀ {w v}, alike w v → Beside alike (host.read fd chunkSize w) (host.read fd chunkSize v)
  setBlocking : ∀ fd ∈ fds, ∀ {w v}, alike w v → Beside alike (host.setBlocking fd w) (host.setBlocking fd v)
  close : ∀ fd ∈ fds, ∀ {w v}, alike w v → alike (host.close fd w) (host.close fd v)
  wait : ∀ {w v}, alike w v → Beside alike (host.wait pid w) (host.wait pid v)

/-- The pipes of a process are among its descriptors. -/
theorem Child.pipes_mem {child : Child} {fds : List Fd} (hfds : child.descriptors ⊆ fds) :
    (∀ fd ∈ child.stdout, fd ∈ fds) ∧ ∀ fd ∈ child.stderr, fd ∈ fds :=
  ⟨fun _ hfd => hfds (Child.mem_descriptors.2 (.inl hfd)), fun _ hfd => hfds (Child.mem_descriptors.2 (.inr hfd))⟩

namespace Host.Repeats

variable {host : Host W} {alike : W → W → Prop} {fds : List Fd} {fd : Fd} {pid : Pid} {fuel : Nat}
  {bytes : ByteArray} {w v : W}

/-- A drain asks for the same reads in worlds that are alike, so it stops at the same one. -/
theorem drain (h : host.Repeats alike fds pid) (hfd : fd ∈ fds) (hworlds : alike w v) :
    Echoes (Beside (Beside alike)) (Capture.drain host fd fuel bytes w) (Capture.drain host fd fuel bytes v) := by
  induction fuel generalizing bytes w v with
  | zero => exact .error _
  | succ fuel ih =>
    obtain ⟨hreply, hafter⟩ := h.read fd hfd hworlds
    rw [Capture.drain, Capture.drain]
    rcases hleft : host.read fd chunkSize w with ⟨reply, w'⟩
    rcases hright : host.read fd chunkSize v with ⟨reply', v'⟩
    rw [hleft, hright] at hreply hafter
    obtain rfl : reply = reply' := hreply
    cases reply with
    | never => exact .error _
    | answer chunk =>
      dsimp only
      split
      · exact .ok ⟨rfl, rfl, hafter⟩
      · exact ih hafter
    | fault cause =>
      dsimp only
      split
      · exact ih hafter
      · split
        · exact .ok ⟨rfl, rfl, hafter⟩
        · exact .ok ⟨rfl, rfl, hafter⟩

theorem readToEnd (h : host.Repeats alike fds pid) (hfd : fd ∈ fds) (hworlds : alike w v) :
    Echoes (Beside (Beside alike)) (Capture.readToEnd host fd fuel bytes w)
      (Capture.readToEnd host fd fuel bytes v) := by
  induction fuel generalizing bytes w v with
  | zero => exact .error _
  | succ fuel ih =>
    obtain ⟨hreply, hafter⟩ := h.read fd hfd hworlds
    rw [Capture.readToEnd, Capture.readToEnd]
    rcases hleft : host.read fd chunkSize w with ⟨reply, w'⟩
    rcases hright : host.read fd chunkSize v with ⟨reply', v'⟩
    rw [hleft, hright] at hreply hafter
    obtain rfl : reply = reply' := hreply
    cases reply with
    | never => exact .error _
    | answer chunk =>
      dsimp only
      split
      · exact .ok ⟨rfl, rfl, hafter⟩
      · exact ih hafter
    | fault cause =>
      dsimp only
      split
      · exact ih hafter
      · exact .ok ⟨rfl, rfl, hafter⟩

/-- The wait for an end is interrupted equally often in worlds that are alike. -/
theorem awaitEnd (h : host.Repeats alike fds pid) (hworlds : alike w v) :
    Echoes (Beside alike) (Capture.awaitEnd host pid fuel w) (Capture.awaitEnd host pid fuel v) := by
  induction fuel generalizing w v with
  | zero => exact .error _
  | succ fuel ih =>
    obtain ⟨hreply, hafter⟩ := h.wait hworlds
    rw [Capture.awaitEnd, Capture.awaitEnd]
    rcases hleft : host.wait pid w with ⟨reply, w'⟩
    rcases hright : host.wait pid v with ⟨reply', v'⟩
    rw [hleft, hright] at hreply hafter
    obtain rfl : reply = reply' := hreply
    cases reply with
    | never => exact .error _
    | answer found => exact .ok ⟨rfl, hafter⟩
    | fault cause =>
      dsimp only
      split
      · exact ih hafter
      · exact .ok ⟨rfl, hafter⟩

variable {pipe : Option Fd} {child : Child} {streams : Streams}

theorem drainOpen (h : host.Repeats alike fds pid) (hpipe : ∀ fd ∈ pipe, fd ∈ fds) (hworlds : alike w v) :
    Echoes (Beside (Beside alike)) (Capture.drainOpen host pipe fuel bytes w)
      (Capture.drainOpen host pipe fuel bytes v) := by
  cases pipe with
  | none => exact .ok ⟨rfl, rfl, hworlds⟩
  | some fd => exact h.drain (hpipe fd rfl) hworlds

theorem readOpen (h : host.Repeats alike fds pid) (hpipe : ∀ fd ∈ pipe, fd ∈ fds) (hworlds : alike w v) :
    Echoes (Beside (Beside alike)) (Capture.readOpen host pipe fuel bytes w)
      (Capture.readOpen host pipe fuel bytes v) := by
  cases pipe with
  | none => exact .ok ⟨rfl, rfl, hworlds⟩
  | some fd =>
    obtain ⟨hreply, hafter⟩ := h.setBlocking fd (hpipe fd rfl) hworlds
    rw [Capture.readOpen, Capture.readOpen, Capture.readBlocking, Capture.readBlocking]
    rcases hleft : host.setBlocking fd w with ⟨reply, w'⟩
    rcases hright : host.setBlocking fd v with ⟨reply', v'⟩
    rw [hleft, hright] at hreply hafter
    obtain rfl : reply = reply' := hreply
    cases reply with
    | error cause => exact .ok ⟨rfl, rfl, hafter⟩
    | ok _ => exact h.readToEnd (hpipe fd rfl) hafter

/-- Standard error is read if standard output did not fail, and that is so in both worlds or in neither. -/
theorem drainBoth (h : host.Repeats alike fds pid) (hfds : child.descriptors ⊆ fds) (hworlds : alike w v) :
    Echoes (Beside (Beside alike)) (Capture.drainBoth host fuel child streams w)
      (Capture.drainBoth host fuel child streams v) := by
  obtain ⟨hstdout, hstderr⟩ := Child.pipes_mem hfds
  refine (h.drainOpen hstdout hworlds).bind ?_
  rintro ⟨first, output, w'⟩ ⟨_, _, v'⟩ - ⟨rfl, rfl, hafter⟩
  cases first with
  | error cause => exact .ok ⟨rfl, rfl, hafter⟩
  | ok drained =>
    refine (h.drainOpen hstderr hafter).bind ?_
    rintro ⟨second, errors, w''⟩ ⟨_, _, v''⟩ - ⟨rfl, rfl, hlast⟩
    exact .ok ⟨rfl, rfl, hlast⟩

theorem readBoth (h : host.Repeats alike fds pid) (hfds : child.descriptors ⊆ fds) (hworlds : alike w v) :
    Echoes (Beside (Beside alike)) (Capture.readBoth host fuel child streams w)
      (Capture.readBoth host fuel child streams v) := by
  obtain ⟨hstdout, hstderr⟩ := Child.pipes_mem hfds
  refine (h.readOpen hstdout hworlds).bind ?_
  rintro ⟨first, output, w'⟩ ⟨_, _, v'⟩ - ⟨rfl, rfl, hafter⟩
  cases first with
  | error cause => exact .ok ⟨rfl, rfl, hafter⟩
  | ok drained =>
    refine (h.readOpen hstderr hafter).bind ?_
    rintro ⟨second, errors, w''⟩ ⟨_, _, v''⟩ - ⟨rfl, rfl, hlast⟩
    exact .ok ⟨rfl, rfl, hlast⟩

theorem closePipes (h : host.Repeats alike fds pid) (hfds : child.descriptors ⊆ fds) (hworlds : alike w v) :
    Beside alike (Capture.closePipes host child w) (Capture.closePipes host child v) := by
  refine ⟨rfl, ?_⟩
  have hclose : ∀ {pipe : Option Fd} {w v : W}, (∀ fd ∈ pipe, fd ∈ fds) → alike w v →
      alike (pipe.elim w (host.close · w)) (pipe.elim v (host.close · v)) := by
    intro pipe w v hpipe hworlds
    cases pipe with
    | none => exact hworlds
    | some fd => exact h.close fd (hpipe fd rfl) hworlds
  obtain ⟨hstdout, hstderr⟩ := Child.pipes_mem hfds
  exact hclose hstderr (hclose hstdout hworlds)

end Host.Repeats

/-! ## Calls on tasks -/

namespace Task

variable {κ : Type}

/-- A task without the time at which it was finished. -/
def untimed (task : Task κ) : Task κ := { task with completedAt := none }

/-- Two calls on tasks with the same result, which leave the tasks the same but for the time, and worlds alike. -/
def Told {α : Type} (alike : W → W → Prop) (a b : Step κ W α) : Prop :=
  a.1 = b.1 ∧ a.2.1.untimed = b.2.1.untimed ∧ alike a.2.2 b.2.2

variable {host : Host W} {alike : W → W → Prop} {fds : List Fd} {pid : Pid} {fuel : Nat} {w v : W}
  {task other : Task κ}

/-- The calls on a task stay within these descriptors and this process. -/
structure Within (task : Task κ) (fds : List Fd) (pid : Pid) : Prop where
  pid : ∀ child ∈ task.process, child.pid = pid
  descriptors : ∀ child ∈ task.process, child.descriptors ⊆ fds

/-- Tasks that differ at most in when they were finished are one, but for that time. -/
theorem eq_of_untimed_eq (h : task.untimed = other.untimed) : ∃ time, other = { task with completedAt := time } := by
  refine ⟨other.completedAt, ?_⟩
  cases task
  cases other
  simp only [untimed, Task.mk.injEq] at h
  simp [h]

section Told

variable (hrepeats : host.Repeats alike fds pid) (hwithin : task.Within fds pid)
  (htask : task.untimed = other.untimed) (hworlds : alike w v)

include hrepeats hwithin htask hworlds

/-- What is there now of a task is the same in worlds that are alike, whenever it was finished. -/
theorem readAvailable_told :
    Echoes (Told alike) (task.readAvailable host fuel w) (other.readAvailable host fuel v) := by
  obtain ⟨time, rfl⟩ := eq_of_untimed_eq htask
  unfold readAvailable
  dsimp only
  cases hprocess : task.process with
  | none => exact .ok ⟨rfl, by simp [untimed, hprocess], hworlds⟩
  | some child =>
    refine (hrepeats.drainBoth (hwithin.descriptors child hprocess) hworlds).bind ?_
    rintro ⟨drained, streams, w'⟩ ⟨_, _, v'⟩ - ⟨rfl, rfl, hafter⟩
    cases drained <;> exact .ok ⟨rfl, rfl, hafter⟩

theorem readToClose_told :
    Echoes (Told alike) (task.readToClose host fuel w) (other.readToClose host fuel v) := by
  obtain ⟨time, rfl⟩ := eq_of_untimed_eq htask
  unfold readToClose
  dsimp only
  cases hprocess : task.process with
  | none => exact .ok ⟨rfl, by simp [untimed, hprocess], hworlds⟩
  | some child =>
    refine (hrepeats.readBoth (hwithin.descriptors child hprocess) hworlds).bind ?_
    rintro ⟨result, streams, w'⟩ ⟨_, _, v'⟩ - ⟨rfl, rfl, hafter⟩
    cases result <;> exact .ok ⟨rfl, rfl, hafter⟩

theorem reap_told : Echoes (Told alike) (task.reap host fuel w) (other.reap host fuel v) := by
  obtain ⟨time, rfl⟩ := eq_of_untimed_eq htask
  unfold reap
  dsimp only
  split
  · exact .error _
  · cases hprocess : task.process with
    | none => exact .error _
    | some child =>
      have hpid : child.pid = pid := hwithin.pid child hprocess
      rw [← hpid] at hrepeats
      refine (hrepeats.awaitEnd hworlds).bind ?_
      rintro ⟨found, w'⟩ ⟨_, v'⟩ - ⟨rfl, hafter⟩
      cases found <;> exact .ok ⟨rfl, by simp [untimed, hprocess], hafter⟩

theorem finishExecution_told :
    Echoes (Told alike) (task.finishExecution host fuel w) (other.finishExecution host fuel v) := by
  have hread : Echoes (Told alike) (task.readAvailable host fuel w) (other.readAvailable host fuel v) :=
    readAvailable_told hrepeats hwithin htask hworlds
  obtain ⟨time, rfl⟩ := eq_of_untimed_eq htask
  unfold finishExecution
  dsimp only
  split
  · exact .error _
  · refine hread.bind ?_
    rintro ⟨drained, after, w'⟩ ⟨_, after', v'⟩ hcall ⟨rfl, hsame, hafter⟩
    have hprocess : after.process = task.process := by rw [readAvailable_eq hcall]
    obtain ⟨time', rfl⟩ := eq_of_untimed_eq hsame
    dsimp only
    rw [hprocess]
    cases hchild : task.process with
    | none => exact .ok ⟨rfl, rfl, hafter⟩
    | some child =>
      obtain ⟨-, hlast⟩ := hrepeats.closePipes (hwithin.descriptors child hchild) hafter
      exact .ok ⟨rfl, rfl, hlast⟩

/-- A task is finished in both worlds or in neither; only the time at which it is may be another. -/
theorem finishIfRunning_told :
    Echoes (Told alike) (task.finishIfRunning host fuel w) (other.finishIfRunning host fuel v) := by
  have hstate : other.state = task.state := by
    obtain ⟨time, rfl⟩ := eq_of_untimed_eq htask
    rfl
  unfold finishIfRunning
  rw [hstate]
  split
  · exact finishExecution_told hrepeats hwithin htask hworlds
  · exact .ok ⟨rfl, htask, hworlds⟩

end Told

end Task

end BatchRunner
