import BatchRunner.Proofs.Task.Effects
import BatchRunner.Proofs.Task.Unbroken
import BatchRunner.Readiness

/-!
# Calls that come back

A call is made again while it is interrupted, or while there is more to read, so it comes back only if that happens
finitely often in a row (**`Ceases`**). Where the calls cease that a reading, a reaping or a wait for output makes, it
comes back itself, with one answer, once it is allowed enough calls (**`ComesBack`**). What is asked is asked of these
calls only, in the worlds in which they are made (`Host.LetsDrain`, `Host.LetsClose`, `Host.LetsReap`).
-/

namespace BatchRunner

open Capture

/-- A call that is allowed some number of steps comes back: with enough of them it gives an answer, and with more of
them the same one. -/
def ComesBack {ε α : Type} (call : Nat → Except ε α) : Prop := ∃ a n, ∀ p, n ≤ p → call p = .ok a

namespace ComesBack

variable {ε α β : Type} {call : Nat → Except ε α} {f : Nat → α → Except ε β}

theorem ok (a : α) : ComesBack (fun _ => (.ok a : Except ε α)) := ⟨a, 0, fun _ _ => rfl⟩

/-- A call that needs one step more comes back as well. -/
theorem of_succ {call' : Nat → Except ε α} (h : ComesBack call) (hsucc : ∀ p, call' (p + 1) = call p) :
    ComesBack call' := by
  obtain ⟨a, n, hcall⟩ := h
  refine ⟨a, n + 1, fun p hp => ?_⟩
  obtain ⟨q, rfl⟩ := Nat.exists_eq_add_of_le' hp
  rw [← Nat.add_assoc, hsucc]
  exact hcall (q + n) (Nat.le_add_left n q)

/-- A call that needs one step comes back. -/
theorem at_once {a : α} (h : ∀ p, call (p + 1) = .ok a) : ComesBack call :=
  (ComesBack.ok a).of_succ h

/-- What follows a call has to come back only with the answer that the call gives in the end. -/
theorem bind (h : ComesBack call) (hf : ∀ a n, (∀ p, n ≤ p → call p = .ok a) → ComesBack (f · a)) :
    ComesBack fun p => call p >>= f p := by
  obtain ⟨a, n, hcall⟩ := h
  obtain ⟨b, m, hrest⟩ := hf a n hcall
  refine ⟨b, max n m, fun p hp => ?_⟩
  show call p >>= f p = .ok b
  rw [hcall p (Nat.le_trans (Nat.le_max_left n m) hp)]
  exact hrest p (Nat.le_trans (Nat.le_max_right n m) hp)

end ComesBack

/-- A call that, made again as long as the answer says so, is not made again for ever; every answer is a good one. -/
inductive Ceases {α W : Type} (call : W → Reply α × W) (again : Reply α → Bool) (good : Reply α → Prop) : W → Prop
  | intro {w : W} (hgood : good (call w).1) (hrest : again (call w).1 = true → Ceases call again good (call w).2) :
    Ceases call again good w

/-- A loop comes back that makes a call again only as the answer says, and ends with any other answer. -/
theorem Ceases.comesBack {α β σ ε W : Type} {call : W → Reply α × W} {again : Reply α → Bool}
    {good : Reply α → Prop} {f : Nat → σ → W → Except ε β} {w : W} (h : Ceases call again good w)
    (hstep : ∀ s w, good (call w).1 → (∃ b, ∀ p, f (p + 1) s w = .ok b) ∨
      again (call w).1 = true ∧ ∃ t, ∀ p, f (p + 1) s w = f p t (call w).2) (s : σ) : ComesBack (f · s w) := by
  induction h generalizing s with
  | intro hgood _ ih =>
    rcases hstep s _ hgood with ⟨b, hends⟩ | ⟨hagain, t, hgoes⟩
    · exact .at_once hends
    · exact (ih hagain t).of_succ hgoes

namespace Reply

/-- Whether a call was interrupted, so that it is made again. -/
def isInterrupted {α : Type} : Reply α → Bool
  | fault cause => cause.isInterruption
  | _ => false

/-- Whether a read is followed by another one. -/
def isFollowed : Reply ByteArray → Bool
  | answer chunk => !chunk.isEmpty
  | reply => reply.isInterrupted

/-- A reply to a wait for output that is a fault, or tells of one of so many descriptors that it can be read or has
hung up. -/
def TellsOf (count : Nat) : Reply (List Conditions) → Prop
  | never => False
  | fault _ => True
  | answer conditions =>
    ∃ index c, index < count ∧ conditions[index]? = some c ∧ (c.isReadable || c.isHungUp) = true

end Reply

variable {κ W : Type} {host : Host W} {w : W}

/-! ## Reading and waiting -/

section Loops

theorem drain_comesBack {fd : Fd} (h : Ceases (host.read fd chunkSize) Reply.isFollowed (· ≠ .never) w)
    (bytes : ByteArray) : ComesBack (Capture.drain host fd · bytes w) := by
  refine h.comesBack (f := Capture.drain host fd) (fun bytes w hanswers => ?_) bytes
  rcases hreply : host.read fd chunkSize w with ⟨reply, w'⟩
  rw [hreply] at hanswers
  cases reply with
  | never => exact absurd rfl hanswers
  | answer chunk =>
    cases hempty : chunk.isEmpty with
    | true => exact .inl ⟨_, fun p => by rw [Capture.drain, hreply]; exact if_pos hempty⟩
    | false =>
      refine .inr ⟨by simp [Reply.isFollowed, hempty], bytes ++ chunk, fun p => ?_⟩
      rw [Capture.drain, hreply]
      exact if_neg (by simp [hempty])
  | fault cause =>
    cases hinterrupted : cause.isInterruption with
    | true => exact .inr ⟨hinterrupted, bytes, fun p => by rw [Capture.drain, hreply]; exact if_pos hinterrupted⟩
    | false =>
      cases hblocks : cause.wouldBlock with
      | true => exact .inl ⟨_, fun p => by simp only [Capture.drain, hreply, hinterrupted, hblocks]; rfl⟩
      | false => exact .inl ⟨_, fun p => by simp only [Capture.drain, hreply, hinterrupted, hblocks]; rfl⟩

theorem readToEnd_comesBack {fd : Fd} (h : Ceases (host.read fd chunkSize) Reply.isFollowed (· ≠ .never) w)
    (bytes : ByteArray) : ComesBack (Capture.readToEnd host fd · bytes w) := by
  refine h.comesBack (f := Capture.readToEnd host fd) (fun bytes w hanswers => ?_) bytes
  rcases hreply : host.read fd chunkSize w with ⟨reply, w'⟩
  rw [hreply] at hanswers
  cases reply with
  | never => exact absurd rfl hanswers
  | answer chunk =>
    cases hempty : chunk.isEmpty with
    | true => exact .inl ⟨_, fun p => by rw [Capture.readToEnd, hreply]; exact if_pos hempty⟩
    | false =>
      refine .inr ⟨by simp [Reply.isFollowed, hempty], bytes ++ chunk, fun p => ?_⟩
      rw [Capture.readToEnd, hreply]
      exact if_neg (by simp [hempty])
  | fault cause =>
    cases hinterrupted : cause.isInterruption with
    | true => exact .inr ⟨hinterrupted, bytes, fun p => by rw [Capture.readToEnd, hreply]; exact if_pos hinterrupted⟩
    | false => exact .inl ⟨_, fun p => by rw [Capture.readToEnd, hreply]; exact if_neg (by simp [hinterrupted])⟩

theorem awaitEnd_comesBack {pid : Pid} (h : Ceases (host.wait pid) Reply.isInterrupted (· ≠ .never) w) :
    ComesBack (Capture.awaitEnd host pid · w) := by
  refine h.comesBack (f := fun p _ w => Capture.awaitEnd host pid p w) (fun _ w hanswers => ?_) ()
  rcases hreply : host.wait pid w with ⟨reply, w'⟩
  rw [hreply] at hanswers
  cases reply with
  | never => exact absurd rfl hanswers
  | answer found => exact .inl ⟨_, fun p => by rw [Capture.awaitEnd, hreply]⟩
  | fault cause =>
    cases hinterrupted : cause.isInterruption with
    | true => exact .inr ⟨hinterrupted, (), fun p => by rw [Capture.awaitEnd, hreply]; exact if_pos hinterrupted⟩
    | false => exact .inl ⟨_, fun p => by rw [Capture.awaitEnd, hreply]; exact if_neg (by simp [hinterrupted])⟩

variable {set : ReadinessSet}

/-- Without entries there is nothing to wait for, and no call is made. -/
theorem watch_comesBack (h : set.isEmpty = false →
    Ceases (host.poll set.descriptors) Reply.isInterrupted (Reply.TellsOf set.descriptors.length) w) :
    ComesBack (set.wait host · w) := by
  cases hset : set.isEmpty with
  | true => exact .at_once fun p => by rw [ReadinessSet.wait, if_pos hset]
  | false =>
    have hsome : ¬set.isEmpty = true := by simp [hset]
    refine (h hset).comesBack (f := fun p _ w => set.wait host p w) (fun _ w htells => ?_) ()
    rcases hreply : host.poll set.descriptors w with ⟨reply, w'⟩
    rw [hreply] at htells
    cases reply with
    | never => exact htells.elim
    | answer conditions => exact .inl ⟨_, fun p => by rw [ReadinessSet.wait, if_neg hsome, hreply]⟩
    | fault cause =>
      cases hinterrupted : cause.isInterruption with
      | true =>
        refine .inr ⟨hinterrupted, (), fun p => ?_⟩
        rw [ReadinessSet.wait, if_neg hsome, hreply]
        exact if_pos hinterrupted
      | false =>
        refine .inl ⟨(.error cause, w'), fun p => ?_⟩
        rw [ReadinessSet.wait, if_neg hsome, hreply]
        exact if_neg (by simp [hinterrupted])

/-- The events of a wait are those of a good answer. -/
theorem watch_events {good : Reply (List Conditions) → Prop} {fuel : Nat} {w' : W} {events : List ReadyEvent}
    (h : Ceases (host.poll set.descriptors) Reply.isInterrupted good w) (hsome : set.isEmpty = false)
    (hcall : set.wait host fuel w = .ok (.ok events, w')) :
    ∃ conditions, good (.answer conditions) ∧ events = set.eventsFrom 0 conditions := by
  induction h generalizing fuel with
  | @intro w hgood _ ih =>
    cases fuel with
    | zero => cases hcall
    | succ fuel =>
      rw [ReadinessSet.wait, if_neg (by simp [hsome])] at hcall
      rcases hreply : host.poll set.descriptors w with ⟨reply, v⟩
      rw [hreply] at hcall hgood ih
      cases reply with
      | never => cases hcall
      | answer conditions =>
        cases hcall
        exact ⟨conditions, hgood, rfl⟩
      | fault cause =>
        dsimp only at hcall
        split at hcall
        · next hinterrupted => exact ih hinterrupted hcall
        · cases hcall

end Loops

/-! ## What is asked of the calls on a process -/

namespace Host

/-- The reads of a pipe, unless it is closed, come to an end. -/
def Exhausts (host : Host W) (pipe : Option Fd) (w : W) : Prop :=
  ∀ fd, pipe = some fd → Ceases (host.read fd chunkSize) Reply.isFollowed (· ≠ .never) w

/-- The reads of what is there now from the pipes of a process come to an end, those of standard output first. -/
structure LetsDrain (host : Host W) (child : Child) (w : W) : Prop where
  output : host.Exhausts child.stdout w
  errors : ∀ {fuel bytes drained read v}, drainOpen host child.stdout fuel bytes w = .ok (.ok drained, read, v) →
    host.Exhausts child.stderr v

/-- The reads up to the end of the pipes of a process come to an end, and where they fail so do those of what is
left. -/
structure LetsClose (host : Host W) (child : Child) (w : W) : Prop where
  output : ∀ {v}, (∃ fd, child.stdout = some fd ∧ host.setBlocking fd w = (.ok (), v)) → host.Exhausts child.stdout v
  errors : ∀ {fuel bytes read u v}, readOpen host child.stdout fuel bytes w = .ok (.ok (), read, u) →
    (∃ fd, child.stderr = some fd ∧ host.setBlocking fd u = (.ok (), v)) → host.Exhausts child.stderr v
  rest : ∀ {fuel streams cause read v}, readBoth host fuel child streams w = .ok (.error cause, read, v) →
    host.LetsDrain child v

/-- The wait for the end of a process comes back, and then the reads of what it left do. -/
structure LetsReap (host : Host W) (child : Child) (w : W) : Prop where
  wait : Ceases (host.wait child.pid) Reply.isInterrupted (· ≠ .never) w
  rest : ∀ {fuel found v}, awaitEnd host child.pid fuel w = .ok (found, v) → host.LetsDrain child v

variable {child : Child}

theorem Exhausts.drainOpen {pipe : Option Fd} (h : host.Exhausts pipe w) (bytes : ByteArray) :
    ComesBack (Capture.drainOpen host pipe · bytes w) := by
  cases pipe with
  | none => exact .ok _
  | some fd => exact drain_comesBack (h fd rfl) bytes

theorem readOpen_comesBack {pipe : Option Fd}
    (h : ∀ {v}, (∃ fd, pipe = some fd ∧ host.setBlocking fd w = (.ok (), v)) → host.Exhausts pipe v)
    (bytes : ByteArray) : ComesBack (Capture.readOpen host pipe · bytes w) := by
  cases pipe with
  | none => exact .ok _
  | some fd =>
    unfold Capture.readOpen Capture.readBlocking
    dsimp only
    split
    · exact .ok _
    · next v hset => exact readToEnd_comesBack (h ⟨fd, rfl, hset⟩ fd rfl) bytes

theorem LetsDrain.drainBoth (h : host.LetsDrain child w) (streams : Streams) :
    ComesBack (Capture.drainBoth host · child streams w) := by
  refine (h.output.drainOpen streams.output).bind fun ⟨first, output, v⟩ n hfirst => ?_
  cases first with
  | error cause => exact .ok _
  | ok drained => exact ((h.errors (hfirst n (Nat.le_refl n))).drainOpen streams.errors).bind fun _ _ _ => .ok _

theorem LetsClose.readBoth (h : host.LetsClose child w) (streams : Streams) :
    ComesBack (Capture.readBoth host · child streams w) := by
  refine (readOpen_comesBack h.output streams.output).bind fun ⟨first, output, v⟩ n hfirst => ?_
  cases first with
  | error cause => exact .ok _
  | ok _ =>
    exact (readOpen_comesBack (h.errors (hfirst n (Nat.le_refl n))) streams.errors).bind fun _ _ _ => .ok _

end Host

/-! ## The calls on a task -/

namespace Task

variable {task : Task κ}

theorem readAvailable_comesBack (h : ∀ child, task.process = some child → host.LetsDrain child w) :
    ComesBack (task.readAvailable host · w) := by
  unfold readAvailable
  cases hprocess : task.process with
  | none => exact .ok _
  | some child =>
    refine ((h child hprocess).drainBoth task.streams).bind fun ⟨drained, streams, v⟩ _ _ => ?_
    cases drained <;> exact .ok _

theorem readToClose_comesBack (h : ∀ child, task.process = some child → host.LetsClose child w) :
    ComesBack (task.readToClose host · w) := by
  unfold readToClose
  cases hprocess : task.process with
  | none => exact .ok _
  | some child =>
    refine ((h child hprocess).readBoth task.streams).bind fun ⟨result, streams, v⟩ _ _ => ?_
    cases result <;> exact .ok _

/-- A task that could not be read to its end is still to be read in the world that the failure left. -/
theorem letsDrain_of_readToClose {between : Task κ} {fuel : Nat} {v : W} {error : Error}
    (h : ∀ child, task.process = some child → host.LetsClose child w)
    (hread : task.readToClose host fuel w = .ok (.error error, between, v)) :
    ∀ child, between.process = some child → host.LetsDrain child v := by
  intro child hprocess
  have hsame : task.process = some child := by rwa [readToClose_eq hread] at hprocess
  unfold readToClose at hread
  rw [hsame] at hread
  obtain ⟨⟨result, streams, u⟩, hboth, hread⟩ := except_bind_ok.1 hread
  cases result with
  | ok _ => cases hread
  | error cause =>
    cases hread
    exact (h child hsame).rest hboth

theorem finishExecution_comesBack (hstate : task.state = .executing)
    (h : ∀ child, task.process = some child → host.LetsDrain child w) : ComesBack (task.finishExecution host · w) := by
  unfold finishExecution
  split
  · next hne => simp [hstate] at hne
  · exact (readAvailable_comesBack h).bind fun _ _ _ => .ok _

theorem finishIfRunning_comesBack (h : ∀ child, task.process = some child → host.LetsDrain child w) :
    ComesBack (task.finishIfRunning host · w) := by
  unfold finishIfRunning
  split
  · next hrunning => exact finishExecution_comesBack (by simpa [TaskState.isRunning] using hrunning) h
  · exact .ok _

theorem reap_comesBack (htask : task.Leavable) (h : ∀ child, task.process = some child → host.LetsReap child w) :
    ComesBack (task.reap host · w) := by
  obtain ⟨child, hprocess⟩ := Option.isSome_iff_exists.1 htask.process
  unfold reap
  split
  · next hreaped => simp [htask.termination] at hreaped
  · simp only [hprocess]
    refine (awaitEnd_comesBack (h child hprocess).wait).bind fun ⟨found, v⟩ _ _ => ?_
    cases found <;> exact .ok _

/-- A task that was reaped is still to be read in the world that the wait for its end left. -/
theorem letsDrain_of_reap {between : Task κ} {fuel : Nat} {v : W} {reaped : Except Error Termination}
    (h : ∀ child, task.process = some child → host.LetsReap child w)
    (hreap : task.reap host fuel w = .ok (reaped, between, v)) :
    ∀ child, between.process = some child → host.LetsDrain child v := by
  intro child hprocess
  have hsame : task.process = some child := by rwa [reap_eq hreap] at hprocess
  unfold reap at hreap
  split at hreap
  · cases hreap
  · simp only [hsame] at hreap
    obtain ⟨⟨found, u⟩, hwait, hreap⟩ := except_bind_ok.1 hreap
    cases found <;> cases hreap <;> exact (h child hsame).rest hwait

end Task

end BatchRunner
