import BatchRunner.Proofs.Host.Account
import BatchRunner.Proofs.Task.Effects

/-!
# What is captured from pipes

On a host with pipes the bytes captured from a pipe are those that were read from it, however a reading ends
(`Account.Captured`). A reading that gives no fault leaves nothing unread, and one that comes to the end leaves
a pipe that nobody can write to any more (`Account.Complete`), so that all that was ever written to it has been
captured. A pipe from which this is known does not change again (`Complete.grows`).
-/

namespace BatchRunner

open Capture

variable {κ W : Type} {account : Account W}

namespace Account

/-- The bytes are those that were read from a pipe, if that is open. -/
def Captured (account : Account W) (w : W) (pipe : Option Fd) (bytes : ByteArray) : Prop :=
  ∀ fd ∈ pipe, ∀ p, account.pipe? w fd = some p → bytes = p.taken

/-- Nothing that was written to a pipe is left in it. -/
def Exhausted (account : Account W) (w : W) (pipe : Option Fd) : Prop :=
  ∀ fd ∈ pipe, ∀ p, account.pipe? w fd = some p → p.unread = .empty

/-- Behind a descriptor a pipe is open that nobody can write to, and from which everything was read. -/
def Complete (account : Account W) (w : W) (fd : Fd) : Prop :=
  ∃ p, account.pipe? w fd = some p ∧ p.writers = [] ∧ p.unread = .empty

variable {fds : List Fd} {w w' : W} {fd : Fd} {pipe : Option Fd} {bytes : ByteArray}

theorem Complete.isEnded (h : account.Complete w fd) : account.IsEnded w fd := by
  obtain ⟨p, hp, hwriters, -⟩ := h
  exact ⟨p, hp, hwriters⟩

theorem Complete.grows (h : account.Complete w fd) (hgrows : account.Grows fds w w') (hfd : fd ∉ fds) :
    account.Complete w' fd := by
  obtain ⟨p, hp, hwriters, hunread⟩ := h
  obtain ⟨q, hq, hpq⟩ := hgrows fd hfd p hp
  obtain rfl := hpq.ended hwriters
  exact ⟨q, hq, hwriters, hunread⟩

theorem Captured.grows (h : account.Captured w pipe bytes) (hopen : ∀ fd ∈ pipe, account.IsOpen w fd)
    (hgrows : account.Grows fds w w') (hfds : ∀ fd ∈ pipe, fd ∉ fds) : account.Captured w' pipe bytes := by
  intro fd hfd q hq
  obtain ⟨p, hp⟩ := Option.isSome_iff_exists.1 (hopen fd hfd)
  obtain ⟨q', hq', hpq⟩ := hgrows fd (hfds fd hfd) p hp
  obtain rfl : q' = q := Option.some.inj (hq'.symm.trans hq)
  rw [hpq.taken]
  exact h fd hfd p hp

/-- If nothing is left of what was written to a pipe, all of it was captured. -/
theorem Captured.eq_written (h : account.Captured w pipe bytes) (hfd : fd ∈ pipe) {p : Pipe}
    (hp : account.pipe? w fd = some p) (hunread : p.unread = .empty) : bytes = p.written := by
  rw [Pipe.written_of_unread hunread]
  exact h fd hfd p hp

theorem captured_none (account : Account W) (w : W) (bytes : ByteArray) : account.Captured w none bytes := nofun

namespace Piped

variable {host : Host W} {hooks : Hooks κ W} {fuel : Nat} {captured : ByteArray}

/-- Reading what is there captures what it takes. Without a fault it leaves nothing, and at the end of the pipe no
writer is left. -/
theorem drain (h : account.Piped host hooks) {result : Except Os.Fault Drained} {p : Pipe}
    (hp : account.pipe? w fd = some p) (hcall : Capture.drain host fd fuel bytes w = .ok (result, captured, w')) :
    ∃ q more, account.pipe? w' fd = some q ∧ captured = bytes ++ more ∧ q.taken = p.taken ++ more ∧
      (∀ drained, result = .ok drained → q.unread = .empty) ∧ (result = .ok .closed → q.writers = []) := by
  induction fuel generalizing w p bytes with
  | zero => cases hcall
  | succ fuel ih =>
    rw [Capture.drain] at hcall
    rcases hread : host.read fd chunkSize w with ⟨reply, v⟩
    obtain ⟨grown, q, hgrows, hgives, hq⟩ := h.read_gives chunkSize_pos hread hp
    rw [hread] at hcall
    cases hgives with
    | @bytes chunk rest hsome hfirst =>
      -- The chunk goes behind the bytes so far, and behind what the pipe had given before.
      simp only [hsome, Bool.false_eq_true, if_false] at hcall
      obtain ⟨q, more, hq, rfl, htaken, hend⟩ := ih hq hcall
      refine ⟨q, chunk ++ more, hq, ByteArray.append_assoc, ?_, hend⟩
      rw [htaken, hgrows.taken, ByteArray.append_assoc]
    | ended hnone hunread hwriters =>
      simp only [hnone, if_true] at hcall
      cases hcall
      exact ⟨grown, .empty, hq, ByteArray.append_empty.symm, by rw [hgrows.taken, ByteArray.append_empty],
        fun _ _ => hunread, fun _ => hwriters⟩
    | fault hdry =>
      have htaken : grown.taken = p.taken ++ .empty := by rw [hgrows.taken, ByteArray.append_empty]
      dsimp only at hcall
      split at hcall
      · obtain ⟨q, more, hq, hcaptured, htaken', hend⟩ := ih hq hcall
        exact ⟨q, more, hq, hcaptured, by rw [htaken', hgrows.taken], hend⟩
      · split at hcall
        · next hblock =>
          cases hcall
          exact ⟨grown, .empty, hq, ByteArray.append_empty.symm, htaken, fun _ _ => hdry hblock, by simp⟩
        · cases hcall
          exact ⟨grown, .empty, hq, ByteArray.append_empty.symm, htaken, by simp, by simp⟩
    | never => cases hcall

/-- Reading to the end captures what it takes, and without a fault that is everything. -/
theorem readToEnd (h : account.Piped host hooks) {result : Except Os.Fault Unit} {p : Pipe}
    (hp : account.pipe? w fd = some p) (hcall : Capture.readToEnd host fd fuel bytes w = .ok (result, captured, w')) :
    ∃ q more, account.pipe? w' fd = some q ∧ captured = bytes ++ more ∧ q.taken = p.taken ++ more ∧
      (result = .ok () → q.writers = [] ∧ q.unread = .empty) := by
  induction fuel generalizing w p bytes with
  | zero => cases hcall
  | succ fuel ih =>
    rw [Capture.readToEnd] at hcall
    rcases hread : host.read fd chunkSize w with ⟨reply, v⟩
    obtain ⟨grown, q, hgrows, hgives, hq⟩ := h.read_gives chunkSize_pos hread hp
    rw [hread] at hcall
    cases hgives with
    | @bytes chunk rest hsome hfirst =>
      simp only [hsome, Bool.false_eq_true, if_false] at hcall
      obtain ⟨q, more, hq, rfl, htaken, hend⟩ := ih hq hcall
      refine ⟨q, chunk ++ more, hq, ByteArray.append_assoc, ?_, hend⟩
      rw [htaken, hgrows.taken, ByteArray.append_assoc]
    | ended hnone hunread hwriters =>
      simp only [hnone, if_true] at hcall
      cases hcall
      exact ⟨grown, .empty, hq, ByteArray.append_empty.symm, by rw [hgrows.taken, ByteArray.append_empty],
        fun _ => ⟨hwriters, hunread⟩⟩
    | fault hdry =>
      dsimp only at hcall
      split at hcall
      · obtain ⟨q, more, hq, hcaptured, htaken', hend⟩ := ih hq hcall
        exact ⟨q, more, hq, hcaptured, by rw [htaken', hgrows.taken], hend⟩
      · cases hcall
        exact ⟨grown, .empty, hq, ByteArray.append_empty.symm, by rw [hgrows.taken, ByteArray.append_empty], by simp⟩
    | never => cases hcall

theorem drainOpen (h : account.Piped host hooks) {result : Except Os.Fault Drained}
    (hopen : ∀ fd ∈ pipe, account.IsOpen w fd)
    (hcall : Capture.drainOpen host pipe fuel bytes w = .ok (result, captured, w')) :
    (account.Captured w pipe bytes → account.Captured w' pipe captured) ∧
      (∀ drained, result = .ok drained → account.Exhausted w' pipe) ∧
      (result = .ok .closed → ∀ fd ∈ pipe, account.Complete w' fd) := by
  cases pipe with
  | none => exact ⟨fun _ => captured_none account w' captured, by simp [Account.Exhausted], by simp⟩
  | some fd =>
    obtain ⟨p, hp⟩ := Option.isSome_iff_exists.1 (hopen fd rfl)
    obtain ⟨q, more, hq, hcaptured, htaken, hunread, hwriters⟩ := h.drain hp hcall
    refine ⟨fun hbefore => ?_, fun drained hok => ?_, fun hok => ?_⟩
    · rintro fd' ⟨⟩ q' hq'
      obtain rfl := Option.some.inj (hq.symm.trans hq')
      rw [hcaptured, hbefore fd rfl p hp, htaken]
    · rintro fd' ⟨⟩ q' hq'
      obtain rfl := Option.some.inj (hq.symm.trans hq')
      exact hunread drained hok
    · rintro fd' ⟨⟩
      exact ⟨q, hq, hwriters hok, hunread _ hok⟩

theorem readOpen (h : account.Piped host hooks) {result : Except Os.Fault Unit}
    (hopen : ∀ fd ∈ pipe, account.IsOpen w fd)
    (hcall : Capture.readOpen host pipe fuel bytes w = .ok (result, captured, w')) :
    (account.Captured w pipe bytes → account.Captured w' pipe captured) ∧
      (result = .ok () → ∀ fd ∈ pipe, account.Complete w' fd) := by
  cases pipe with
  | none => exact ⟨fun _ => captured_none account w' captured, by simp⟩
  | some fd =>
    obtain ⟨p, hp⟩ := Option.isSome_iff_exists.1 (hopen fd rfl)
    rw [Capture.readOpen, readBlocking] at hcall
    have hset := h.setBlocking_grows fd w
    rcases hreply : host.setBlocking fd w with ⟨_ | _, v⟩
    · rw [hreply] at hcall hset
      cases hcall
      exact ⟨fun hbefore => hbefore.grows hopen hset fun _ _ => List.not_mem_nil, by simp⟩
    · rw [hreply] at hcall hset
      obtain ⟨p', hp', hgrows⟩ := hset fd List.not_mem_nil p hp
      obtain ⟨q, more, hq, hcaptured, htaken, hend⟩ := h.readToEnd hp' hcall
      refine ⟨fun hbefore => ?_, fun hok => ?_⟩
      · rintro fd' ⟨⟩ q' hq'
        obtain rfl := Option.some.inj (hq.symm.trans hq')
        rw [hcaptured, hbefore fd rfl p hp, htaken, hgrows.taken]
      · rintro fd' ⟨⟩
        exact ⟨q, hq, hend hok⟩

end Piped

end Account

/-! ## The buffers of a task -/

/-- The buffers of a task hold what was read from the pipes of its process. If its streams share a pipe, nothing is
kept apart. -/
structure Task.Filled (account : Account W) (w : W) (child : Child) (task : Task κ) : Prop where
  output : account.Captured w child.stdout task.streams.output
  errors : account.Captured w child.stderr task.streams.errors
  merged : task.separateErrors = false → task.streams.errors = .empty

/-- The pipes of a process are open for reading, under different descriptors. -/
structure Child.Readable (account : Account W) (w : W) (child : Child) : Prop where
  isOpen : ∀ fd ∈ child.descriptors, account.IsOpen w fd
  apart : child.descriptors.Nodup

namespace Child.Readable

variable {child : Child} {w w' : W}

theorem stderr_ne (h : child.Readable account w) {fd : Fd} (hfd : fd ∈ child.stderr) : fd ∉ child.stdout.toList :=
  fun hout => (List.nodup_append.1 h.apart).2.2 fd hout fd (Option.mem_toList.2 hfd) rfl

theorem stdout_ne (h : child.Readable account w) {fd : Fd} (hfd : fd ∈ child.stdout) : fd ∉ child.stderr.toList :=
  fun herr => h.stderr_ne (Option.mem_toList.1 herr) (Option.mem_toList.2 hfd)

theorem keeps (h : child.Readable account w) {pids : List Pid} (hkeeps : account.Keeps [] pids w w') :
    child.Readable account w' :=
  ⟨fun fd hfd => hkeeps.isOpen fd List.not_mem_nil (h.isOpen fd hfd), h.apart⟩

theorem isOpen_stdout (h : child.Readable account w) : ∀ fd ∈ child.stdout, account.IsOpen w fd :=
  fun fd hfd => h.isOpen fd (Child.mem_descriptors.2 (.inl hfd))

theorem isOpen_stderr (h : child.Readable account w) : ∀ fd ∈ child.stderr, account.IsOpen w fd :=
  fun fd hfd => h.isOpen fd (Child.mem_descriptors.2 (.inr hfd))

/-- Reading standard output leaves what was captured of standard error, and the other way round. -/
theorem captured_stderr (h : child.Readable account w) (hgrows : account.Grows child.stdout.toList w w')
    {bytes : ByteArray} (hbytes : account.Captured w child.stderr bytes) : account.Captured w' child.stderr bytes :=
  hbytes.grows h.isOpen_stderr hgrows fun _ hfd => h.stderr_ne hfd

theorem captured_stdout (h : child.Readable account w) (hgrows : account.Grows child.stderr.toList w w')
    {bytes : ByteArray} (hbytes : account.Captured w child.stdout bytes) : account.Captured w' child.stdout bytes :=
  hbytes.grows h.isOpen_stdout hgrows fun _ hfd => h.stdout_ne hfd

end Child.Readable

theorem Task.Filled.grows {task : Task κ} {child : Child} {w w' : W} {fds : List Fd}
    (h : task.Filled account w child) (hreadable : child.Readable account w) (hgrows : account.Grows fds w w')
    (hfds : ∀ fd ∈ child.descriptors, fd ∉ fds) : task.Filled account w' child where
  output := h.output.grows hreadable.isOpen_stdout hgrows fun fd hfd => hfds fd (Child.mem_descriptors.2 (.inl hfd))
  errors := h.errors.grows hreadable.isOpen_stderr hgrows fun fd hfd => hfds fd (Child.mem_descriptors.2 (.inr hfd))
  merged := h.merged

/-- Reaping a task leaves its buffers alone, and nothing is read from its pipes meanwhile. -/
theorem Task.Filled.reap {task after : Task κ} {child : Child} {w w' : W} {host : Host W} {hooks : Hooks κ W}
    {fuel : Nat} {reaped : Except Error Termination} (h : task.Filled account w child)
    (hreadable : child.Readable account w) (hpiped : account.Piped host hooks) (hprocess : task.process = some child)
    (hreap : task.reap host fuel w = .ok (reaped, after, w')) : after.Filled account w' child := by
  obtain ⟨hout, herr, hmerged⟩ :=
    h.grows hreadable (hpiped.reap_grows hprocess hreap) fun _ _ => List.not_mem_nil
  rw [Task.reap_eq hreap]
  exact ⟨hout, herr, hmerged⟩

/-- Reading both pipes of a task keeps its buffers filled, if it captures what it takes. -/
theorem Task.Filled.read {task after : Task κ} {child : Child} {w w' : W} (h : task.Filled account w child)
    (hmerged : task.separateErrors = false → child.stderr = none)
    (hseparate : after.separateErrors = task.separateErrors)
    (hout : account.Captured w child.stdout task.streams.output →
      account.Captured w' child.stdout after.streams.output)
    (herr : account.Captured w child.stderr task.streams.errors →
      account.Captured w' child.stderr after.streams.errors)
    (hsame : child.stderr = none → after.streams.errors = task.streams.errors) : after.Filled account w' child where
  output := hout h.output
  errors := herr h.errors
  merged := fun hfalse => by
    rw [hseparate] at hfalse
    exact (hsame (hmerged hfalse)).trans (h.merged hfalse)

namespace Child.Readable

variable {task after : Task κ} {child : Child} {w w' : W} {host : Host W} {hooks : Hooks κ W} {fuel : Nat}
  {s captured : Streams}

/-- Reading what is there captures what it takes. Without a fault nothing is left of what was written to standard
error; and standard output is complete if its end was reached, or nobody could write to it before. -/
theorem drainBoth (h : child.Readable account w) (hpiped : account.Piped host hooks)
    {result : Except Os.Fault Drained} (hcall : Capture.drainBoth host fuel child s w = .ok (result, captured, w')) :
    (account.Captured w child.stdout s.output → account.Captured w' child.stdout captured.output) ∧
      (account.Captured w child.stderr s.errors → account.Captured w' child.stderr captured.errors) ∧
      (child.stderr = none → captured.errors = s.errors) ∧
      ∀ drained, result = .ok drained → account.Exhausted w' child.stderr ∧
        (drained = .closed ∨ (∀ fd ∈ child.stdout, account.IsEnded w fd) →
          ∀ fd ∈ child.stdout, account.Complete w' fd) := by
  unfold Capture.drainBoth at hcall
  obtain ⟨⟨first, output, v⟩, hfirst, hcall⟩ := except_bind_ok.1 hcall
  have hfds : ∀ fd ∈ child.stdout, fd ∈ child.stdout.toList := fun fd hfd => Option.mem_toList.2 hfd
  obtain ⟨houtput, hexhausted, hclosed⟩ := hpiped.drainOpen h.isOpen_stdout hfirst
  have hgrows : account.Grows child.stdout.toList w v := (hpiped.reads_grow _).drainOpen hfds hfirst
  cases first with
  | error cause =>
    cases hcall
    exact ⟨houtput, h.captured_stderr hgrows, fun _ => rfl, by simp⟩
  | ok drained =>
    obtain ⟨⟨second, errors, v'⟩, hsecond, hcall⟩ := except_bind_ok.1 hcall
    cases hcall
    have h' := h.keeps ((hpiped.readsAlong child.stdout.toList).drainOpen hfds hfirst)
    have hgrows' : account.Grows child.stderr.toList v w' :=
      (hpiped.reads_grow _).drainOpen (fun fd hfd => Option.mem_toList.2 hfd) hsecond
    obtain ⟨herrors, hexhausted', -⟩ := hpiped.drainOpen h'.isOpen_stderr hsecond
    refine ⟨fun hout => h'.captured_stdout hgrows' (houtput hout), fun herr => herrors (h.captured_stderr hgrows herr),
      fun hnone => ?_, fun drained' hok => ?_⟩
    · rw [hnone] at hsecond
      cases hsecond
      rfl
    · obtain ⟨_, hsecond', hdrained⟩ : ∃ d, second = .ok d ∧ drained = drained' := by
        cases second with
        | error cause => cases hok
        | ok d => cases hok; exact ⟨d, rfl, rfl⟩
      -- While standard error is read nobody writes to a standard output that has ended.
      refine ⟨hexhausted' _ hsecond', fun hend fd hfd => ?_⟩
      refine Account.Complete.grows ?_ hgrows' (h'.stdout_ne hfd)
      rcases hend with rfl | hended
      · exact hclosed (by rw [hdrained]) fd hfd
      · obtain ⟨p, hp, hwriters⟩ : account.IsEnded v fd :=
          (hpiped.reads_isEnded fd _).drainOpen hfds hfirst (hended fd hfd)
        exact ⟨p, hp, hwriters, hexhausted drained rfl fd hfd p hp⟩

/-- Reading to the end captures what it takes, and without a fault that is all that was ever written. -/
theorem readBoth (h : child.Readable account w) (hpiped : account.Piped host hooks)
    {result : Except Os.Fault Unit} (hcall : Capture.readBoth host fuel child s w = .ok (result, captured, w')) :
    (account.Captured w child.stdout s.output → account.Captured w' child.stdout captured.output) ∧
      (account.Captured w child.stderr s.errors → account.Captured w' child.stderr captured.errors) ∧
      (child.stderr = none → captured.errors = s.errors) ∧
      (result = .ok () → ∀ fd ∈ child.descriptors, account.Complete w' fd) := by
  unfold Capture.readBoth at hcall
  obtain ⟨⟨first, output, v⟩, hfirst, hcall⟩ := except_bind_ok.1 hcall
  have hfds : ∀ fd ∈ child.stdout, fd ∈ child.stdout.toList := fun fd hfd => Option.mem_toList.2 hfd
  obtain ⟨houtput, hcomplete⟩ := hpiped.readOpen h.isOpen_stdout hfirst
  have hgrows : account.Grows child.stdout.toList w v := (hpiped.reads_grow _).readOpen hfds hfirst
  cases first with
  | error cause =>
    cases hcall
    exact ⟨houtput, h.captured_stderr hgrows, fun _ => rfl, by simp⟩
  | ok _ =>
    obtain ⟨⟨second, errors, v'⟩, hsecond, hcall⟩ := except_bind_ok.1 hcall
    cases hcall
    have h' := h.keeps ((hpiped.readsAlong child.stdout.toList).readOpen hfds hfirst)
    have hgrows' : account.Grows child.stderr.toList v w' :=
      (hpiped.reads_grow _).readOpen (fun fd hfd => Option.mem_toList.2 hfd) hsecond
    obtain ⟨herrors, hcomplete'⟩ := hpiped.readOpen h'.isOpen_stderr hsecond
    refine ⟨fun hout => h'.captured_stdout hgrows' (houtput hout), fun herr => herrors (h.captured_stderr hgrows herr),
      fun hnone => ?_, fun hok fd hfd => ?_⟩
    · rw [hnone] at hsecond
      cases hsecond
      rfl
    · rcases Child.mem_descriptors.1 hfd with hfd | hfd
      · exact (hcomplete rfl fd hfd).grows hgrows' (h'.stdout_ne hfd)
      · exact hcomplete' hok fd hfd

theorem readAvailable (h : child.Readable account w) (hpiped : account.Piped host hooks)
    (hprocess : task.process = some child) {result : Except Error Bool}
    (hcall : task.readAvailable host fuel w = .ok (result, after, w')) :
    ((task.separateErrors = false → child.stderr = none) → task.Filled account w child →
        after.Filled account w' child) ∧
      ∀ ended, result = .ok ended → account.Exhausted w' child.stderr ∧
        (ended = true ∨ (∀ fd ∈ child.stdout, account.IsEnded w fd) →
          ∀ fd ∈ child.stdout, account.Complete w' fd) := by
  unfold Task.readAvailable at hcall
  simp only [hprocess] at hcall
  obtain ⟨⟨drained, streams, v⟩, hdrain, hcall⟩ := except_bind_ok.1 hcall
  obtain ⟨hout, herr, hsame, hend⟩ := h.drainBoth hpiped hdrain
  cases drained with
  | error cause =>
    cases hcall
    exact ⟨fun hmerged hfilled => hfilled.read hmerged rfl hout herr hsame, by simp⟩
  | ok drained =>
    cases hcall
    refine ⟨fun hmerged hfilled => hfilled.read hmerged rfl hout herr hsame, fun ended hok => ?_⟩
    obtain rfl : (drained == .closed) = ended := Except.ok.inj hok
    obtain ⟨hexhausted, hcomplete⟩ := hend drained rfl
    exact ⟨hexhausted, fun hended => hcomplete (hended.imp_left beq_iff_eq.1)⟩

theorem readToClose (h : child.Readable account w) (hpiped : account.Piped host hooks)
    (hprocess : task.process = some child) {result : Except Error Unit}
    (hcall : task.readToClose host fuel w = .ok (result, after, w')) :
    ((task.separateErrors = false → child.stderr = none) → task.Filled account w child →
        after.Filled account w' child) ∧
      (result = .ok () → ∀ fd ∈ child.descriptors, account.Complete w' fd) := by
  unfold Task.readToClose at hcall
  simp only [hprocess] at hcall
  obtain ⟨⟨drained, streams, v⟩, hread, hcall⟩ := except_bind_ok.1 hcall
  obtain ⟨hout, herr, hsame, hend⟩ := h.readBoth hpiped hread
  cases drained with
  | error cause =>
    cases hcall
    exact ⟨fun hmerged hfilled => hfilled.read hmerged rfl hout herr hsame, by simp⟩
  | ok _ =>
    cases hcall
    exact ⟨fun hmerged hfilled => hfilled.read hmerged rfl hout herr hsame, fun _ => hend rfl⟩

/-- Finishing reads what is there once more and then closes the pipes. What it captures is what was taken by then;
without a fault nothing is left of what was written to standard error, and standard output is complete if nobody
could write to it before. -/
theorem finishExecution (h : child.Readable account w) (hpiped : account.Piped host hooks)
    (hprocess : task.process = some child) {result : Except Error Unit}
    (hcall : task.finishExecution host fuel w = .ok (result, after, w')) :
    ∃ ended drained u, task.readAvailable host fuel w = .ok (ended, drained, u) ∧
      w' = (closePipes host child u).2 ∧
      ((task.separateErrors = false → child.stderr = none) → task.Filled account w child →
        after.Filled account u child) ∧
      (result = .ok () → account.Exhausted u child.stderr ∧
        ((∀ fd ∈ child.stdout, account.IsEnded w fd) → ∀ fd ∈ child.stdout, account.Complete u fd)) := by
  obtain ⟨ended, drained, u, hread, hresult, hworld, hafter⟩ := Task.finishExecution_eq hprocess hcall
  obtain ⟨hfilled, hend⟩ := h.readAvailable hpiped hprocess hread
  refine ⟨ended, drained, u, hread, hworld, fun hmerged hbefore => ?_, fun hok => ?_⟩
  · obtain ⟨hout, herr, hempty⟩ := hfilled hmerged hbefore
    rw [hafter]
    exact ⟨hout, herr, hempty⟩
  · obtain ⟨_, rfl⟩ : ∃ isEnd, ended = .ok isEnd := by
      cases ended with
      | error error => rw [hresult] at hok; cases hok
      | ok isEnd => exact ⟨isEnd, rfl⟩
    obtain ⟨hexhausted, hcomplete⟩ := hend _ rfl
    exact ⟨hexhausted, fun hended => hcomplete (.inr hended)⟩

end Child.Readable

end BatchRunner
