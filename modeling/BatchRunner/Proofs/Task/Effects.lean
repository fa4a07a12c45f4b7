import BatchRunner.Proofs.Host.Account
import BatchRunner.Proofs.Task.Calls
import BatchRunner.Readiness

/-!
# What the calls of a task change

Reading changes only what a task has captured (`readAvailable_eq`, `readToClose_eq`), finishing closes its
pipes besides (`finishExecution_eq`), and reaping adds what was learnt (`reap_eq`). In the world they change
only what their calls on the host change: a relation between worlds that each of these calls keeps to, and
that can be followed from call to call (`Host.ReadsAlong`), is kept to by the whole.
-/

namespace BatchRunner

open Capture

variable {κ W : Type}

/-! ## The task -/

namespace Task

variable {task after : Task κ} {host : Host W} {source : EnvironmentSource} {fuel : Nat} {w w' : W}

/-- A task that was started executes the process that the host gave. -/
theorem execute_ok (h : task.execute host source w = .ok (.ok (), after, w')) :
    ∃ vars child, host.spawn ⟨task.spec.program, task.spec.args, vars, task.separateErrors⟩ w = (.ok child, w') ∧
      after = { task with
        pid := some child.pid
        process := some child
        state := .executing
        startedAt := after.startedAt } := by
  unfold execute at h
  obtain ⟨-, -, h⟩ := except_bind_ok.1 h
  split at h
  · cases h
  · next vars hvars =>
    split at h
    · next child v hspawn =>
      cases h
      exact ⟨vars, child, hspawn, rfl⟩
    · cases h

/-- A task that could not be started leaves the world as it was, or as the host left it when it failed. -/
theorem execute_error {error : Error} (h : task.execute host source w = .ok (.error error, after, w')) :
    w' = w ∨ ∃ launch cause, host.spawn launch w = (.error cause, w') := by
  unfold execute at h
  obtain ⟨-, -, h⟩ := except_bind_ok.1 h
  split at h
  · cases h
    exact .inl rfl
  · split at h
    · cases h
    · next cause v hspawn =>
      cases h
      exact .inr ⟨_, cause, hspawn⟩

theorem readAvailable_eq {result : Except Error Bool}
    (h : task.readAvailable host fuel w = .ok (result, after, w')) :
    after = { task with streams := after.streams } := by
  unfold readAvailable at h
  split at h
  · cases h; rfl
  · obtain ⟨⟨drained, streams, v⟩, -, h⟩ := except_bind_ok.1 h
    cases drained <;> cases h <;> rfl

theorem readToClose_eq {result : Except Error Unit}
    (h : task.readToClose host fuel w = .ok (result, after, w')) :
    after = { task with streams := after.streams } := by
  unfold readToClose at h
  split at h
  · cases h; rfl
  · obtain ⟨⟨drained, streams, v⟩, -, h⟩ := except_bind_ok.1 h
    cases drained <;> cases h <;> rfl

/-- Finishing reads what is left, closes the pipes, and leaves the task finished. -/
theorem finishExecution_eq {child : Child} {result : Except Error Unit} (hprocess : task.process = some child)
    (h : task.finishExecution host fuel w = .ok (result, after, w')) :
    ∃ ended drained v, task.readAvailable host fuel w = .ok (ended, drained, v) ∧
      result = ended.map (fun _ => ()) ∧ w' = (closePipes host child v).2 ∧
      after = { drained with
        process := some { child with stdout := none, stderr := none }
        state := .finished
        completedAt := after.completedAt } := by
  unfold finishExecution at h
  split at h
  · cases h
  · obtain ⟨⟨ended, drained, v⟩, hread, h⟩ := except_bind_ok.1 h
    have hsame : drained.process = some child := by rw [readAvailable_eq hread, hprocess]
    simp only [hsame] at h
    cases h
    exact ⟨ended, drained, v, hread, rfl, rfl, rfl⟩

/-- Finishing leaves a task the number of its process. -/
theorem finishExecution_pid {result : Except Error Unit}
    (h : task.finishExecution host fuel w = .ok (result, after, w')) : after.pid = task.pid := by
  unfold finishExecution at h
  split at h
  · cases h
  · obtain ⟨⟨ended, drained, v⟩, hread, h⟩ := except_bind_ok.1 h
    have hpid : drained.pid = task.pid := by rw [readAvailable_eq hread]
    cases h
    exact hpid

theorem reap_eq {result : Except Error Termination}
    (h : task.reap host fuel w = .ok (result, after, w')) :
    after = { task with usage := after.usage, termination := after.termination } := by
  unfold reap at h
  split at h
  · cases h
  · split at h
    · cases h
    · obtain ⟨⟨found, v⟩, -, h⟩ := except_bind_ok.1 h
      cases found <;> cases h <;> rfl

/-- Reaping waits for the process of the task, and for nothing else. -/
theorem reap_awaitEnd {child : Child} {result : Except Error Termination}
    (hprocess : task.process = some child) (h : task.reap host fuel w = .ok (result, after, w')) :
    ∃ found, awaitEnd host child.pid fuel w = .ok (found, w') ∧ (result.isOk = true → ∃ end', found = .ok end') := by
  unfold reap at h
  split at h
  · cases h
  · simp only [hprocess] at h
    obtain ⟨⟨found, v⟩, hwait, h⟩ := except_bind_ok.1 h
    cases found with
    | error cause =>
      cases h
      exact ⟨_, hwait, nofun⟩
    | ok end' =>
      cases h
      exact ⟨_, hwait, fun _ => ⟨end', rfl⟩⟩

end Task

/-! ## The world -/

theorem Capture.chunkSize_pos : 0 < chunkSize := by decide

/-- A relation between worlds that can be followed from call to call, and that reading from the given
descriptors keeps to. -/
structure Host.ReadsAlong (host : Host W) (R : W → W → Prop) (fds : List Fd) : Prop where
  refl : ∀ w, R w w
  trans : ∀ {w w' w''}, R w w' → R w' w'' → R w w''
  read : ∀ fd ∈ fds, ∀ w, R w (host.read fd chunkSize w).2
  setBlocking : ∀ fd ∈ fds, ∀ w, R w (host.setBlocking fd w).2

namespace Host.ReadsAlong

variable {host : Host W} {R : W → W → Prop} {fds : List Fd} {fd : Fd} {fuel : Nat} {bytes : ByteArray}
  {w w' : W}

theorem drain (h : host.ReadsAlong R fds) (hfd : fd ∈ fds) {result : Except Os.Fault Drained}
    {captured : ByteArray} (hcall : Capture.drain host fd fuel bytes w = .ok (result, captured, w')) :
    R w w' := by
  induction fuel generalizing bytes w with
  | zero => cases hcall
  | succ fuel ih =>
    have hread := h.read fd hfd w
    rw [Capture.drain] at hcall
    rcases hreply : host.read fd chunkSize w with ⟨reply, v⟩
    rw [hreply] at hcall hread
    cases reply with
    | never => cases hcall
    | answer chunk =>
      dsimp only at hcall
      split at hcall
      · cases hcall; exact hread
      · exact h.trans hread (ih hcall)
    | fault cause =>
      dsimp only at hcall
      split at hcall
      · exact h.trans hread (ih hcall)
      · split at hcall <;> cases hcall <;> exact hread

theorem readToEnd (h : host.ReadsAlong R fds) (hfd : fd ∈ fds) {result : Except Os.Fault Unit}
    {captured : ByteArray} (hcall : Capture.readToEnd host fd fuel bytes w = .ok (result, captured, w')) :
    R w w' := by
  induction fuel generalizing bytes w with
  | zero => cases hcall
  | succ fuel ih =>
    have hread := h.read fd hfd w
    rw [Capture.readToEnd] at hcall
    rcases hreply : host.read fd chunkSize w with ⟨reply, v⟩
    rw [hreply] at hcall hread
    cases reply with
    | never => cases hcall
    | answer chunk =>
      dsimp only at hcall
      split at hcall
      · cases hcall; exact hread
      · exact h.trans hread (ih hcall)
    | fault cause =>
      dsimp only at hcall
      split at hcall
      · exact h.trans hread (ih hcall)
      · cases hcall; exact hread

variable {pipe : Option Fd} {child : Child} {streams captured : Streams}

theorem drainOpen (h : host.ReadsAlong R fds) (hfd : ∀ fd ∈ pipe, fd ∈ fds) {result : Except Os.Fault Drained}
    {captured : ByteArray} (hcall : Capture.drainOpen host pipe fuel bytes w = .ok (result, captured, w')) :
    R w w' := by
  cases pipe with
  | none => cases hcall; exact h.refl w
  | some fd => exact h.drain (hfd fd rfl) hcall

theorem readOpen (h : host.ReadsAlong R fds) (hfd : ∀ fd ∈ pipe, fd ∈ fds) {result : Except Os.Fault Unit}
    {captured : ByteArray} (hcall : Capture.readOpen host pipe fuel bytes w = .ok (result, captured, w')) :
    R w w' := by
  cases pipe with
  | none => cases hcall; exact h.refl w
  | some fd =>
    have hset := h.setBlocking fd (hfd fd rfl) w
    rw [Capture.readOpen, Capture.readBlocking] at hcall
    rcases hreply : host.setBlocking fd w with ⟨_ | _, v⟩
    · rw [hreply] at hcall hset
      cases hcall
      exact hset
    · rw [hreply] at hcall hset
      exact h.trans hset (h.readToEnd (hfd fd rfl) hcall)

theorem drainBoth (h : host.ReadsAlong R child.descriptors) {result : Except Os.Fault Drained}
    (hcall : Capture.drainBoth host fuel child streams w = .ok (result, captured, w')) : R w w' := by
  unfold Capture.drainBoth at hcall
  obtain ⟨⟨first, output, v⟩, hfirst, hcall⟩ := except_bind_ok.1 hcall
  have hout := h.drainOpen (fun fd hfd => by simp_all [Child.descriptors]) hfirst
  cases first with
  | error cause => cases hcall; exact hout
  | ok drained =>
    obtain ⟨⟨second, errors, v'⟩, hsecond, hcall⟩ := except_bind_ok.1 hcall
    cases hcall
    exact h.trans hout (h.drainOpen (fun fd hfd => by simp_all [Child.descriptors]) hsecond)

theorem readBoth (h : host.ReadsAlong R child.descriptors) {result : Except Os.Fault Unit}
    (hcall : Capture.readBoth host fuel child streams w = .ok (result, captured, w')) : R w w' := by
  unfold Capture.readBoth at hcall
  obtain ⟨⟨first, output, v⟩, hfirst, hcall⟩ := except_bind_ok.1 hcall
  have hout := h.readOpen (fun fd hfd => by simp_all [Child.descriptors]) hfirst
  cases first with
  | error cause => cases hcall; exact hout
  | ok drained =>
    obtain ⟨⟨second, errors, v'⟩, hsecond, hcall⟩ := except_bind_ok.1 hcall
    cases hcall
    exact h.trans hout (h.readOpen (fun fd hfd => by simp_all [Child.descriptors]) hsecond)

variable {task after : Task κ}

theorem readAvailable (hprocess : task.process = some child) (h : host.ReadsAlong R child.descriptors)
    {result : Except Error Bool} (hcall : task.readAvailable host fuel w = .ok (result, after, w')) :
    R w w' := by
  unfold Task.readAvailable at hcall
  simp only [hprocess] at hcall
  obtain ⟨⟨drained, streams, v⟩, hdrain, hcall⟩ := except_bind_ok.1 hcall
  cases drained <;> cases hcall <;> exact h.drainBoth hdrain

theorem readToClose (hprocess : task.process = some child) (h : host.ReadsAlong R child.descriptors)
    {result : Except Error Unit} (hcall : task.readToClose host fuel w = .ok (result, after, w')) :
    R w w' := by
  unfold Task.readToClose at hcall
  simp only [hprocess] at hcall
  obtain ⟨⟨drained, streams, v⟩, hread, hcall⟩ := except_bind_ok.1 hcall
  cases drained <;> cases hcall <;> exact h.readBoth hread

end Host.ReadsAlong

/-- A relation that closing the given descriptors keeps to as well. -/
structure Host.FinishesAlong (host : Host W) (R : W → W → Prop) (fds : List Fd) : Prop
    extends host.ReadsAlong R fds where
  close : ∀ fd ∈ fds, ∀ w, R w (host.close fd w)

namespace Host.FinishesAlong

variable {host : Host W} {R : W → W → Prop} {child : Child} {task after : Task κ} {fuel : Nat} {w w' : W}

theorem closePipes (h : host.FinishesAlong R child.descriptors) (w : W) : R w (Capture.closePipes host child w).2 := by
  obtain ⟨pid, stdout, stderr⟩ := child
  cases stdout with
  | none =>
    cases stderr with
    | none => exact h.refl w
    | some err => exact h.close err (by simp [Child.descriptors]) w
  | some out =>
    have hout := h.close out (by simp [Child.descriptors]) w
    cases stderr with
    | none => exact hout
    | some err => exact h.trans hout (h.close err (by simp [Child.descriptors]) _)

theorem finishExecution (h : host.FinishesAlong R child.descriptors) (hprocess : task.process = some child)
    {result : Except Error Unit} (hcall : task.finishExecution host fuel w = .ok (result, after, w')) : R w w' := by
  obtain ⟨ended, drained, v, hread, -, rfl, -⟩ := Task.finishExecution_eq hprocess hcall
  exact h.trans (h.readAvailable hprocess hread) (h.closePipes v)

theorem finishIfRunning (h : host.FinishesAlong R child.descriptors) (hprocess : task.process = some child)
    {result : Except Error Unit} (hcall : task.finishIfRunning host fuel w = .ok (result, after, w')) : R w w' := by
  unfold Task.finishIfRunning at hcall
  split at hcall
  · exact h.finishExecution hprocess hcall
  · cases hcall
    exact h.refl w

end Host.FinishesAlong

theorem Capture.awaitEnd_along {host : Host W} {R : W → W → Prop} {pid : Pid} {fuel : Nat} {w w' : W}
    (htrans : ∀ {w w' w''}, R w w' → R w' w'' → R w w'') (hwait : ∀ w, R w (host.wait pid w).2)
    {found : Except Os.Fault (WaitStatus × ResourceUsage)}
    (hcall : awaitEnd host pid fuel w = .ok (found, w')) : R w w' := by
  induction fuel generalizing w with
  | zero => cases hcall
  | succ fuel ih =>
    have hreply' := hwait w
    rw [awaitEnd] at hcall
    rcases hreply : host.wait pid w with ⟨reply, v⟩
    rw [hreply] at hcall hreply'
    cases reply with
    | never => cases hcall
    | answer end' => cases hcall; exact hreply'
    | fault cause =>
      dsimp only at hcall
      split at hcall
      · exact htrans hreply' (ih hcall)
      · cases hcall; exact hreply'

/-- The reply that a call gives which came to a result. -/
def Reply.ofResult {α : Type} : Except Os.Fault α → Reply α
  | .ok a => .answer a
  | .error cause => .fault cause

/-- What comes of waiting for the end of a process is what the last wait for it told. -/
theorem Capture.awaitEnd_reply {host : Host W} {pid : Pid} {fuel : Nat} {w w' : W}
    {found : Except Os.Fault (WaitStatus × ResourceUsage)} (hcall : awaitEnd host pid fuel w = .ok (found, w')) :
    ∃ v, host.wait pid v = (.ofResult found, w') := by
  induction fuel generalizing w with
  | zero => cases hcall
  | succ fuel ih =>
    rw [awaitEnd] at hcall
    split at hcall
    · cases hcall
    · next found v hwait =>
      cases hcall
      exact ⟨w, hwait⟩
    · next cause v hwait =>
      split at hcall
      · exact ih hcall
      · cases hcall
        exact ⟨w, hwait⟩

theorem Task.reap_along {host : Host W} {R : W → W → Prop} {task after : Task κ} {child : Child} {fuel : Nat}
    {w w' : W} (htrans : ∀ {w w' w''}, R w w' → R w' w'' → R w w'') (hwait : ∀ w, R w (host.wait child.pid w).2)
    (hprocess : task.process = some child) {result : Except Error Termination}
    (hcall : task.reap host fuel w = .ok (result, after, w')) : R w w' := by
  obtain ⟨found, hawait, -⟩ := reap_awaitEnd hprocess hcall
  exact awaitEnd_along htrans hwait hawait

theorem ReadinessSet.wait_along {host : Host W} {R : W → W → Prop} {set : ReadinessSet} {fuel : Nat} {w w' : W}
    (hrefl : ∀ w, R w w) (htrans : ∀ {w w' w''}, R w w' → R w' w'' → R w w'')
    (hpoll : ∀ w, R w (host.poll set.descriptors w).2) {result : Except Os.Fault (List ReadyEvent)}
    (hcall : set.wait host fuel w = .ok (result, w')) : R w w' := by
  induction fuel generalizing w with
  | zero => cases hcall
  | succ fuel ih =>
    have hreply' := hpoll w
    rw [ReadinessSet.wait] at hcall
    split at hcall
    · cases hcall; exact hrefl _
    · rcases hreply : host.poll set.descriptors w with ⟨reply, v⟩
      rw [hreply] at hcall hreply'
      cases reply with
      | never => cases hcall
      | answer conditions => cases hcall; exact hreply'
      | fault cause =>
        dsimp only at hcall
        split at hcall
        · exact htrans hreply' (ih hcall)
        · cases hcall; exact hreply'

/-! ## What stays open -/

namespace Account.Orderly

variable {account : Account W} {host : Host W} {hooks : Hooks κ W} {task after : Task κ} {child : Child}
  {fuel : Nat} {w w' : W} {fds : List Fd} {pids : List Pid}

theorem readsAlong (h : account.Orderly host hooks) (fds : List Fd) :
    host.ReadsAlong (account.Keeps [] []) fds where
  refl := .refl [] []
  trans := .trans
  read := fun fd _ w => h.read fd chunkSize w
  setBlocking := fun fd _ w => h.setBlocking fd w

theorem finishesAlong (h : account.Orderly host hooks) (fds : List Fd) (pids : List Pid) :
    host.FinishesAlong (account.Keeps fds pids) fds where
  refl := .refl fds pids
  trans := .trans
  read := fun fd _ w => (h.read fd chunkSize w).mono (List.nil_subset _) (List.nil_subset _)
  setBlocking := fun fd _ w => (h.setBlocking fd w).mono (List.nil_subset _) (List.nil_subset _)
  close := fun fd hfd w => (h.close fd w).mono (by simpa using hfd) (List.nil_subset _)

theorem wait_keeps (h : account.Orderly host hooks) {set : ReadinessSet}
    {result : Except Os.Fault (List ReadyEvent)} (hcall : set.wait host fuel w = .ok (result, w')) :
    account.Keeps [] [] w w' :=
  ReadinessSet.wait_along (.refl [] []) .trans (fun w => h.poll set.descriptors w) hcall

theorem reap_keeps (h : account.Orderly host hooks) (hprocess : task.process = some child)
    {result : Except Error Termination} (hcall : task.reap host fuel w = .ok (result, after, w')) :
    account.Keeps [] [child.pid] w w' :=
  Task.reap_along .trans (h.wait child.pid) hprocess hcall

/-- Reaping and finishing a task touch only what it holds. -/
theorem end_keeps (h : account.Orderly host hooks) (hprocess : task.process = some child) {between : Task κ}
    {v : W} {reaped : Except Error Termination} {drained : Except Error Unit}
    (hreap : task.reap host fuel w = .ok (reaped, between, v))
    (hclose : between.finishIfRunning host fuel v = .ok (drained, after, w')) :
    account.Keeps child.descriptors [child.pid] w w' := by
  have hsame : between.process = some child := by rw [Task.reap_eq hreap, hprocess]
  have hreaped := (h.reap_keeps hprocess hreap).mono (List.nil_subset child.descriptors) (List.Subset.refl _)
  exact hreaped.trans ((h.finishesAlong _ _).finishIfRunning hsame hclose)

end Account.Orderly

namespace Account.Piped

variable {account : Account W} {host : Host W} {hooks : Hooks κ W} {task after : Task κ} {child : Child}
  {fuel : Nat} {w w' : W} {fds : List Fd}

theorem reads_grow (h : account.Piped host hooks) (fds : List Fd) : host.ReadsAlong (account.Grows fds) fds where
  refl := .refl fds
  trans := .trans
  read := fun fd hfd w => (h.read_grows fd chunkSize w).mono (by simpa using hfd)
  setBlocking := fun fd _ w => (h.setBlocking_grows fd w).mono (List.nil_subset _)

theorem finishes_grow (h : account.Piped host hooks) (fds : List Fd) :
    host.FinishesAlong (account.Grows fds) fds where
  toReadsAlong := h.reads_grow fds
  close := fun fd hfd w => (h.close_grows fd w).mono (by simpa using hfd)

theorem reads_isEnded (h : account.Piped host hooks) (fd : Fd) (fds : List Fd) :
    host.ReadsAlong (fun w w' => account.IsEnded w fd → account.IsEnded w' fd) fds where
  refl := fun _ hended => hended
  trans := fun h h' hended => h' (h hended)
  read := fun fd' _ w => h.read_isEnded fd' chunkSize_pos w
  setBlocking := fun fd' _ w => (h.setBlocking_grows fd' w).isEnded List.not_mem_nil

/-- Nothing that was written to a pipe is ever lost by reading. -/
theorem reads_extend (h : account.Piped host hooks) (fds : List Fd) : host.ReadsAlong account.Extends fds where
  refl := .refl
  trans := .trans
  read := fun fd _ w => h.read_extends fd chunkSize_pos w
  setBlocking := fun fd _ w => (h.setBlocking_grows fd w).extends_of_nil

theorem wait_for_output_grows (h : account.Piped host hooks) {set : ReadinessSet}
    {result : Except Os.Fault (List ReadyEvent)} (hcall : set.wait host fuel w = .ok (result, w')) :
    account.Grows [] w w' :=
  ReadinessSet.wait_along (.refl []) .trans (fun w => h.poll_grows set.descriptors w) hcall

theorem reap_grows (h : account.Piped host hooks) (hprocess : task.process = some child)
    {result : Except Error Termination} (hcall : task.reap host fuel w = .ok (result, after, w')) :
    account.Grows [] w w' :=
  Task.reap_along .trans (h.wait_grows child.pid) hprocess hcall

/-- A process whose end was learnt can write to no pipe. -/
theorem reap_ended (h : account.Piped host hooks) (hprocess : task.process = some child)
    {termination : Termination} (hcall : task.reap host fuel w = .ok (.ok termination, after, w')) {fd : Fd}
    {p : Pipe} (hp : account.pipe? w' fd = some p) : child.pid ∉ p.writers := by
  obtain ⟨found, hawait, hfound⟩ := Task.reap_awaitEnd hprocess hcall
  obtain ⟨end', rfl⟩ := hfound rfl
  obtain ⟨v, hwait⟩ := Capture.awaitEnd_reply hawait
  exact h.wait_ended hwait hp

/-- Reaping and finishing a task read from no pipes but its own. -/
theorem end_grows (h : account.Piped host hooks) (hprocess : task.process = some child) {between : Task κ}
    {v : W} {reaped : Except Error Termination} {drained : Except Error Unit}
    (hreap : task.reap host fuel w = .ok (reaped, between, v))
    (hclose : between.finishIfRunning host fuel v = .ok (drained, after, w')) :
    account.Grows child.descriptors w w' := by
  have hsame : between.process = some child := by rw [Task.reap_eq hreap, hprocess]
  have hreaped := (h.reap_grows hprocess hreap).mono (List.nil_subset child.descriptors)
  exact hreaped.trans ((h.finishes_grow _).finishIfRunning hsame hclose)

end Account.Piped

end BatchRunner
