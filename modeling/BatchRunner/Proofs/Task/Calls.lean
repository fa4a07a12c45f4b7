import BatchRunner.Task.Lifecycle

/-!
# What the calls of a task keep

What was asked for when a task was queued (`Task.request`) is never changed by a call on it; neither do
reading and finishing change what is known of the end of its process. A call that ends with an answer is
opened one bind at a time (`except_bind_ok`).
-/

namespace BatchRunner

/-- A sequence of calls gives an answer exactly if each of them does. -/
theorem except_bind_ok {ε α β : Type} {x : Except ε α} {f : α → Except ε β} {b : β} :
    (x >>= f) = .ok b ↔ ∃ a, x = .ok a ∧ f a = .ok b := by
  cases x with
  | error e => simp [bind, Except.bind]
  | ok a => simp [bind, Except.bind]

/-- A sequence of calls is interrupted in one of them. -/
theorem except_bind_error {ε α β : Type} {x : Except ε α} {f : α → Except ε β} {e : ε} :
    (x >>= f) = .error e ↔ x = .error e ∨ ∃ a, x = .ok a ∧ f a = .error e := by
  cases x with
  | error e => simp [bind, Except.bind]
  | ok a => simp [bind, Except.bind]

/-- Why a call gives no answer, if it gives none. -/
def haltOf? {α : Type} : Except Halt α → Option Halt
  | .ok _ => none
  | .error halt => some halt

theorem haltOf?_eq_some {α : Type} {call : Except Halt α} {halt : Halt} :
    haltOf? call = some halt ↔ call = .error halt := by
  cases call <;> simp [haltOf?]

/-- What was asked for when a task was queued. -/
structure TaskRequest (κ : Type) where
  id : TaskId
  spec : TaskSpec
  context : κ
  separateErrors : Bool

namespace Task

variable {κ W : Type} {task after : Task κ} {host : Host W} {source : EnvironmentSource} {fuel : Nat}
  {w w' : W}

/-- What was asked for when a task was queued. -/
def request (task : Task κ) : TaskRequest κ := ⟨task.id, task.spec, task.context, task.separateErrors⟩

/-- A task as it is queued. -/
def queued (id : TaskId) (spec : TaskSpec) (context : κ) (separateByDefault : Bool) (now : Nat) : Task κ where
  id := id
  spec := spec
  context := context
  separateErrors := spec.separateErrors.getD separateByDefault
  state := .preparing
  pid := none
  process := none
  streams := ⟨.empty, .empty⟩
  termination := none
  usage := none
  createdAt := now
  startedAt := none
  completedAt := none

/-- A task is made as it was asked for, exactly if the variables that it was asked for with are sound. -/
theorem create_eq_ok_iff {id : TaskId} {spec : TaskSpec} {context : κ} {separateByDefault : Bool} {now : Nat} :
    create id spec context separateByDefault now = .ok task ↔
      Environment.validate spec.env = .ok () ∧ task = queued id spec context separateByDefault now := by
  unfold create
  rw [except_bind_ok]
  constructor
  · rintro ⟨⟨⟩, hvalid, htask⟩
    cases htask
    exact ⟨hvalid, rfl⟩
  · rintro ⟨hvalid, rfl⟩
    exact ⟨(), hvalid, rfl⟩

theorem id_eq_of_request_eq {a b : Task κ} (h : a.request = b.request) : a.id = b.id :=
  congrArg TaskRequest.id h

theorem spec_eq_of_request_eq {a b : Task κ} (h : a.request = b.request) : a.spec = b.spec :=
  congrArg TaskRequest.spec h

theorem execute_request {result : Except Error Unit}
    (h : task.execute host source w = .ok (result, after, w')) : after.request = task.request := by
  unfold execute at h
  obtain ⟨-, -, h⟩ := except_bind_ok.1 h
  split at h
  · cases h; rfl
  · split at h <;> cases h <;> rfl

theorem readAvailable_keeps {result : Except Error Bool}
    (h : task.readAvailable host fuel w = .ok (result, after, w')) :
    after.request = task.request ∧ after.termination = task.termination := by
  unfold readAvailable at h
  split at h
  · cases h; exact ⟨rfl, rfl⟩
  · obtain ⟨⟨drained, streams, v⟩, -, h⟩ := except_bind_ok.1 h
    cases drained <;> cases h <;> exact ⟨rfl, rfl⟩

theorem readToClose_request {result : Except Error Unit}
    (h : task.readToClose host fuel w = .ok (result, after, w')) : after.request = task.request := by
  unfold readToClose at h
  split at h
  · cases h; rfl
  · obtain ⟨⟨drained, streams, v⟩, -, h⟩ := except_bind_ok.1 h
    cases drained <;> cases h <;> rfl

/-- Finishing a task keeps what was asked for, and what is known of its end. -/
theorem finishExecution_keeps {result : Except Error Unit}
    (h : task.finishExecution host fuel w = .ok (result, after, w')) :
    after.request = task.request ∧ after.termination = task.termination := by
  unfold finishExecution at h
  split at h
  · cases h
  · obtain ⟨⟨drained, task₁, w₁⟩, hread, h⟩ := except_bind_ok.1 h
    obtain ⟨hrequest, htermination⟩ := readAvailable_keeps hread
    cases h
    exact ⟨hrequest, htermination⟩

theorem finishIfRunning_keeps {result : Except Error Unit}
    (h : task.finishIfRunning host fuel w = .ok (result, after, w')) :
    after.request = task.request ∧ after.termination = task.termination := by
  unfold finishIfRunning at h
  split at h
  · exact finishExecution_keeps h
  · cases h; exact ⟨rfl, rfl⟩

theorem reap_request {result : Except Error Termination}
    (h : task.reap host fuel w = .ok (result, after, w')) : after.request = task.request := by
  unfold reap at h
  split at h
  · cases h
  · split at h
    · cases h
    · obtain ⟨⟨found, v⟩, -, h⟩ := except_bind_ok.1 h
      cases found <;> cases h <;> rfl

/-- A task whose process was reaped knows how it ended. -/
theorem reap_termination {termination : Termination}
    (h : task.reap host fuel w = .ok (.ok termination, after, w')) :
    after.termination = some termination := by
  unfold reap at h
  split at h
  · cases h
  · split at h
    · cases h
    · obtain ⟨⟨found, v⟩, -, h⟩ := except_bind_ok.1 h
      cases found <;> cases h
      rfl

end Task

end BatchRunner
