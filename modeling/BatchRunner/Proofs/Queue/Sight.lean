import BatchRunner.Proofs.Queue.Within

/-!
# What hooks see

A hook is handed a whole task. What it can see besides numbers, identifiers, times and resources is the sight of the
task (`Task.sight`); hooks that look at nothing else are blind to the rest (`Hooks.Blind`). Hooks keep a memory of
their own beside the world (`Hooks.beside`), and the calls made on them can be noted there together with the tasks
that they were handed (`Hooks.noting`). Two runs that hand such hooks tasks of the same sight, one after the other,
are told the same verdicts and leave the same memory (`Hooks.Blind.noting_follows`).
-/

namespace BatchRunner

/-- What there is to see of a task besides numbers, identifiers, times and resources. -/
structure Sight (κ : Type) where
  spec : TaskSpec
  context : κ
  separateErrors : Bool
  state : TaskState
  output : ByteArray
  errors : Option ByteArray
  termination : Option Termination

/-- What there is to see of a task besides numbers, identifiers, times and resources. -/
def Task.sight {κ : Type} (task : Task κ) : Sight κ :=
  ⟨task.spec, task.context, task.separateErrors, task.state, task.output, task.errors?, task.termination⟩

/-- Which hook is called, with what it is told besides the task. -/
inductive HookKind where
  | began
  | finished (code : Int)
  | signalled (signal : Signal)
  | reported
  deriving DecidableEq

/-- A call of a hook, with the task that it was handed. -/
structure TaskCall (κ : Type) where
  kind : HookKind
  task : Task κ

/-- A memory of hooks with the calls that were made on them, in order. -/
structure Noted (κ S : Type) where
  memory : S
  calls : List (TaskCall κ)

/-- Two calls of the same hook with tasks that are the same to it. -/
structure TaskCall.Alike {κ : Type} (same : Task κ → Task κ → Prop) (a b : TaskCall κ) : Prop where
  kind : a.kind = b.kind
  task : same a.task b.task

/-- The same memory, and the same calls. -/
structure Noted.Alike {κ S : Type} (same : Task κ → Task κ → Prop) (a b : Noted κ S) : Prop where
  memory : a.memory = b.memory
  calls : List.Forall₂ (TaskCall.Alike same) a.calls b.calls

theorem Noted.Alike.add {κ S : Type} {same : Task κ → Task κ → Prop} {a b : Task κ} {s t : Noted κ S}
    (h : Noted.Alike same s t) (hsame : same a b) (memory : S) (kind : HookKind) :
    Noted.Alike same ⟨memory, s.calls ++ [⟨kind, a⟩]⟩ ⟨memory, t.calls ++ [⟨kind, b⟩]⟩ where
  memory := rfl
  calls := List.rel_append h.calls (.cons ⟨rfl, hsame⟩ .nil)

/-- A world with something beside it. -/
def Part.beside {W S : Type} : Part (W × S) W := ⟨fun v => v.1, fun w v => (w, v.2)⟩

theorem Part.beside_lawful {W S : Type} : (Part.beside : Part (W × S) W).Lawful where
  get_set := fun _ _ => rfl
  set_get := fun _ => rfl
  set_set := fun _ _ _ => rfl

/-- A world with a memory beside it, without the calls. -/
def Noted.part {κ W S : Type} : Part (W × Noted κ S) (W × S) where
  get v := (v.1, v.2.memory)
  set w v := (w.1, ⟨w.2, v.2.calls⟩)

theorem Noted.part_lawful {κ W S : Type} : (Noted.part : Part (W × Noted κ S) (W × S)).Lawful where
  get_set := fun _ _ => rfl
  set_get := fun _ => rfl
  set_set := fun _ _ _ => rfl

namespace Hooks

variable {κ W S : Type} {hooks : Hooks κ S}

/-- Hooks that can tell tasks apart only by their sight. -/
structure Blind (hooks : Hooks κ S) : Prop where
  began : ∀ hook ∈ hooks.began, ∀ a b : Task κ, a.sight = b.sight → hook a = hook b
  finished : ∀ hook ∈ hooks.finished, ∀ a b : Task κ, a.sight = b.sight → hook a = hook b
  signalled : ∀ hook ∈ hooks.signalled, ∀ a b : Task κ, a.sight = b.sight → hook a = hook b
  reported : ∀ hook ∈ hooks.reported, ∀ a b : Task κ, a.sight = b.sight → hook a = hook b

/-- Hooks with a memory beside a world that they leave alone. -/
def beside (hooks : Hooks κ S) : Hooks κ (W × S) where
  began := hooks.began.map fun hook task v => (v.1, hook task v.2)
  finished := hooks.finished.map fun hook task code v => ((hook task code v.2).1, v.1, (hook task code v.2).2)
  signalled := hooks.signalled.map fun hook task signal v =>
    ((hook task signal v.2).1, v.1, (hook task signal v.2).2)
  reported := hooks.reported.map fun hook task v => (v.1, hook task v.2)

/-- The same hooks, with a list kept of the calls made on them. -/
def noting (hooks : Hooks κ S) : Hooks κ (Noted κ S) where
  began := hooks.began.map fun hook task noted => ⟨hook task noted.memory, noted.calls ++ [⟨.began, task⟩]⟩
  finished := hooks.finished.map fun hook task code noted =>
    ((hook task code noted.memory).1, ⟨(hook task code noted.memory).2, noted.calls ++ [⟨.finished code, task⟩]⟩)
  signalled := hooks.signalled.map fun hook task signal noted =>
    ((hook task signal noted.memory).1,
      ⟨(hook task signal noted.memory).2, noted.calls ++ [⟨.signalled signal, task⟩]⟩)
  reported := hooks.reported.map fun hook task noted =>
    ⟨hook task noted.memory, noted.calls ++ [⟨.reported, task⟩]⟩

/-! ## Beside a world -/

theorem beside_tellBegan (task : Task κ) (w : W) (s : S) :
    hooks.beside.tellBegan task (w, s) = (w, hooks.tellBegan task s) := by
  unfold tellBegan beside
  cases hooks.began <;> rfl

/-- Hooks beside a world give the verdicts that they give alone, and leave the world as it is. -/
theorem beside_terminated (policy : Policy) (task : Task κ) (w : W) (s : S) :
    hooks.beside.terminated policy task (w, s) =
      ((hooks.terminated policy task s).1, w, (hooks.terminated policy task s).2) := by
  have htold : hooks.beside.tellReported task (w, s) = (w, hooks.tellReported task s) := by
    unfold tellReported beside
    cases task.termination <;> cases hooks.reported <;> rfl
  unfold terminated
  rw [htold]
  unfold judge beside
  cases task.termination with
  | none => rfl
  | some termination =>
    cases termination with
    | exited code => cases hooks.finished <;> rfl
    | signalled signal => cases hooks.signalled <;> rfl

/-- Noting the calls does not disturb hooks. -/
theorem noting_over : (beside (W := W) hooks.noting).Over Noted.part hooks.beside where
  tellBegan := fun task v => by
    unfold tellBegan beside noting
    cases hooks.began <;> rfl
  terminated := fun policy task v => by
    obtain ⟨w, noted⟩ := v
    show hooks.beside.terminated policy task (w, noted.memory) = _
    rw [beside_terminated, beside_terminated]
    unfold terminated tellReported judge noting Noted.part
    cases task.termination with
    | none => rfl
    | some termination =>
      cases termination with
      | exited code => cases hooks.reported <;> cases hooks.finished <;> rfl
      | signalled signal => cases hooks.reported <;> cases hooks.signalled <;> rfl

/-! ## Two runs -/

/-- Hooks that two runs call with tasks that are the same to them, in states that are the same to them, give the
same verdicts and are left in states that are the same to them. -/
structure Follows (same : Task κ → Task κ → Prop) (alike : S → S → Prop) (hooks : Hooks κ S) : Prop where
  tellBegan : ∀ {a b s t}, same a b → alike s t → alike (hooks.tellBegan a s) (hooks.tellBegan b t)
  terminated : ∀ {a b s t}, same a b → alike s t → ∀ policy,
    (hooks.terminated policy a s).1 = (hooks.terminated policy b t).1 ∧
      alike (hooks.terminated policy a s).2 (hooks.terminated policy b t).2

variable {same : Task κ → Task κ → Prop} {a b : Task κ} {s t : Noted κ S}

section Blind

variable (hblind : hooks.Blind) (hsight : a.sight = b.sight) (hsame : same a b) (h : Noted.Alike same s t)

include hblind hsight hsame h

/-- What blind hooks make of the beginning of a task depends only on its sight. -/
theorem Blind.tellBegan_alike : Noted.Alike same (hooks.noting.tellBegan a s) (hooks.noting.tellBegan b t) := by
  unfold tellBegan noting
  cases hbegan : hooks.began with
  | none => exact h
  | some hook =>
    have hhook : hook a = hook b := hblind.began hook hbegan a b hsight
    simp only [Option.map_some, hhook, h.memory]
    exact h.add hsame _ _

theorem Blind.tellReported_alike :
    Noted.Alike same (hooks.noting.tellReported a s) (hooks.noting.tellReported b t) := by
  have htermination : a.termination = b.termination := congrArg Sight.termination hsight
  unfold tellReported noting
  rw [htermination]
  cases b.termination with
  | none => exact h
  | some termination =>
    cases hreported : hooks.reported with
    | none => exact h
    | some hook =>
      have hhook : hook a = hook b := hblind.reported hook hreported a b hsight
      simp only [Option.map_some, hhook, h.memory]
      exact h.add hsame _ _

/-- Blind hooks judge tasks of the same sight alike. -/
theorem Blind.judge_alike (policy : Policy) :
    (hooks.noting.judge policy a s).1 = (hooks.noting.judge policy b t).1 ∧
      Noted.Alike same (hooks.noting.judge policy a s).2 (hooks.noting.judge policy b t).2 := by
  have htermination : a.termination = b.termination := congrArg Sight.termination hsight
  unfold judge noting
  rw [htermination]
  cases b.termination with
  | none => exact ⟨rfl, h⟩
  | some termination =>
    cases termination with
    | exited code =>
      cases hfinished : hooks.finished with
      | none => exact ⟨rfl, h⟩
      | some hook =>
        have hhook : hook a = hook b := hblind.finished hook hfinished a b hsight
        simp only [Option.map_some, hhook, h.memory]
        exact ⟨trivial, h.add hsame _ _⟩
    | signalled signal =>
      cases hsignalled : hooks.signalled with
      | none => exact ⟨rfl, h⟩
      | some hook =>
        have hhook : hook a = hook b := hblind.signalled hook hsignalled a b hsight
        simp only [Option.map_some, hhook, h.memory]
        exact ⟨trivial, h.add hsame _ _⟩

end Blind

/-- Blind hooks cannot tell runs apart that hand them tasks of the same sight. -/
theorem Blind.noting_follows (hblind : hooks.Blind) (hsight : ∀ {a b}, same a b → a.sight = b.sight) :
    hooks.noting.Follows same (Noted.Alike same) where
  tellBegan := fun hsame halike => hblind.tellBegan_alike (hsight hsame) hsame halike
  terminated := fun hsame halike policy =>
    hblind.judge_alike (hsight hsame) hsame (hblind.tellReported_alike (hsight hsame) hsame halike) policy

end Hooks

end BatchRunner
