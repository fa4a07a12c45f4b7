import BatchRunner.Queue.Runner
import BatchRunner.Proofs.Task.Calls
import Mathlib.Logic.Relation

/-!
# The moves of a run

A run of a batch goes from moment to moment by moves (`Run.Move`), each of which makes at most one call on a
task or on the watched set. Every function of the control loop is a sequence of moves (`Run.Leads`), up to
where it ends or is interrupted, so an invariant of moves holds of every run (`runLocally_leads`), whatever
the host and the hooks do.
-/

namespace BatchRunner

namespace Run

variable {κ W : Type}

/-- Where the control of a run is. -/
inductive Phase (κ : Type) where
  /-- Tasks are started, up to the next wait for output. -/
  | admitting
  /-- Executing tasks are read and taken out. -/
  | serving
  /-- A task has left the queue and is to be reaped. -/
  | leaving (task : Task κ)
  /-- A failure is on its way to being recorded. -/
  | failing (error : Error)

/-- Whether tasks are being started. -/
def Phase.isAdmitting {κ : Type} : Phase κ → Bool
  | admitting => true
  | _ => false

/-- The task that has left the queue. -/
def Phase.leaving? {κ : Type} : Phase κ → Option (Task κ)
  | leaving task => some task
  | _ => none

/-- A point of a run. -/
structure Moment (κ W : Type) where
  phase : Phase κ
  run : Run κ W

/-- Where the control is after a call that may have failed. -/
def Phase.after {κ α : Type} : Except Error α → Phase κ
  | .ok _ => .serving
  | .error error => .failing error

/-- One move of a run. -/
inductive Move (setting : RunSetting κ W) : Moment κ W → Moment κ W → Prop
  | refuse {run : Run κ W} {task rest error after w} (hroom : run.hasRoom setting)
      (hpending : run.pending = task :: rest)
      (hcall : task.execute setting.host setting.source run.world = .ok (.error error, after, w)) :
    Move setting ⟨.admitting, run⟩
      ⟨.admitting, ((run.pop rest w).note (.spawnFailed after.id error)).record error⟩
  | accept {run : Run κ W} {task rest after w} (hroom : run.hasRoom setting)
      (hpending : run.pending = task :: rest)
      (hcall : task.execute setting.host setting.source run.world = .ok (.ok (), after, w)) :
    Move setting ⟨.admitting, run⟩ ⟨.admitting, ((run.pop rest w).tell setting after).enter after⟩
  | watch {run : Run κ W} (hsome : run.executing ≠ [])
      (hbusy : run.hasRoom setting = false ∨ run.pending = []) :
    Move setting ⟨.admitting, run⟩ ⟨.serving, run.note run.waitingEvent⟩
  | wake {run : Run κ W} {events w}
      (hcall : run.watch.wait setting.host setting.patience run.world = .ok (.ok events, w)) :
    Move setting ⟨.serving, run⟩ ⟨.serving, run.inWorld w⟩
  | watchFail {run : Run κ W} {cause w}
      (hcall : run.watch.wait setting.host setting.patience run.world = .ok (.error cause, w)) :
    Move setting ⟨.serving, run⟩ ⟨.failing (.readiness cause), (run.inWorld w).note (.watchFailed cause)⟩
  | skip {run : Run κ W} {event : ReadyEvent} (hnone : run.executing? event.owner = none) :
    Move setting ⟨.serving, run⟩ ⟨.serving, run.watching (run.watch.markFinished event.index)⟩
  | read {run : Run κ W} {id task ended after w} (hsome : run.executing? id = some task)
      (hcall : task.readAvailable setting.host setting.patience run.world = .ok (.ok ended, after, w)) :
    Move setting ⟨.serving, run⟩ ⟨.serving, (run.inWorld w).update id after⟩
  | readFail {run : Run κ W} {id task error after w} (hsome : run.executing? id = some task)
      (hcall : task.readAvailable setting.host setting.patience run.world = .ok (.error error, after, w)) :
    Move setting ⟨.serving, run⟩
      ⟨.failing error, ((run.inWorld w).update id after).note (.readFailed id error)⟩
  | readRest {run : Run κ W} {id task after w} (hsome : run.executing? id = some task)
      (hcall : task.readToClose setting.host setting.patience run.world = .ok (.ok (), after, w)) :
    Move setting ⟨.serving, run⟩ ⟨.serving, (run.inWorld w).update id after⟩
  | abandon {run : Run κ W} {id task error between v result after w} (hsome : run.executing? id = some task)
      (hread : task.readToClose setting.host setting.patience run.world = .ok (.error error, between, v))
      (hclose : between.finishExecution setting.host setting.patience v = .ok (result, after, w)) :
    Move setting ⟨.serving, run⟩
      ⟨.failing error, ((run.inWorld w).update id after).note (.readFailed id error)⟩
  | leave {run : Run κ W} {id task watch} (hsome : run.executing? id = some task)
      (hwatch : watch = run.watch ∨ ∃ index, watch = run.watch.markFinished index) :
    Move setting ⟨.serving, run⟩ ⟨.leaving task, (run.watching watch).leave id task⟩
  | lose {run : Run κ W} {task error between v drained after w}
      (hreap : task.reap setting.host setting.patience run.world = .ok (.error error, between, v))
      (hclose : between.finishIfRunning setting.host setting.patience v = .ok (drained, after, w)) :
    Move setting ⟨.leaving task, run⟩
      ⟨.failing error, (run.inWorld w).note (.lost after.id error (failureOf drained))⟩
  | settle {run : Run κ W} {task termination between v drained after w}
      (hreap : task.reap setting.host setting.patience run.world = .ok (.ok termination, between, v))
      (hclose : between.finishIfRunning setting.host setting.patience v = .ok (drained, after, w)) :
    Move setting ⟨.leaving task, run⟩
      ⟨.after drained, (((run.inWorld w).note (.reaped after.id termination)).conclude setting after).note
        (.settled after.id (failureOf drained))⟩
  | record {run : Run κ W} {error} :
    Move setting ⟨.failing error, run⟩ ⟨.serving, run.record error⟩
  | compact {run : Run κ W} :
    Move setting ⟨.serving, run⟩ ⟨.admitting, run.watching run.watch.compact⟩
  | clear {run : Run κ W} :
    Move setting ⟨.serving, run⟩ ⟨.serving, run.watching .empty⟩

/-- Some moves, one after the other. -/
abbrev Moves (setting : RunSetting κ W) : Moment κ W → Moment κ W → Prop :=
  Relation.ReflTransGen (Move setting)

/-- What a function of the control loop does is a sequence of steps from point to point of a run. They lead to a
point of the given kind if the function is not interrupted, and else to a point with the run as far as it
came. -/
def LeadsBy {P α : Type} (step : P → P → Prop) (run : P → Run κ W) (first : P)
    (result : Except (Interrupted κ W) α) (there : α → P → Prop) : Prop :=
  match result with
  | .ok a => ∃ last, Relation.ReflTransGen step first last ∧ there a last
  | .error interrupted => ∃ last, Relation.ReflTransGen step first last ∧ run last = interrupted.run

/-- What a function of the control loop does is a sequence of moves. -/
abbrev Leads (setting : RunSetting κ W) {α : Type} (first : Moment κ W) (result : Except (Interrupted κ W) α)
    (there : α → Moment κ W → Prop) : Prop :=
  LeadsBy (Move setting) Moment.run first result there

namespace LeadsBy

variable {P α β : Type} {step : P → P → Prop} {run : P → Run κ W} {first last : P} {there : α → P → Prop}
  {beyond : β → P → Prop}

theorem ok {a : α} (h : there a first) : LeadsBy step run first (.ok a) there :=
  ⟨first, .refl, h⟩

theorem of_moves {result : Except (Interrupted κ W) α} (hmoves : Relation.ReflTransGen step first last)
    (h : LeadsBy step run last result there) : LeadsBy step run first result there := by
  cases result with
  | ok a =>
    obtain ⟨end', hlast, hthere⟩ := h
    exact ⟨end', hmoves.trans hlast, hthere⟩
  | error interrupted =>
    obtain ⟨end', hlast, hrun⟩ := h
    exact ⟨end', hmoves.trans hlast, hrun⟩

theorem of_move {result : Except (Interrupted κ W) α} (hmove : step first last)
    (h : LeadsBy step run last result there) : LeadsBy step run first result there :=
  .of_moves (.single hmove) h

theorem imp {result : Except (Interrupted κ W) α} {there' : α → P → Prop}
    (h : LeadsBy step run first result there) (himp : ∀ a last, there a last → there' a last) :
    LeadsBy step run first result there' := by
  cases result with
  | ok a =>
    obtain ⟨last, hmoves, hthere⟩ := h
    exact ⟨last, hmoves, himp a last hthere⟩
  | error interrupted => exact h

/-- The point that is reached is reached by steps. -/
theorem with_moves {result : Except (Interrupted κ W) α} (h : LeadsBy step run first result there) :
    LeadsBy step run first result fun a last => Relation.ReflTransGen step first last ∧ there a last := by
  cases result with
  | ok a =>
    obtain ⟨last, hmoves, hthere⟩ := h
    exact ⟨last, hmoves, hmoves, hthere⟩
  | error interrupted => exact h

theorem bind {result : Except (Interrupted κ W) α} {f : α → Except (Interrupted κ W) β}
    (h : LeadsBy step run first result there)
    (hf : ∀ a last, there a last → LeadsBy step run last (f a) beyond) :
    LeadsBy step run first (result >>= f) beyond := by
  cases result with
  | ok a =>
    obtain ⟨last, hmoves, hthere⟩ := h
    exact .of_moves hmoves (hf a last hthere)
  | error interrupted => exact h

/-- A call that is interrupted where it was made makes no step by itself. -/
theorem call {result : Except (Interrupted κ W) α} {f : α → Except (Interrupted κ W) β}
    (hstop : ∀ interrupted, result = .error interrupted → interrupted.run = run first)
    (h : ∀ a, result = .ok a → LeadsBy step run first (f a) beyond) :
    LeadsBy step run first (result >>= f) beyond := by
  cases result with
  | ok a => exact h a rfl
  | error interrupted => exact ⟨first, .refl, (hstop interrupted rfl).symm⟩

/-- Neither does a call on a task or on the watched set. -/
theorem await {call : Except Halt α} {f : α → Except (Interrupted κ W) β}
    (h : ∀ a, call = .ok a → LeadsBy step run first (f a) beyond) :
    LeadsBy step run first ((run first).await call >>= f) beyond := by
  cases call with
  | ok a => exact h a rfl
  | error halt => exact ⟨first, .refl, rfl⟩

end LeadsBy

end Run

end BatchRunner
