import BatchRunner.Queue.Runner
import Mathlib.Data.List.Basic

/-!
# The law of histories

A ledger is what a history lets one know of the run behind it: which tasks are queued, which are alive, the
error that is held and what has to happen next (`Duty`). `Ledger.Step` says which event may follow, and
`Ledger.Trail` that each event of a history was allowed by those before it. Whatever holds of every trail
holds at every point of every run, since a part of a trail is a trail (`Trail.split`).
-/

namespace BatchRunner

/-- The errors that a stopping verdict on a task records, with the tasks of the batch given. -/
def stopErrors {κ : Type} (tasks : List (Task κ)) (id : TaskId) (termination : Termination) : List Error :=
  ((tasks.find? (·.id == id)).map fun task => Run.stopError task termination).toList

namespace RunEvent

/-- The errors that an event gives cause to record. A failure to learn the end of a task hides that its last
reading failed too. -/
def failures {κ : Type} (tasks : List (Task κ)) : RunEvent → List Error
  | spawnFailed _ error => [error]
  | watchFailed cause => [.readiness cause]
  | readFailed _ error => [error]
  | lost _ error _ => [error]
  | judged id termination verdict => if verdict.isStop then stopErrors tasks id termination else []
  | settled _ cut => cut.toList
  | _ => []

/-- The error that an event records. -/
def recorded? : RunEvent → Option Error
  | recorded error => some error
  | _ => none

/-- The task whose process was started. -/
def spawned? : RunEvent → Option TaskId
  | spawned id => some id
  | _ => none

/-- The task that the caller was told to have begun. -/
def began? : RunEvent → Option TaskId
  | began id => some id
  | _ => none

/-- The task that was taken from the queue, whether or not its process could be started. -/
def attempted? : RunEvent → Option TaskId
  | spawned id => some id
  | spawnFailed id _ => some id
  | _ => none

/-- Whether output is waited for. -/
def isWaiting : RunEvent → Bool
  | waiting .. => true
  | _ => false

/-- The tasks that are alive after an event: those whose process was started and that have not left. -/
def nextAlive (ids : List TaskId) : RunEvent → List TaskId
  | spawned id => ids ++ [id]
  | retiring id => ids.filter (· != id)
  | _ => ids

/-- The tasks that are alive after events, in the order in which they were started. -/
def alive (events : List RunEvent) : List TaskId := events.foldl nextAlive []

@[simp] theorem alive_append_singleton (events : List RunEvent) (event : RunEvent) :
    alive (events ++ [event]) = nextAlive (alive events) event := by
  simp [alive]

end RunEvent

/-- What a run is in the middle of. -/
inductive Duty where
  /-- Nothing: tasks may be started, output waited for and read, and tasks taken out. -/
  | free
  /-- A process was started, and the caller is to be told. -/
  | begin (task : TaskId)
  /-- A task has left, and its end is to be learnt. -/
  | part (task : TaskId)
  /-- An end is to be reported. -/
  | report (task : TaskId) (termination : Termination)
  /-- An end that was reported is to be judged. -/
  | judge (task : TaskId) (termination : Termination)
  /-- A stopping verdict is to be recorded. -/
  | stop (task : TaskId) (error : Error)
  /-- A task that was judged is to be done with. -/
  | settle (task : TaskId)
  /-- A failure is to be recorded. -/
  | record (error : Error)
  deriving DecidableEq

namespace Duty

/-- The task that a duty is about. -/
def task? : Duty → Option TaskId
  | begin id | part id | report id _ | judge id _ | stop id _ | settle id => some id
  | free | record _ => none

/-- The errors that a duty is to record. -/
def owed : Duty → List Error
  | stop _ error | record error => [error]
  | _ => []

/-- What is left to do after the last reading of a task that was judged. -/
def ofCut : Option Error → Duty
  | none => free
  | some error => record error

@[simp] theorem task?_ofCut (cut : Option Error) : (ofCut cut).task? = none := by
  cases cut <;> rfl

@[simp] theorem owed_ofCut (cut : Option Error) : (ofCut cut).owed = cut.toList := by
  cases cut <;> rfl

end Duty

/-- What a history lets one know of a run. -/
structure Ledger where
  /-- The tasks that have not been taken from the queue. -/
  queued : List TaskId
  alive : List TaskId
  /-- The first error that was recorded. -/
  held : Option Error
  /-- Whether output was ever waited for. -/
  watched : Bool
  duty : Duty

namespace Ledger

/-- Nothing has happened to queued tasks. -/
def start (ids : List TaskId) : Ledger := ⟨ids, [], none, false, .free⟩

variable {κ : Type}

/-- Which event may follow, and what is known after it. -/
inductive Step (tasks : List (Task κ)) (limit : Nat) : Ledger → RunEvent → Ledger → Prop
  | spawned {id rest alive held watched} (hheld : held = none) (hroom : alive.length < limit) :
    Step tasks limit ⟨id :: rest, alive, held, watched, .free⟩ (.spawned id)
      ⟨rest, alive ++ [id], held, watched, .begin id⟩
  | spawnFailed {id rest alive held watched error} (hheld : held = none) (hroom : alive.length < limit) :
    Step tasks limit ⟨id :: rest, alive, held, watched, .free⟩ (.spawnFailed id error)
      ⟨rest, alive, held, watched, .record error⟩
  | began {queued alive held watched id} :
    Step tasks limit ⟨queued, alive, held, watched, .begin id⟩ (.began id)
      ⟨queued, alive, held, watched, .free⟩
  | waiting {queued alive held watched watch pids} (hsome : alive ≠ [])
      (hbusy : limit ≤ alive.length ∨ queued = [] ∨ held.isSome) :
    Step tasks limit ⟨queued, alive, held, watched, .free⟩
      (.waiting watch alive pids queued.length held.isSome) ⟨queued, alive, held, true, .free⟩
  | watchFailed {queued alive held cause} :
    Step tasks limit ⟨queued, alive, held, true, .free⟩ (.watchFailed cause)
      ⟨queued, alive, held, true, .record (.readiness cause)⟩
  | readFailed {queued alive held id error} (hid : id ∈ alive) :
    Step tasks limit ⟨queued, alive, held, true, .free⟩ (.readFailed id error)
      ⟨queued, alive, held, true, .record error⟩
  | retiring {queued alive held id} (hid : id ∈ alive) :
    Step tasks limit ⟨queued, alive, held, true, .free⟩ (.retiring id)
      ⟨queued, alive.filter (· != id), held, true, .part id⟩
  | lost {queued alive held id error cut} :
    Step tasks limit ⟨queued, alive, held, true, .part id⟩ (.lost id error cut)
      ⟨queued, alive, held, true, .record error⟩
  | reaped {queued alive held id termination} :
    Step tasks limit ⟨queued, alive, held, true, .part id⟩ (.reaped id termination)
      ⟨queued, alive, held, true, .report id termination⟩
  | reported {queued alive held id termination} :
    Step tasks limit ⟨queued, alive, held, true, .report id termination⟩ (.reported id)
      ⟨queued, alive, held, true, .judge id termination⟩
  | passed {queued alive held id termination} :
    Step tasks limit ⟨queued, alive, held, true, .judge id termination⟩ (.judged id termination .proceed)
      ⟨queued, alive, held, true, .settle id⟩
  | stopped {queued alive held id termination error} (herror : stopErrors tasks id termination = [error]) :
    Step tasks limit ⟨queued, alive, held, true, .judge id termination⟩ (.judged id termination .stop)
      ⟨queued, alive, held, true, .stop id error⟩
  | recordedStop {queued alive held id error} :
    Step tasks limit ⟨queued, alive, held, true, .stop id error⟩ (.recorded error)
      ⟨queued, alive, held <|> some error, true, .settle id⟩
  | settled {queued alive held id cut} :
    Step tasks limit ⟨queued, alive, held, true, .settle id⟩ (.settled id cut)
      ⟨queued, alive, held, true, .ofCut cut⟩
  | recorded {queued alive held watched error} :
    Step tasks limit ⟨queued, alive, held, watched, .record error⟩ (.recorded error)
      ⟨queued, alive, held <|> some error, watched, .free⟩

/-- From one ledger to another by events each of which was allowed. -/
inductive Trail (tasks : List (Task κ)) (limit : Nat) (first : Ledger) : List RunEvent → Ledger → Prop
  | nil : Trail tasks limit first [] first
  | snoc {events ledger event next} (trail : Trail tasks limit first events ledger)
      (step : Step tasks limit ledger event next) : Trail tasks limit first (events ++ [event]) next

variable {tasks : List (Task κ)} {limit : Nat} {first ledger next last : Ledger} {event : RunEvent}
  {events : List RunEvent}

/-- A history that is a trail can be cut anywhere. -/
theorem Trail.split (h : Trail tasks limit first events last) :
    ∀ {before after : List RunEvent}, events = before ++ after →
      ∃ between, Trail tasks limit first before between ∧ Trail tasks limit between after last := by
  induction h with
  | nil =>
    intro before after h
    obtain ⟨rfl, rfl⟩ := List.append_eq_nil_iff.1 h.symm
    exact ⟨first, .nil, .nil⟩
  | @snoc events ledger event next trail step ih =>
    intro before after h
    rcases List.eq_nil_or_concat after with rfl | ⟨after, last, rfl⟩
    · rw [List.append_nil] at h
      exact ⟨next, h ▸ trail.snoc step, .nil⟩
    · rw [List.concat_eq_append, ← List.append_assoc] at h
      obtain ⟨h, hlast⟩ := List.append_inj' h rfl
      obtain ⟨between, hbefore, hafter⟩ := ih h
      obtain rfl := List.singleton_inj.1 hlast
      rw [List.concat_eq_append]
      exact ⟨between, hbefore, hafter.snoc step⟩

/-- The last event of a trail was allowed by those before it. -/
theorem Trail.snoc_inv (h : Trail tasks limit first (events ++ [event]) last) :
    ∃ ledger, Trail tasks limit first events ledger ∧ Step tasks limit ledger event last := by
  generalize hall : events ++ [event] = all at h
  cases h with
  | nil => simp at hall
  | snoc trail step =>
    obtain ⟨rfl, heq⟩ := List.append_inj' hall rfl
    obtain rfl := List.singleton_inj.1 heq
    exact ⟨_, trail, step⟩

/-- Each event of a trail was allowed by the events before it. -/
theorem Trail.at {before after : List RunEvent}
    (h : Trail tasks limit first (before ++ event :: after) last) :
    ∃ ledger next, Trail tasks limit first before ledger ∧ Step tasks limit ledger event next ∧
      Trail tasks limit next after last := by
  obtain ⟨next, hbefore, hafter⟩ := h.split (List.append_cons before event after)
  obtain ⟨ledger, hbefore, hstep⟩ := hbefore.snoc_inv
  exact ⟨ledger, next, hbefore, hstep, hafter⟩

theorem Trail.nil_inv (h : Trail tasks limit first [] last) : last = first := by
  generalize hall : ([] : List RunEvent) = all at h
  cases h with
  | nil => rfl
  | snoc trail step => simp at hall

/-- The first event of a trail is allowed where the trail starts. -/
theorem Trail.cons_inv (h : Trail tasks limit first (event :: events) last) :
    ∃ next, Step tasks limit first event next ∧ Trail tasks limit next events last := by
  have hcons : event :: events = ([] ++ [event]) ++ events := rfl
  obtain ⟨next, hevent, hrest⟩ := h.split hcons
  obtain ⟨ledger, hnil, hstep⟩ := hevent.snoc_inv
  rw [hnil.nil_inv] at hstep
  exact ⟨next, hstep, hrest⟩

/-- A trail goes on with the next event of a history that is kept last first. -/
theorem Trail.note {history : List RunEvent} (trail : Trail tasks limit first history.reverse ledger)
    (step : Step tasks limit ledger event next) :
    Trail tasks limit first (event :: history).reverse next := by
  rw [List.reverse_cons]
  exact trail.snoc step

/-! ## What a ledger knows -/

open RunEvent

variable {ids : List TaskId}

theorem Trail.alive_eq (h : Trail tasks limit (start ids) events ledger) :
    RunEvent.alive events = ledger.alive := by
  induction h with
  | nil => rfl
  | snoc trail step ih =>
    rw [alive_append_singleton, ih]
    cases step <;> rfl

/-- Tasks are taken from the queue in order. -/
theorem Trail.attempted_append_queued (h : Trail tasks limit (start ids) events ledger) :
    events.filterMap attempted? ++ ledger.queued = ids := by
  induction h with
  | nil => rfl
  | snoc trail step ih =>
    rw [← ih, List.filterMap_append, List.append_assoc]
    cases step <;> rfl

/-- No task is alive and queued, or either of them twice. -/
theorem Trail.nodup (hids : ids.Nodup) (h : Trail tasks limit (start ids) events ledger) :
    (ledger.alive ++ ledger.queued).Nodup := by
  induction h with
  | nil => exact hids
  | snoc trail step ih =>
    cases step with
    | spawned => simpa using ih
    | spawnFailed => exact ih.sublist ((List.append_sublist_append_left _).2 (List.sublist_cons_self ..))
    | retiring => exact ih.sublist ((List.append_sublist_append_right _).2 (List.filter_sublist ..))
    | _ => exact ih

end Ledger

end BatchRunner
