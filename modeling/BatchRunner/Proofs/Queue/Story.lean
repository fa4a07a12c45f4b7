import BatchRunner.Proofs.Queue.Ledger

/-!
# The story of a task

The events about one task follow each other in one of a few ways, which `Life.Step` lists: whatever happens
in between to other tasks, each event about a task is allowed by where that task is in its life. Every
history that is a trail tells such a story of every task (`Ledger.Trail.story`), and where a task stands in
its life agrees with the ledger (`Life.Stands`). What was told to the caller about a task, and what else
happened to it, is then read off its life.
-/

namespace BatchRunner

namespace RunEvent

/-- The task that an event is about. -/
def task? : RunEvent → Option TaskId
  | spawned id | spawnFailed id _ | began id | readFailed id _ | retiring id => some id
  | reaped id _ | lost id _ _ | reported id | judged id _ _ | settled id _ => some id
  | waiting .. | watchFailed _ | recorded _ => none

/-- The task that an event tells the caller of, or asks the caller about. -/
def told? : RunEvent → Option TaskId
  | began id | reported id | judged id _ _ => some id
  | _ => none

/-- What was told to the caller about a task, in order. -/
def tellings (id : TaskId) (events : List RunEvent) : List RunEvent :=
  events.filter fun event => event.told? == some id

theorem told?_eq_some {event : RunEvent} {id : TaskId} (h : event.told? = some id) :
    event.task? = some id := by
  cases event <;> simp_all [told?, task?]

theorem tellings_append_of_ne {event : RunEvent} {id : TaskId} (h : event.task? ≠ some id)
    (events : List RunEvent) : tellings id (events ++ [event]) = tellings id events := by
  have hne : event.told? ≠ some id := fun htold => h (told?_eq_some htold)
  simp [tellings, hne]

end RunEvent

/-- Where a task is in a run. -/
inductive Life where
  /-- It was not tried to start its process. -/
  | queued
  /-- Its process could not be started. -/
  | refused
  /-- Its process was started, and the caller is to be told. -/
  | spawned
  | running
  /-- It has left the queue, and its end is to be learnt. -/
  | parted
  /-- Its end could not be learnt. -/
  | lost
  | reaped (termination : Termination)
  | reported (termination : Termination)
  | judged (termination : Termination) (verdict : Verdict)
  | settled (termination : Termination) (verdict : Verdict)
  deriving DecidableEq

namespace Life

/-- Which event about a task may follow, and where the task is after it. -/
inductive Step (id : TaskId) : Life → RunEvent → Life → Prop
  | spawned : Step id .queued (.spawned id) .spawned
  | refused {error} : Step id .queued (.spawnFailed id error) .refused
  | began : Step id .spawned (.began id) .running
  | readFailed {error} : Step id .running (.readFailed id error) .running
  | retiring : Step id .running (.retiring id) .parted
  | lost {error cut} : Step id .parted (.lost id error cut) .lost
  | reaped {termination} : Step id .parted (.reaped id termination) (.reaped termination)
  | reported {termination} : Step id (.reaped termination) (.reported id) (.reported termination)
  | judged {termination verdict} :
    Step id (.reported termination) (.judged id termination verdict) (.judged termination verdict)
  | settled {termination verdict cut} :
    Step id (.judged termination verdict) (.settled id cut) (.settled termination verdict)

/-- Whether the process of the task was started. -/
def isSpawned : Life → Bool
  | queued | refused => false
  | _ => true

/-- Whether the task is alive: its process was started, and it has not left. -/
def isAlive : Life → Bool
  | spawned | running => true
  | _ => false

/-- How the process of the task ended, if that was learnt. -/
def termination? : Life → Option Termination
  | reaped termination | reported termination => some termination
  | judged termination _ | settled termination _ => some termination
  | _ => none

/-- What was told to the caller about the task. -/
def told (id : TaskId) : Life → List RunEvent
  | queued | refused | spawned => []
  | running | parted | lost | reaped _ => [.began id]
  | reported _ => [.began id, .reported id]
  | judged termination verdict | settled termination verdict =>
    [.began id, .reported id, .judged id termination verdict]

/-- What a run that is in the middle of something owes to a task in the middle of its life. -/
def Owes (id : TaskId) : Life → Duty → Prop
  | spawned, duty => duty = .begin id
  | parted, duty => duty = .part id
  | reaped termination, duty => duty = .report id termination
  | reported termination, duty => duty = .judge id termination
  | judged _ _, duty => duty = .settle id ∨ ∃ error, duty = .stop id error
  | queued, duty | refused, duty | running, duty | lost, duty | settled _ _, duty => duty.task? ≠ some id

/-- A ledger knows where a task is in its life. -/
structure Stands (ledger : Ledger) (id : TaskId) (life : Life) : Prop where
  queued : id ∈ ledger.queued → life = .queued
  alive : id ∈ ledger.alive ↔ life.isAlive = true
  owes : life.Owes id ledger.duty

/-- A run that owes nothing to a task before and after owes as much to it as before. -/
theorem Owes.of_ne {id : TaskId} {life : Life} {duty duty' : Duty} (h : life.Owes id duty)
    (hbefore : duty.task? ≠ some id) (hafter : duty'.task? ≠ some id) : life.Owes id duty' := by
  cases life with
  | queued | refused | running | lost | settled => exact hafter
  | spawned | parted | reaped | reported =>
    rw [show duty = _ from h] at hbefore
    exact absurd rfl hbefore
  | judged termination verdict =>
    rcases h with rfl | ⟨error, rfl⟩ <;> exact absurd rfl hbefore

section Owes

variable {id : TaskId} {life : Life} {termination : Termination}

theorem Owes.begin (h : life.Owes id (.begin id)) : life = .spawned := by
  cases life <;> simp_all [Owes, Duty.task?]

theorem Owes.part (h : life.Owes id (.part id)) : life = .parted := by
  cases life <;> simp_all [Owes, Duty.task?]

theorem Owes.report (h : life.Owes id (.report id termination)) : life = .reaped termination := by
  cases life <;> simp_all [Owes, Duty.task?]

theorem Owes.judge (h : life.Owes id (.judge id termination)) : life = .reported termination := by
  cases life <;> simp_all [Owes, Duty.task?]

theorem Owes.settle (h : life.Owes id (.settle id)) :
    ∃ termination verdict, life = .judged termination verdict := by
  cases life <;> simp_all [Owes, Duty.task?]

theorem Owes.free (h : life.Owes id .free) (halive : life.isAlive = true) : life = .running := by
  cases life <;> simp_all [Owes, isAlive]

end Owes

namespace Stands

variable {ledger next : Ledger} {id : TaskId} {life life' : Life}

/-- A task stays where it is if the ledger does not change but for what is owed to others. -/
theorem of_eq (h : life.Stands ledger id) (hqueued : next.queued = ledger.queued)
    (halive : next.alive = ledger.alive) (howes : life.Owes id next.duty) : life.Stands next id where
  queued := by rw [hqueued]; exact h.queued
  alive := by rw [halive]; exact h.alive
  owes := howes

/-- A task that is not queued goes on in its life while no task is started or leaves. -/
theorem go (h : life.Stands ledger id) (hlife : life ≠ .queued) (hsame : life'.isAlive = life.isAlive)
    (hqueued : next.queued = ledger.queued) (halive : next.alive = ledger.alive)
    (howes : life'.Owes id next.duty) : life'.Stands next id where
  queued := by
    rw [hqueued]
    intro hmem
    exact absurd (h.queued hmem) hlife
  alive := by rw [halive, hsame]; exact h.alive
  owes := howes

end Stands

end Life

/-- The events of a history that are about a task take it from the queue to where it is in its life. -/
inductive Story (id : TaskId) : List RunEvent → Life → Prop
  | nil : Story id [] .queued
  | other {events event life} (story : Story id events life) (hother : event.task? ≠ some id) :
    Story id (events ++ [event]) life
  | snoc {events event life next} (story : Story id events life) (step : Life.Step id life event next) :
    Story id (events ++ [event]) next

/-! ## What a story tells -/

namespace Story

open RunEvent

variable {id : TaskId} {events : List RunEvent} {life : Life}

/-- An event about a task is not added by an event that is not about it. -/
theorem mem_append_other {event known : RunEvent} (hother : event.task? ≠ some id)
    (hknown : known.task? = some id) : known ∈ events ++ [event] ↔ known ∈ events := by
  have hne : known ≠ event := by
    rintro rfl
    exact hother hknown
  rw [List.mem_append, List.mem_singleton, or_iff_left hne]

theorem tellings_eq (h : Story id events life) : tellings id events = life.told id := by
  induction h with
  | nil => rfl
  | other story hother ih => rw [tellings_append_of_ne hother, ih]
  | snoc story step ih =>
    rw [tellings, List.filter_append, ← tellings, ih]
    cases step <;> simp [Life.told, told?]

theorem spawned_mem_iff (h : Story id events life) : .spawned id ∈ events ↔ life.isSpawned = true := by
  induction h with
  | nil => simp [Life.isSpawned]
  | other story hother ih => rw [mem_append_other hother rfl, ih]
  | snoc story step ih =>
    rw [List.mem_append, ih]
    cases step <;> simp [Life.isSpawned]

theorem spawnFailed_mem_iff (h : Story id events life) :
    (∃ error, .spawnFailed id error ∈ events) ↔ life = .refused := by
  induction h with
  | nil => simp
  | other story hother ih =>
    rw [← ih]
    exact exists_congr fun _ => mem_append_other hother rfl
  | snoc story step ih =>
    simp only [List.mem_append, exists_or, ih]
    cases step <;> simp

theorem reaped_mem_iff {termination : Termination} (h : Story id events life) :
    .reaped id termination ∈ events ↔ life.termination? = some termination := by
  induction h with
  | nil => simp [Life.termination?]
  | other story hother ih => rw [mem_append_other hother rfl, ih]
  | snoc story step ih =>
    rw [List.mem_append, ih]
    cases step <;> simp [Life.termination?, eq_comm]

theorem lost_mem_iff (h : Story id events life) :
    (∃ error cut, .lost id error cut ∈ events) ↔ life = .lost := by
  induction h with
  | nil => simp
  | other story hother ih =>
    rw [← ih]
    exact exists_congr fun _ => exists_congr fun _ => mem_append_other hother rfl
  | snoc story step ih =>
    simp only [List.mem_append, exists_or, ih]
    cases step <;> simp

/-- Of a task that is alive it is known that its process was started, and nothing of its end. -/
theorem of_isAlive (h : Story id events life) (halive : life.isAlive = true) :
    .spawned id ∈ events ∧ (∀ termination, .reaped id termination ∉ events) ∧ .reported id ∉ events ∧
      ∀ error cut, .lost id error cut ∉ events := by
  have hlife : life = .spawned ∨ life = .running := by
    cases life with
    | spawned => exact .inl rfl
    | running => exact .inr rfl
    | _ => cases halive
  have hspawned : life.isSpawned = true := by rcases hlife with rfl | rfl <;> rfl
  have hreaped : life.termination? = none := by rcases hlife with rfl | rfl <;> rfl
  have htold : .reported id ∉ life.told id := by rcases hlife with rfl | rfl <;> simp [Life.told]
  refine ⟨h.spawned_mem_iff.2 hspawned, fun termination hmem => ?_, fun hmem => ?_, fun error cut hmem => ?_⟩
  · cases hreaped.symm.trans (h.reaped_mem_iff.1 hmem)
  · rw [← h.tellings_eq] at htold
    exact htold (List.mem_filter.2 ⟨hmem, by simp [told?]⟩)
  · obtain rfl := h.lost_mem_iff.1 ⟨error, cut, hmem⟩
    cases halive

end Story

/-! ## Every trail tells a story of every task -/

namespace Ledger

open Life

variable {κ : Type} {tasks : List (Task κ)} {limit : Nat} {ledger next : Ledger} {event : RunEvent}
  {events : List RunEvent} {id : TaskId} {ids : List TaskId} {life : Life}

/-- An event that is not about a task leaves it where it is. -/
theorem Step.others (step : Step tasks limit ledger event next) (hother : event.task? ≠ some id)
    (h : life.Stands ledger id) : life.Stands next id := by
  have hnone : (none : Option TaskId) ≠ some id := nofun
  cases step with
  | @spawned id' rest alive held watched =>
    have hne : id ≠ id' := fun heq => hother (congrArg some heq.symm)
    refine ⟨fun hmem => h.queued (List.mem_cons_of_mem _ hmem), ?_, h.owes.of_ne hnone hother⟩
    rw [← h.alive]
    simp [hne]
  | spawnFailed =>
    exact ⟨fun hmem => h.queued (List.mem_cons_of_mem _ hmem), h.alive, h.owes.of_ne hnone hnone⟩
  | @retiring queued alive held id' hid =>
    have hne : id ≠ id' := fun heq => hother (congrArg some heq.symm)
    refine ⟨h.queued, ?_, h.owes.of_ne hnone hother⟩
    rw [← h.alive]
    simp [hne]
  | @recordedStop queued alive held id' error =>
    refine h.of_eq rfl rfl ?_
    by_cases heq : id' = id
    · subst heq
      obtain ⟨termination, verdict, rfl⟩ : ∃ termination verdict, life = .judged termination verdict := by
        have howes := h.owes
        cases life <;> simp_all [Owes, Duty.task?]
      exact .inl rfl
    · have hne : some id' ≠ some id := fun hsome => heq (Option.some.inj hsome)
      exact h.owes.of_ne hne hne
  | settled => exact h.of_eq rfl rfl (h.owes.of_ne hother (by simp))
  | waiting => exact h.of_eq rfl rfl h.owes
  | watchFailed | readFailed | recorded => exact h.of_eq rfl rfl (h.owes.of_ne hnone hnone)
  | began | lost => exact h.of_eq rfl rfl (h.owes.of_ne hother hnone)
  | reaped | reported | passed | stopped => exact h.of_eq rfl rfl (h.owes.of_ne hother hother)

/-- An event about a task is allowed by where it is in its life. -/
theorem Step.lives (step : Step tasks limit ledger event next) (habout : event.task? = some id)
    (hnodup : (ledger.alive ++ ledger.queued).Nodup) (h : life.Stands ledger id) :
    ∃ life', Life.Step id life event life' ∧ life'.Stands next id := by
  have hnone : (none : Option TaskId) ≠ some id := nofun
  cases step with
  | waiting | watchFailed | recordedStop | recorded => cases habout
  | spawned =>
    cases habout
    obtain rfl := h.queued List.mem_cons_self
    have hnew := (List.nodup_cons.1 (List.nodup_append.1 hnodup).2.1).1
    exact ⟨_, .spawned, fun hmem => absurd hmem hnew, by simp [isAlive], rfl⟩
  | spawnFailed =>
    cases habout
    obtain rfl := h.queued List.mem_cons_self
    have hnew := (List.nodup_cons.1 (List.nodup_append.1 hnodup).2.1).1
    exact ⟨_, .refused, fun hmem => absurd hmem hnew, h.alive, hnone⟩
  | began =>
    cases habout
    obtain rfl := h.owes.begin
    exact ⟨_, .began, h.go nofun rfl rfl rfl hnone⟩
  | readFailed hid =>
    cases habout
    obtain rfl := h.owes.free (h.alive.1 hid)
    exact ⟨_, .readFailed, h.of_eq rfl rfl hnone⟩
  | retiring hid =>
    cases habout
    obtain rfl := h.owes.free (h.alive.1 hid)
    refine ⟨_, .retiring, ⟨fun hmem => ?_, ?_, rfl⟩⟩
    · cases h.queued hmem
    · simp [isAlive]
  | lost =>
    cases habout
    obtain rfl := h.owes.part
    exact ⟨_, .lost, h.go nofun rfl rfl rfl hnone⟩
  | reaped =>
    cases habout
    obtain rfl := h.owes.part
    exact ⟨_, .reaped, h.go nofun rfl rfl rfl rfl⟩
  | reported =>
    cases habout
    obtain rfl := h.owes.report
    exact ⟨_, .reported, h.go nofun rfl rfl rfl rfl⟩
  | passed =>
    cases habout
    obtain rfl := h.owes.judge
    exact ⟨_, .judged, h.go nofun rfl rfl rfl (.inl rfl)⟩
  | stopped =>
    cases habout
    obtain rfl := h.owes.judge
    exact ⟨_, .judged, h.go nofun rfl rfl rfl (.inr ⟨_, rfl⟩)⟩
  | settled =>
    cases habout
    obtain ⟨termination, verdict, rfl⟩ := h.owes.settle
    exact ⟨_, .settled, h.go nofun rfl rfl rfl (by simp [Owes])⟩

/-- A trail tells the story of every task. -/
theorem Trail.story (hids : ids.Nodup) (h : Trail tasks limit (start ids) events ledger) (id : TaskId) :
    ∃ life, Story id events life ∧ life.Stands ledger id := by
  induction h with
  | nil => exact ⟨.queued, .nil, fun _ => rfl, by simp [start, isAlive], nofun⟩
  | @snoc events ledger event next trail step ih =>
    obtain ⟨life, story, hstands⟩ := ih
    by_cases habout : event.task? = some id
    · obtain ⟨life', hlife, hstands⟩ := step.lives habout (trail.nodup hids) hstands
      exact ⟨life', story.snoc hlife, hstands⟩
    · exact ⟨life, story.other habout, step.others habout hstands⟩

end Ledger

end BatchRunner
