import BatchRunner.Proofs.Queue.Closing
import BatchRunner.Proofs.Queue.Counting
import Mathlib.Data.List.TakeWhile

/-!
# How many tasks run at once

Never are more tasks alive than the limit allows, and when output is waited for, no room is left that a queued
task could take (`Ledger.Trail.busy_of_waiting`). Most tasks are alive just before output is first waited for:
later ones only take the places of those that left. So the count of that moment is the peak
(`Ledger.Trail.mostAlive_firstRound`), and without a failure to start a task it is the limit, or the number
of tasks if that is less.
-/

namespace BatchRunner

namespace RunEvent

/-- What happens before output is first waited for. -/
def firstRound (events : List RunEvent) : List RunEvent := events.takeWhile fun event => !event.isWaiting

/-- How many processes are started before output is first waited for. -/
def firstSpawned (events : List RunEvent) : Nat := ((firstRound events).filterMap spawned?).length

variable {events rest : List RunEvent} {event : RunEvent}

theorem firstRound_of_waiting (h : events.any isWaiting = true) (rest : List RunEvent) :
    firstRound (events ++ rest) = firstRound events := by
  induction events with
  | nil => cases h
  | cons event events ih =>
    simp only [firstRound, List.cons_append, List.takeWhile_cons]
    cases hwaiting : event.isWaiting with
    | true => rfl
    | false =>
      rw [List.any_cons, hwaiting, Bool.false_or] at h
      exact congrArg (event :: ·) (ih h)

theorem firstRound_append (h : events.any isWaiting = false) (rest : List RunEvent) :
    firstRound (events ++ rest) = events ++ firstRound rest := by
  refine List.takeWhile_append_of_pos fun event hmem => ?_
  rw [Bool.eq_false_iff.2 (List.any_eq_false.1 h event hmem)]
  rfl

theorem firstSpawned_le (events rest : List RunEvent) :
    firstSpawned events ≤ firstSpawned (events ++ rest) := by
  cases hwaits : events.any isWaiting with
  | true => rw [firstSpawned, firstSpawned, firstRound_of_waiting hwaits]
  | false =>
    have hself := firstRound_append hwaits []
    rw [List.append_nil, show firstRound [] = [] from rfl, List.append_nil] at hself
    rw [firstSpawned, firstSpawned, firstRound_append hwaits, hself, List.filterMap_append,
      List.length_append]
    exact Nat.le_add_right ..

theorem firstRound_split (events : List RunEvent) :
    events = firstRound events ++ events.dropWhile fun event => !event.isWaiting :=
  List.takeWhile_append_dropWhile.symm

theorem any_isWaiting_firstRound (events : List RunEvent) : (firstRound events).any isWaiting = false := by
  refine List.any_eq_false.2 fun event hmem => ?_
  have hnot := List.mem_takeWhile_imp hmem
  simpa using hnot

/-- There is one count that is the most. -/
theorem MostAlive.unique {count count' : Nat} (h : MostAlive events count) (h' : MostAlive events count') :
    count = count' := by
  obtain ⟨hle, before, after, hsplit, hcount⟩ := h
  obtain ⟨hle', before', after', hsplit', hcount'⟩ := h'
  refine Nat.le_antisymm ?_ ?_
  · rw [← hcount]
    exact hle' before after hsplit
  · rw [← hcount']
    exact hle before' after' hsplit'

end RunEvent

namespace Ledger

open RunEvent

variable {κ : Type} {tasks : List (Task κ)} {limit : Nat} {first last ledger next : Ledger} {event : RunEvent}
  {events before after : List RunEvent} {ids : List TaskId}

theorem Trail.watched_eq (h : Trail tasks limit (start ids) events ledger) :
    ledger.watched = events.any isWaiting := by
  induction h with
  | nil => rfl
  | snoc trail step ih =>
    rw [List.any_append, ← ih]
    cases step <;> simp [isWaiting]

/-- Never are more tasks alive than the limit allows. -/
theorem Trail.alive_le (h : Trail tasks limit (start ids) events ledger) : ledger.alive.length ≤ limit := by
  induction h with
  | nil => exact Nat.zero_le _
  | snoc trail step ih =>
    cases step with
    | spawned hheld hroom =>
      rw [List.length_append, List.length_singleton]
      exact hroom
    | retiring => exact Nat.le_trans (List.length_filter_le ..) ih
    | _ => exact ih

/-- Before output is first waited for, no task leaves. -/
theorem Trail.alive_of_unwatched (h : Trail tasks limit (start ids) events ledger)
    (hwatched : ledger.watched = false) : ledger.alive = events.filterMap spawned? := by
  induction h with
  | nil => rfl
  | snoc trail step ih =>
    rw [List.filterMap_append]
    cases step with
    | spawned => rw [← ih hwatched]; rfl
    | spawnFailed | began | recorded => rw [← ih hwatched]; exact (List.append_nil _).symm
    | _ => cases hwatched

theorem Trail.firstRound_of_unwatched (h : Trail tasks limit (start ids) events ledger)
    (hwatched : ledger.watched = false) (rest : List RunEvent) :
    firstRound (events ++ rest) = events ++ firstRound rest :=
  firstRound_append (h.watched_eq ▸ hwatched) rest

theorem Trail.firstSpawned_of_unwatched (h : Trail tasks limit (start ids) events ledger)
    (hwatched : ledger.watched = false) : firstSpawned events = ledger.alive.length := by
  have hself := h.firstRound_of_unwatched hwatched []
  rw [List.append_nil, show firstRound [] = [] from rfl, List.append_nil] at hself
  rw [firstSpawned, hself, h.alive_of_unwatched hwatched]

/-- Once output was waited for, a task can only take the place of one that left. -/
theorem Step.places (step : Step tasks limit ledger event next) {places : Nat}
    (hle : ledger.alive.length ≤ places) (hfull : limit ≤ places ∨ ledger.queued = [] ∨ ledger.Closed) :
    next.alive.length ≤ places ∧ (limit ≤ places ∨ next.queued = [] ∨ next.Closed) := by
  rcases hfull with hlimit | hqueued | hclosed
  · refine ⟨?_, .inl hlimit⟩
    cases step with
    | spawned hheld hroom =>
      rw [List.length_append, List.length_singleton]
      exact Nat.le_trans hroom hlimit
    | retiring => exact Nat.le_trans (List.length_filter_le ..) hle
    | _ => exact hle
  · cases step with
    | spawned | spawnFailed => cases hqueued
    | retiring => exact ⟨Nat.le_trans (List.length_filter_le ..) hle, .inr (.inl hqueued)⟩
    | _ => exact ⟨hle, .inr (.inl hqueued)⟩
  · obtain ⟨hnext, hquiet, -⟩ := step.closed hclosed
    refine ⟨?_, .inr (.inr hnext)⟩
    cases step with
    | spawned => cases hquiet
    | retiring => exact Nat.le_trans (List.length_filter_le ..) hle
    | _ => exact hle

/-- No more tasks are ever alive than were started before output was first waited for. -/
theorem Trail.alive_le_firstSpawned (h : Trail tasks limit (start ids) events ledger) :
    ledger.alive.length ≤ firstSpawned events ∧
      (ledger.watched = true → limit ≤ firstSpawned events ∨ ledger.queued = [] ∨ ledger.Closed) := by
  induction h with
  | nil => exact ⟨Nat.zero_le _, nofun⟩
  | @snoc events ledger event next trail step ih =>
    have hnext := trail.snoc step
    cases hwatched : ledger.watched with
    | true =>
      have hsame : firstSpawned (events ++ [event]) = firstSpawned events := by
        rw [firstSpawned, firstRound_of_waiting (trail.watched_eq ▸ hwatched), firstSpawned]
      obtain ⟨hle, hfull⟩ := step.places ih.1 (ih.2 hwatched)
      rw [hsame]
      exact ⟨hle, fun _ => hfull⟩
    | false =>
      cases hwaits : next.watched with
      | false => exact ⟨Nat.le_of_eq (hnext.firstSpawned_of_unwatched hwaits).symm, nofun⟩
      | true =>
        cases step with
        | @waiting queued alive held watched watch pids hsome hbusy =>
          have hsame : firstSpawned (events ++ [.waiting watch alive pids queued.length held.isSome]) =
              alive.length := by
            rw [firstSpawned, trail.firstRound_of_unwatched hwatched, firstRound,
              List.takeWhile_cons_of_neg (by simp [isWaiting]), List.append_nil,
              ← trail.alive_of_unwatched hwatched]
          rw [hsame]
          exact ⟨Nat.le_refl _, fun _ => hbusy.imp_right (Or.imp_right fun hheld => .inr ⟨hheld, rfl⟩)⟩
        | _ => cases hwatched.symm.trans hwaits

/-- The peak is reached just before output is first waited for. -/
theorem Trail.mostAlive_firstSpawned (h : Trail tasks limit (start ids) events ledger) :
    MostAlive events (firstSpawned events) := by
  refine ⟨fun before after hsplit => ?_, firstRound events, _, firstRound_split events, ?_⟩
  · obtain ⟨between, hbefore, -⟩ := h.split hsplit
    rw [hbefore.alive_eq, hsplit]
    exact Nat.le_trans hbefore.alive_le_firstSpawned.1 (firstSpawned_le before after)
  · obtain ⟨between, hfirst, -⟩ := h.split (firstRound_split events)
    have hwatched : between.watched = false := hfirst.watched_eq.trans (any_isWaiting_firstRound events)
    rw [firstSpawned, ← hfirst.alive_of_unwatched hwatched]
    exact congrArg List.length hfirst.alive_eq

/-- Before output is first waited for, only a process that cannot be started is a failure. -/
theorem Trail.held_of_unwatched (h : Trail tasks limit (start ids) events ledger)
    (hwatched : ledger.watched = false) (hnone : events.filterMap refused? = []) :
    ledger.held = none ∧ ¬ ledger.Closed := by
  induction h with
  | nil => exact ⟨rfl, by simp [start, Closed, Duty.owed]⟩
  | snoc trail step ih =>
    rw [List.filterMap_append] at hnone
    obtain ⟨hbefore, hlast⟩ := List.append_eq_nil_iff.1 hnone
    cases step with
    | spawned hheld => exact ⟨hheld, by simp [Closed, Duty.owed, hheld]⟩
    | spawnFailed => cases hlast
    | began =>
      obtain ⟨hheld, -⟩ := ih hwatched hbefore
      exact ⟨hheld, by simp_all [Closed, Duty.owed]⟩
    | recorded => exact absurd (.inl (by simp [Duty.owed])) (ih hwatched hbefore).2
    | _ => cases hwatched

/-- When output is waited for, the places are taken, or no task is queued, or an error is held. -/
theorem Trail.busy_of_waiting {watch : ReadinessSet} {executing : List TaskId} {pids : List (Pid × TaskId)}
    {queued : Nat} {stopped : Bool}
    (h : Trail tasks limit (start ids)
      (before ++ .waiting watch executing pids queued stopped :: after) last) :
    executing = RunEvent.alive before ∧ (before.filterMap attempted?).length + queued = ids.length ∧
      (stopped = true ↔ before.filterMap recorded? ≠ []) ∧
      (executing.length = limit ∨ queued = 0 ∨ stopped = true) := by
  obtain ⟨_, _, hbefore, hstep, -⟩ := h.at
  cases hstep with
  | @waiting queued alive held watched watch pids hsome hbusy =>
    refine ⟨hbefore.alive_eq.symm, ?_, ?_, ?_⟩
    · rw [← List.length_append, hbefore.attempted_append_queued]
    · rw [Option.isSome_iff_ne_none, show held = _ from hbefore.held_eq, ne_eq, List.head?_eq_none_iff]
    · rcases hbusy with hfull | hnil | hheld
      · exact .inl (Nat.le_antisymm hbefore.alive_le hfull)
      · exact .inr (.inl (by rw [hnil, List.length_nil]))
      · exact .inr (.inr hheld)

/-- If no process failed to start before output was first waited for, then as many were started as the limit
and the number of tasks allow, unless the run is still about to start one. -/
theorem Trail.firstSpawned_eq (h : Trail tasks limit (start ids) events last)
    (hrefused : (firstRound events).filterMap refused? = [])
    (hlast : last.watched = true ∨ last.queued = [] ∨ last.held.isSome = true) :
    firstSpawned events = min limit ids.length := by
  obtain ⟨between, hfirst, hrest⟩ := h.split (firstRound_split events)
  have hwatched : between.watched = false := hfirst.watched_eq.trans (any_isWaiting_firstRound events)
  have hcount : firstSpawned events = between.alive.length := by
    rw [firstSpawned, hfirst.alive_of_unwatched hwatched]
  have htaken : between.alive.length + between.queued.length = ids.length := by
    rw [← hfirst.attempted_append_queued, hfirst.attempted_eq.1, hrefused, List.append_nil,
      List.length_append, hfirst.alive_of_unwatched hwatched]
  have hheld := (hfirst.held_of_unwatched hwatched hrefused).1
  have hfull : limit ≤ between.alive.length ∨ between.queued = [] := by
    cases hlater : events.dropWhile fun event => !event.isWaiting with
    | nil =>
      rw [hlater] at hrest
      rw [hrest.nil_inv, hwatched, hheld] at hlast
      exact .inr (by simpa using hlast)
    | cons event later =>
      have hwaits : event.isWaiting = true := by
        have hhead := List.head?_dropWhile_not (fun event => !event.isWaiting) events
        simpa [hlater] using hhead
      rw [hlater] at hrest
      obtain ⟨next, hstep, -⟩ := hrest.cons_inv
      cases hstep with
      | @waiting queued alive held watched watch pids hsome hbusy =>
        obtain rfl : held = none := hheld
        exact hbusy.imp_right fun h => h.resolve_right nofun
      | _ => cases hwaits
  have hle := hfirst.alive_le
  rcases hfull with hlimit | hnil
  · omega
  · rw [hnil, List.length_nil] at htaken
    omega

end Ledger

namespace Queue

variable {κ W : Type} {queue : Queue κ}

/-- Never do more tasks run at once than the limit; when output is waited for no place is left idle; and the
peak that is counted is the most tasks that ever ran at once, which is the limit or the number of tasks,
unless a process cannot be started before output is first waited for: then it is the number that were. -/
theorem runs_at_limit (hids : (queue.pending.map (·.id)).Nodup) (host : Host W) (hooks : Hooks κ W)
    (fuel : Nat) (w : W) :
    let limit := max 1 queue.options.parallelism
    let run := queue.reached host hooks fuel w
    let events := queue.events host hooks fuel w
    (∀ before after, events = before ++ after → (RunEvent.alive before).length ≤ limit) ∧
      (∀ before watch executing pids queued stopped after,
        events = before ++ .waiting watch executing pids queued stopped :: after →
          executing = RunEvent.alive before ∧
          (before.filterMap RunEvent.attempted?).length + queued = queue.pending.length ∧
          (stopped = true ↔ before.filterMap RunEvent.recorded? ≠ []) ∧
          (executing.length = limit ∨ queued = 0 ∨ stopped = true)) ∧
      RunEvent.MostAlive events run.stats.peakExecuting ∧
      ∀ outcome, queue.executeLocally host hooks fuel w = .ok outcome →
        outcome.history = events ∧ outcome.queue.stats.peakExecuting = run.stats.peakExecuting ∧
          ((∀ id error, .spawnFailed id error ∉ RunEvent.firstRound events) →
            run.stats.peakExecuting = min limit queue.pending.length) ∧
          ((∃ id error, .spawnFailed id error ∈ RunEvent.firstRound events) →
            run.stats.peakExecuting = ((RunEvent.firstRound events).filterMap RunEvent.spawned?).length) := by
  intro limit run events
  have hlimit : queue.limit = limit := Nat.max_comm ..
  obtain ⟨phase, watched, trail⟩ := reached_trail hids host hooks fuel w
  rw [hlimit] at trail
  have hcounted := reached_counted hids host hooks fuel w
  have hpeak : run.stats.peakExecuting = RunEvent.firstSpawned events :=
    hcounted.peak.unique trail.mostAlive_firstSpawned
  refine ⟨fun before after hsplit => ?_, fun before watch executing pids queued stopped after hsplit => ?_,
    hcounted.peak, fun outcome hok => ⟨history_of_executeLocally hok, ?_, fun hstarted => ?_, fun _ => hpeak⟩⟩
  · obtain ⟨between, hbefore, -⟩ := trail.split hsplit
    rw [hbefore.alive_eq]
    exact hbefore.alive_le
  · rw [show queue.events host hooks fuel w = _ from hsplit] at trail
    have hbusy := trail.busy_of_waiting
    rw [List.length_map] at hbusy
    exact hbusy
  · rw [(runLocally_of_executeLocally hok).2]
    rfl
  · obtain ⟨⟨watched, hended⟩, hlast⟩ := ended_trail hids hok
    have hrefused : (RunEvent.firstRound events).filterMap RunEvent.refused? = [] := by
      refine List.filterMap_eq_nil_iff.2 fun event hmem => ?_
      cases event with
      | spawnFailed id error => exact absurd hmem (hstarted id error)
      | _ => rfl
    rw [hlimit] at hended
    have hover : (queue.reached host hooks fuel w).pending.map (·.id) = [] ∨
        (queue.reached host hooks fuel w).held.isSome = true :=
      hlast.pending.imp_left fun hnil => by rw [hnil, List.map_nil]
    rw [hpeak, hended.firstSpawned_eq hrefused (.inr hover), List.length_map]

/-- Of three tasks, two at once, two run at once. -/
theorem runs_at_limit_of_three :
    let queue := Queue.plain 2 ["first", "second", "third"]
    let host := Host.prompt fun _ => .ok 0
    (queue.pending.map (·.id)).Nodup ∧
      queue.executeLocally host .plain 9 0 = .ok (queue.outcome (queue.reached host .plain 9 0)) ∧
      (∀ id error, .spawnFailed id error ∉ RunEvent.firstRound (queue.events host .plain 9 0)) ∧
      (queue.reached host .plain 9 0).stats.peakExecuting =
        min (max 1 queue.options.parallelism) queue.pending.length ∧
      RunEvent.MostAlive (queue.events host .plain 9 0) 2 := by
  intro queue host
  have hids : (queue.pending.map (·.id)).Nodup := by decide
  have hok : queue.executeLocally host .plain 9 0 = .ok (queue.outcome (queue.reached host .plain 9 0)) :=
    executeLocally_of_isOk (by decide +kernel)
  have hstarted : ∀ id error, .spawnFailed id error ∉ RunEvent.firstRound (queue.events host .plain 9 0) := by
    intro id error hmem
    have hnone : (RunEvent.firstRound (queue.events host .plain 9 0)).filterMap RunEvent.refused? = [] := by
      decide +kernel
    cases List.filterMap_eq_nil_iff.1 hnone _ hmem
  obtain ⟨-, -, hpeak, hended⟩ := runs_at_limit hids host .plain 9 0
  obtain ⟨-, -, hlimit, -⟩ := hended _ hok
  have hcount : (queue.reached host .plain 9 0).stats.peakExecuting = 2 := by decide +kernel
  rw [hcount] at hpeak
  exact ⟨hids, hok, hstarted, hlimit hstarted, hpeak⟩

end Queue

end BatchRunner
