import BatchRunner.Proofs.Queue.Telling

/-!
# Failures and the result of a run

Some events are failures: a process that could not be started, a wait for output or a reading that failed,
an end that could not be learnt, and a stopping verdict. What is recorded in a run is exactly what its
failures give cause to, in order (`Ledger.Trail.recorded_append_owed`), and the first error that is recorded
is held to the end (`Ledger.Trail.held_eq`). So a run succeeds exactly if nothing in it was a failure, and
otherwise gives the error of its first failure (`Queue.result_of_failures`).
-/

namespace BatchRunner

/-- Whether an event is a failure, or a verdict that stops the batch. -/
def RunEvent.isFailure : RunEvent → Bool
  | spawnFailed .. | watchFailed _ | readFailed .. | lost .. => true
  | judged _ _ verdict => verdict.isStop
  | settled _ cut => cut.isSome
  | _ => false

namespace Ledger

open RunEvent

variable {κ : Type} {tasks : List (Task κ)} {limit : Nat} {ledger next : Ledger} {event : RunEvent}
  {events : List RunEvent} {ids : List TaskId}

/-- What is recorded is what the failures gave cause to, in order, but for what is still to be recorded. -/
theorem Trail.recorded_append_owed (h : Trail tasks limit (start ids) events ledger) :
    events.filterMap recorded? ++ ledger.duty.owed = events.flatMap (failures tasks) := by
  induction h with
  | nil => rfl
  | snoc trail step ih =>
    rw [List.flatMap_append, ← ih, List.filterMap_append, List.append_assoc, List.append_assoc]
    congr 1
    cases step with
    | stopped herror => simp [recorded?, Duty.owed, failures, Verdict.isStop, herror]
    | settled =>
      rw [Duty.owed_ofCut]
      exact (List.append_nil _).symm
    | _ => rfl

/-- The first error that was recorded is held. -/
theorem Trail.held_eq (h : Trail tasks limit (start ids) events ledger) :
    ledger.held = (events.filterMap recorded?).head? := by
  induction h with
  | nil => rfl
  | snoc trail step ih =>
    rw [List.filterMap_append, List.head?_append, ← ih]
    cases step with
    | @recordedStop queued alive held id error => cases held <;> rfl
    | @recorded queued alive held watched error => cases held <;> rfl
    | _ => exact (Option.or_none).symm

/-- Exactly the failures give cause to record an error. -/
theorem Step.failures_eq_nil_iff (step : Step tasks limit ledger event next) :
    event.failures tasks = [] ↔ event.isFailure = false := by
  cases step with
  | stopped herror => simp [failures, isFailure, Verdict.isStop, herror]
  | @settled queued alive held id cut => cases cut <;> simp [failures, isFailure]
  | _ => simp [failures, isFailure, Verdict.isStop]

/-- What is left of a task is settled after its end was judged, and only if its end was learnt. -/
theorem Trail.judged_of_settled {before after : List RunEvent} {id : TaskId} {cut : Option Error}
    (hids : ids.Nodup) (h : Trail tasks limit (start ids) (before ++ .settled id cut :: after) ledger) :
    (∃ termination verdict, .judged id termination verdict ∈ before) ∧
      ∀ error cut, .lost id error cut ∉ before := by
  obtain ⟨_, _, hbefore, hstep, -⟩ := h.at
  obtain ⟨life, story, hstands⟩ := hbefore.story hids id
  cases hstep with
  | settled =>
    obtain ⟨termination, verdict, rfl⟩ := hstands.owes.settle
    have hjudged : .judged id termination verdict ∈ tellings id before := by
      rw [story.tellings_eq]
      simp [Life.told]
    refine ⟨⟨termination, verdict, List.mem_of_mem_filter hjudged⟩, fun error cut hlost => ?_⟩
    cases story.lost_mem_iff.1 ⟨error, cut, hlost⟩

theorem Trail.failures_eq_nil_iff (h : Trail tasks limit (start ids) events ledger) :
    events.flatMap (failures tasks) = [] ↔ ∀ event ∈ events, event.isFailure = false := by
  rw [List.flatMap_eq_nil_iff]
  refine forall₂_congr fun event hmem => ?_
  obtain ⟨before, after, rfl⟩ := List.append_of_mem hmem
  obtain ⟨_, _, -, hstep, -⟩ := h.at
  exact hstep.failures_eq_nil_iff

end Ledger

namespace Queue

variable {κ W : Type} {queue : Queue κ} {host : Host W} {hooks : Hooks κ W} {fuel : Nat} {w : W}
  {outcome : BatchOutcome κ W}

theorem result_of_executeLocally (h : queue.executeLocally host hooks fuel w = .ok outcome) :
    outcome.result = resultOf (queue.reached host hooks fuel w).held := by
  rw [(runLocally_of_executeLocally h).2]
  rfl

theorem resultOf_eq_ok_iff {held : Option Error} : resultOf held = .ok () ↔ held = none := by
  cases held <;> simp [resultOf]

theorem resultOf_eq_error_iff {held : Option Error} {error : Error} :
    resultOf held = .error error ↔ held = some error := by
  cases held <;> simp [resultOf]

/-- A run without failures starts, reaps and reports every task. -/
theorem all_reported (hids : (queue.pending.map (·.id)).Nodup)
    (h : queue.executeLocally host hooks fuel w = .ok outcome)
    (hnone : ∀ event ∈ queue.events host hooks fuel w, event.isFailure = false)
    (hpending : (queue.reached host hooks fuel w).pending = []) {task : Task κ}
    (hmem : task ∈ queue.pending) :
    .spawned task.id ∈ queue.events host hooks fuel w ∧
      ∃ termination verdict, .reaped task.id termination ∈ queue.events host hooks fuel w ∧
        RunEvent.tellings task.id (queue.events host hooks fuel w) =
          [.began task.id, .reported task.id, .judged task.id termination verdict] := by
  obtain ⟨⟨watched, trail⟩, -⟩ := ended_trail hids h
  have hattempted := trail.attempted_append_queued
  rw [hpending, List.map_nil, List.append_nil] at hattempted
  have hid : task.id ∈ (queue.events host hooks fuel w).filterMap RunEvent.attempted? := by
    rw [hattempted]
    exact List.mem_map_of_mem hmem
  obtain ⟨event, hevent, hattempt⟩ := List.mem_filterMap.1 hid
  have hspawned : .spawned task.id ∈ queue.events host hooks fuel w := by
    cases event with
    | spawned id =>
      cases hattempt
      exact hevent
    | spawnFailed id error => cases hnone _ hevent
    | _ => cases hattempt
  refine ⟨hspawned, ?_⟩
  rcases reaped_or_lost hids h hspawned with ⟨termination, hreaped⟩ | ⟨error, cut, hlost⟩
  · obtain ⟨verdict, htold⟩ := (events_toldOnce hids host hooks fuel w).reaped _ _ hreaped
    exact ⟨termination, verdict, hreaped, htold⟩
  · cases hnone _ hlost

/-- A run succeeds exactly if nothing in it was a failure, and then every task was started, reaped and
reported. Otherwise it gives the first error that was recorded, of those that its failures gave cause to, in
order: the failure to learn an end in place of that of the last reading, and a stopping verdict before it. -/
theorem result_of_failures (hids : (queue.pending.map (·.id)).Nodup)
    (h : queue.executeLocally host hooks fuel w = .ok outcome) :
    (outcome.result = .ok () ↔ ∀ event ∈ outcome.history, event.isFailure = false) ∧
      (outcome.result = .ok () → outcome.queue.stats.dropped = 0 ∧ ∀ task ∈ queue.pending,
        .spawned task.id ∈ outcome.history ∧ ∃ termination verdict,
          .reaped task.id termination ∈ outcome.history ∧ RunEvent.tellings task.id outcome.history =
            [.began task.id, .reported task.id, .judged task.id termination verdict]) ∧
      (∀ error, outcome.result = .error error ↔
        (outcome.history.filterMap RunEvent.recorded?).head? = some error) ∧
      outcome.history.filterMap RunEvent.recorded? =
        outcome.history.flatMap (RunEvent.failures queue.pending) ∧
      ∀ before id cut after, outcome.history = before ++ .settled id cut :: after →
        (∃ termination verdict, .judged id termination verdict ∈ before) ∧
          ∀ error cut, .lost id error cut ∉ before := by
  obtain ⟨⟨watched, trail⟩, hended⟩ := ended_trail hids h
  rw [history_of_executeLocally h, result_of_executeLocally h]
  have hrecorded := trail.recorded_append_owed
  rw [show (Duty.free).owed = [] from rfl, List.append_nil] at hrecorded
  have hheld : (queue.reached host hooks fuel w).held =
      ((queue.events host hooks fuel w).filterMap RunEvent.recorded?).head? := trail.held_eq
  have hok : (queue.reached host hooks fuel w).held = none ↔
      ∀ event ∈ queue.events host hooks fuel w, event.isFailure = false := by
    rw [hheld, List.head?_eq_none_iff, hrecorded]
    exact trail.failures_eq_nil_iff
  refine ⟨resultOf_eq_ok_iff.trans hok, fun hresult => ?_, fun error => ?_, hrecorded,
    fun before id cut after hevents => ?_⟩
  · have hnone := resultOf_eq_ok_iff.1 hresult
    have hpending : (queue.reached host hooks fuel w).pending = [] :=
      hended.pending.resolve_right (by simp [hnone])
    refine ⟨?_, fun task hmem => all_reported hids h (hok.1 hnone) hpending hmem⟩
    rw [(runLocally_of_executeLocally h).2]
    exact congrArg List.length hpending
  · rw [resultOf_eq_error_iff, hheld]
  · rw [hevents] at trail
    exact trail.judged_of_settled hids

/-- Of three tasks, two at once, the first exits with three, which stops the batch, and the end of the second
cannot be learnt; the result stays that of the first. -/
theorem result_of_failures_of_stop :
    let queue := Queue.plain 2 ["first", "second", "third"]
    let host := Host.prompt fun pid => if pid = 2 then .error (.kind .deadlock) else .ok 3
    let outcome := queue.outcome (queue.reached host .plain 9 0)
    (queue.pending.map (·.id)).Nodup ∧ queue.executeLocally host .plain 9 0 = .ok outcome ∧
      outcome.history.filterMap RunEvent.recorded? =
        [.stopped "'first' exited with code 3", .wait 2 (.kind .deadlock)] ∧
      outcome.result = .error (.stopped "'first' exited with code 3") ∧
      ∃ event ∈ outcome.history, event.isFailure = true := by
  intro queue host outcome
  have hids : (queue.pending.map (·.id)).Nodup := by decide
  have hok : queue.executeLocally host .plain 9 0 = .ok outcome := executeLocally_of_isOk (by decide +kernel)
  obtain ⟨hsuccess, -, herror, -, -⟩ := result_of_failures hids hok
  have hrecorded : outcome.history.filterMap RunEvent.recorded? =
      [.stopped "'first' exited with code 3", .wait 2 (.kind .deadlock)] := by decide +kernel
  have hresult := (herror _).2 (by rw [hrecorded]; rfl)
  refine ⟨hids, hok, hrecorded, hresult, ?_⟩
  by_contra hnone
  have hquiet : ∀ event ∈ outcome.history, event.isFailure = false := by
    intro event hmem
    exact Bool.eq_false_iff.2 fun hfailure => hnone ⟨event, hmem, hfailure⟩
  rw [hsuccess.2 hquiet] at hresult
  cases hresult

end Queue

end BatchRunner
