import BatchRunner.Proofs.Queue.Failures

/-!
# After the first failure

Once a failure is to be recorded, or an error is held, a run is closed (`Ledger.Closed`): no further process
is started and no further task begins, however long the run goes on (`Ledger.Trail.closed`). So at most one
task is taken from the queue without being started. The tasks that are alive leave all the same: a task that
is alive at some point and not at a later one was taken out in between (`Ledger.Trail.retiring_of_alive`).
-/

namespace BatchRunner

/-- The task whose process could not be started. -/
def RunEvent.refused? : RunEvent → Option TaskId
  | spawnFailed id _ => some id
  | _ => none

/-- The task that is to be told of as begun. -/
def Duty.begin? : Duty → Option TaskId
  | begin id => some id
  | _ => none

@[simp] theorem Duty.begin?_ofCut (cut : Option Error) : (ofCut cut).begin? = none := by
  cases cut <;> rfl

namespace Ledger

open RunEvent

variable {κ : Type} {tasks : List (Task κ)} {limit : Nat} {first last ledger next : Ledger} {event : RunEvent}
  {events before after : List RunEvent} {ids : List TaskId} {id : TaskId}

/-- A failure is to be recorded, or an error is held and no task is about to begin. -/
def Closed (ledger : Ledger) : Prop :=
  ledger.duty.owed ≠ [] ∨ ledger.held.isSome = true ∧ ledger.duty.begin? = none

/-- A closed run stays closed and starts no task. -/
theorem Step.closed (step : Step tasks limit ledger event next) (h : ledger.Closed) :
    next.Closed ∧ event.attempted? = none ∧ event.began? = none := by
  cases step with
  | spawned hheld | spawnFailed hheld => simp [Closed, Duty.owed, hheld] at h
  | began => simp [Closed, Duty.owed, Duty.begin?] at h
  | @recordedStop queued alive held id error | @recorded queued alive held watched error =>
    refine ⟨.inr ⟨?_, rfl⟩, rfl, rfl⟩
    cases held <;> rfl
  | stopped | watchFailed | readFailed | lost => exact ⟨.inl (by simp [Duty.owed]), rfl, rfl⟩
  | settled =>
    have hheld := (h.resolve_left (by simp [Duty.owed])).1
    exact ⟨.inr ⟨hheld, Duty.begin?_ofCut _⟩, rfl, rfl⟩
  | waiting | retiring | reaped | reported | passed =>
    have hheld := (h.resolve_left (by simp [Duty.owed])).1
    exact ⟨.inr ⟨hheld, rfl⟩, rfl, rfl⟩

theorem Trail.closed (h : Trail tasks limit first events last) (hfirst : first.Closed) :
    last.Closed ∧ ∀ event ∈ events, event.attempted? = none ∧ event.began? = none := by
  induction h with
  | nil => exact ⟨hfirst, fun _ hmem => absurd hmem List.not_mem_nil⟩
  | snoc trail step ih =>
    obtain ⟨hnext, hquiet⟩ := step.closed ih.1
    refine ⟨hnext, fun event hmem => ?_⟩
    rcases List.mem_append.1 hmem with hold | hlast
    · exact ih.2 event hold
    · rw [List.mem_singleton.1 hlast]
      exact hquiet

/-- A failure closes a run, and so does the recording of an error. -/
theorem Step.closes (step : Step tasks limit ledger event next)
    (h : event.isFailure = true ∨ event.recorded?.isSome = true) : next.Closed := by
  cases step with
  | spawnFailed | watchFailed | readFailed | lost | stopped => exact .inl (by simp [Duty.owed])
  | @settled queued alive held id cut =>
    cases cut with
    | none => simp [isFailure, recorded?] at h
    | some error => exact .inl (by simp [Duty.ofCut, Duty.owed])
  | @recordedStop queued alive held id error | @recorded queued alive held watched error =>
    refine .inr ⟨?_, rfl⟩
    cases held <;> rfl
  | _ => simp [isFailure, recorded?, Verdict.isStop] at h

/-- Nothing is started after a failure. -/
theorem Trail.quiet_after (h : Trail tasks limit first (before ++ event :: after) last)
    (hevent : event.isFailure = true ∨ event.recorded?.isSome = true) :
    ∀ later ∈ after, later.attempted? = none ∧ later.began? = none := by
  obtain ⟨_, _, -, hstep, hafter⟩ := h.at
  exact (hafter.closed (hstep.closes hevent)).2

/-- A task begins when its process was started. -/
theorem Trail.began_append_begin (h : Trail tasks limit (start ids) events ledger) :
    events.filterMap began? ++ ledger.duty.begin?.toList = events.filterMap spawned? := by
  induction h with
  | nil => rfl
  | snoc trail step ih =>
    rw [List.filterMap_append, List.filterMap_append, ← ih, List.append_assoc, List.append_assoc]
    congr 1
    cases step with
    | @settled queued alive held id cut => cases cut <;> rfl
    | _ => rfl

/-- Tasks are taken from the queue to be started, but for the one at most whose process could not be. -/
theorem Trail.attempted_eq (h : Trail tasks limit (start ids) events ledger) :
    events.filterMap attempted? = events.filterMap spawned? ++ events.filterMap refused? ∧
      (events.filterMap refused? = [] ∨ (events.filterMap refused?).length = 1 ∧ ledger.Closed) := by
  induction h with
  | nil => exact ⟨rfl, .inl rfl⟩
  | @snoc events ledger event next trail step ih =>
    obtain ⟨hsame, hclosed⟩ := ih
    rw [List.filterMap_append, List.filterMap_append, List.filterMap_append, hsame]
    cases hattempt : event.attempted? with
    | none =>
      have hspawned : [event].filterMap spawned? = [] := by cases event <;> simp_all [spawned?, attempted?]
      have hrefused : [event].filterMap refused? = [] := by cases event <;> simp_all [refused?, attempted?]
      have hnone : [event].filterMap attempted? = [] := by simp [hattempt]
      rw [hnone, hspawned, hrefused, List.append_nil, List.append_nil, List.append_nil]
      exact ⟨rfl, hclosed.imp_right fun ⟨hone, h⟩ => ⟨hone, (step.closed h).1⟩⟩
    | some id =>
      have hopen : ¬ ledger.Closed := by
        intro h
        rw [(step.closed h).2.1] at hattempt
        cases hattempt
      have hnil := hclosed.resolve_right fun h => hopen h.2
      rw [hnil]
      cases step with
      | spawned => exact ⟨by simp [attempted?, spawned?, refused?], .inl rfl⟩
      | spawnFailed =>
        exact ⟨by simp [attempted?, spawned?, refused?], .inr ⟨rfl, .inl (by simp [Duty.owed])⟩⟩
      | _ => cases hattempt

/-- A task that is no longer alive was taken out. -/
theorem Trail.retiring_of_alive (h : Trail tasks limit first events last) (hid : id ∈ first.alive)
    (hgone : id ∉ last.alive) : .retiring id ∈ events := by
  induction h with
  | nil => exact absurd hid hgone
  | @snoc events ledger event next trail step ih =>
    rw [List.mem_append]
    by_cases hbefore : id ∈ ledger.alive
    · right
      cases step with
      | spawned => simp [hbefore] at hgone
      | @retiring queued alive held id' hid' =>
        obtain rfl : id = id' := by simpa [hbefore] using hgone
        exact List.mem_singleton_self _
      | _ => exact absurd hbefore hgone
    · exact .inl (ih hbefore)

end Ledger

end BatchRunner
