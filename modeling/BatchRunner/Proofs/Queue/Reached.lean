import BatchRunner.Proofs.Queue.Tracking

/-!
# What the run of a queue comes to

A run of a queue ends, or it is interrupted because a call on the host gives no answer or because it is not
allowed enough steps. The run as far as it came is `Queue.reached`; its history keeps to the law either way
(`reached_trail`). If the run ends, its outcome is that of the run that was reached, no task is alive, and
none is left queued unless an error is held (`ended_trail`).

The identifiers of queued tasks are taken to be distinct, as fresh ones are: tasks are kept under them.
-/

namespace BatchRunner.Queue

open Run

variable {κ W : Type}

/-- What the runs of a queue are made with. -/
def setting (queue : Queue κ) (host : Host W) (hooks : Hooks κ W) (fuel : Nat) : RunSetting κ W :=
  ⟨host, hooks, queue.options, queue.source, fuel⟩

/-- The run of a local queue as far as it came. -/
def reached (queue : Queue κ) (host : Host W) (hooks : Hooks κ W) (fuel : Nat) (w : W) : Run κ W :=
  match queue.runLocally host hooks fuel w with
  | .ok run => run
  | .error interrupted => interrupted.run

/-- What happened in the run of a local queue, in order, as far as it came. -/
def events (queue : Queue κ) (host : Host W) (hooks : Hooks κ W) (fuel : Nat) (w : W) : List RunEvent :=
  (queue.reached host hooks fuel w).history.reverse

variable {queue : Queue κ} {host : Host W} {hooks : Hooks κ W} {fuel : Nat} {w : W}
  {outcome : BatchOutcome κ W}

/-- A run that ends is the one that was reached. -/
theorem runLocally_of_executeLocally (h : queue.executeLocally host hooks fuel w = .ok outcome) :
    queue.runLocally host hooks fuel w = .ok (queue.reached host hooks fuel w) ∧
      outcome = queue.outcome (queue.reached host hooks fuel w) := by
  unfold executeLocally at h
  cases hrun : queue.runLocally host hooks fuel w with
  | error interrupted =>
    rw [hrun] at h
    cases h
  | ok run =>
    rw [hrun] at h
    cases h
    rw [reached, hrun]
    exact ⟨rfl, rfl⟩

/-- A run that gives an answer ends with the outcome of the run that was reached. -/
theorem executeLocally_of_isOk (h : (queue.runLocally host hooks fuel w).isOk = true) :
    queue.executeLocally host hooks fuel w = .ok (queue.outcome (queue.reached host hooks fuel w)) := by
  unfold executeLocally reached
  cases hrun : queue.runLocally host hooks fuel w with
  | error interrupted =>
    rw [hrun] at h
    cases h
  | ok run => rfl

theorem history_of_executeLocally (h : queue.executeLocally host hooks fuel w = .ok outcome) :
    outcome.history = queue.events host hooks fuel w := by
  rw [(runLocally_of_executeLocally h).2]
  rfl

/-- The run that was reached was reached by moves. -/
theorem reached_moves (queue : Queue κ) (host : Host W) (hooks : Hooks κ W) (fuel : Nat) (w : W) :
    ∃ phase, Moves (queue.setting host hooks fuel) ⟨.admitting, .start queue.pending w⟩
      ⟨phase, queue.reached host hooks fuel w⟩ := by
  have hleads := queue.runLocally_leads host hooks fuel w
  unfold reached
  cases hrun : queue.runLocally host hooks fuel w with
  | error interrupted =>
    rw [hrun] at hleads
    obtain ⟨⟨phase, run⟩, hmoves, hlast⟩ := hleads
    obtain rfl : run = interrupted.run := hlast
    exact ⟨phase, hmoves⟩
  | ok run =>
    rw [hrun] at hleads
    obtain ⟨last, hmoves, hlast, -⟩ := hleads
    rcases hlast with rfl | rfl
    · exact ⟨_, hmoves⟩
    · exact ⟨_, hmoves⟩

/-- The history of a run is a trail, however far it came. -/
theorem reached_trail (hids : (queue.pending.map (·.id)).Nodup) (host : Host W) (hooks : Hooks κ W)
    (fuel : Nat) (w : W) :
    ∃ phase watched, Ledger.Trail queue.pending queue.limit (.start (queue.pending.map (·.id)))
      (queue.events host hooks fuel w) (Moment.ledger ⟨phase, queue.reached host hooks fuel w⟩ watched) := by
  obtain ⟨phase, hmoves⟩ := queue.reached_moves host hooks fuel w
  obtain ⟨-, watched, -, trail⟩ := hmoves.tracked hids (sound_start w) (tracked_start _ w)
  exact ⟨phase, watched, trail⟩

/-- The history of a run that ended is a trail to a ledger on which no task is alive. -/
theorem ended_trail (hids : (queue.pending.map (·.id)).Nodup)
    (h : queue.executeLocally host hooks fuel w = .ok outcome) :
    (∃ watched, Ledger.Trail queue.pending queue.limit (.start (queue.pending.map (·.id)))
      (queue.events host hooks fuel w)
      ⟨(queue.reached host hooks fuel w).pending.map (·.id), [],
        (queue.reached host hooks fuel w).held, watched, .free⟩) ∧
      (queue.reached host hooks fuel w).Ended := by
  have hleads := queue.runLocally_leads host hooks fuel w
  rw [(runLocally_of_executeLocally h).1] at hleads
  obtain ⟨last, hmoves, hlast, hended⟩ := hleads
  obtain ⟨-, watched, -, trail⟩ := Moves.tracked hids hmoves (sound_start w) (tracked_start _ w)
  have hids' : (queue.reached host hooks fuel w).ids = [] := List.map_eq_nil_iff.2 hended.executing
  refine ⟨⟨watched, ?_⟩, hended⟩
  rcases hlast with rfl | rfl
  · rw [Moment.ledger, hids'] at trail
    exact trail
  · rw [Moment.ledger, hids'] at trail
    exact trail

end BatchRunner.Queue
