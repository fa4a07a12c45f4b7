import BatchRunner.Decode.Choice

/-!
# Verdicts

What the judge of a finished task says about the rest of the batch.
-/

namespace BatchRunner

/-- What becomes of the batch after a task ended. -/
inductive Verdict where
  /-- Queued tasks are still started. -/
  | proceed
  /-- No further task is started; running ones still finish. -/
  | stop
  deriving DecidableEq, Repr, Inhabited

namespace Verdict

/-- The name of a verdict. -/
def name : Verdict → String
  | proceed => "Continue"
  | stop => "Stop"

/-- The verdict on an outcome that does or does not stop the batch. -/
def ofStop (stops : Bool) : Verdict := if stops then stop else proceed

/-- Whether a verdict stops the batch. -/
def isStop (verdict : Verdict) : Bool := verdict == stop

/-- The verdicts by name. -/
def choices : Decode.Choices Verdict := [proceed, stop].map fun verdict => (verdict.name, .bare verdict)

/-- Reads a verdict. -/
def decode : Decode.Decoder Verdict := choices.decode

end Verdict

end BatchRunner
