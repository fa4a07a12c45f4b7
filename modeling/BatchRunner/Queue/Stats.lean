import BatchRunner.Decode.Record
import BatchRunner.Json.Value
import BatchRunner.Task.Halt

/-!
# Batch statistics
-/

namespace BatchRunner

/-- Counts of one run of a batch. -/
structure BatchStats where
  /-- Tasks whose process was started. -/
  launched : Nat := 0
  /-- Tasks whose process exited, with whatever code. -/
  exited : Nat := 0
  /-- Tasks whose process was killed by a signal. -/
  signalled : Nat := 0
  /-- Tasks that were still queued when the batch ended. -/
  dropped : Nat := 0
  /-- The most tasks that executed at the same time. -/
  peakExecuting : Nat := 0
  deriving DecidableEq, Repr, Inhabited

namespace BatchStats

/-- Nothing counted. -/
def zero : BatchStats := {}

/-- The number of tasks whose end is known, which must fit a word. -/
def completed (stats : BatchStats) : Except Violation Nat :=
  let sum := stats.exited + stats.signalled
  if sum < UInt64.size then .ok sum else .error .sumTooLarge

/-- Statistics as a record. -/
def record : Decode.RecordType :=
  .lenient "BatchStats" [
    .of "launched" .required (Decode.natural .word),
    .of "exited" .required (Decode.natural .word),
    .of "signalled" .required (Decode.natural .word),
    .of "dropped" .required (Decode.natural .word),
    .of "peak_executing" .required (Decode.natural .word)]

/-- Reads statistics. -/
def decode : Decode.Decoder BatchStats :=
  record.decode fun slots => do
    return {
      launched := ← slots.require "launched" (Decode.natural .word)
      exited := ← slots.require "exited" (Decode.natural .word)
      signalled := ← slots.require "signalled" (Decode.natural .word)
      dropped := ← slots.require "dropped" (Decode.natural .word)
      peakExecuting := ← slots.require "peak_executing" (Decode.natural .word) }

/-- Statistics written as JSON. -/
def toJson (stats : BatchStats) : Json.Value :=
  .object [
    ("launched", .count stats.launched),
    ("exited", .count stats.exited),
    ("signalled", .count stats.signalled),
    ("dropped", .count stats.dropped),
    ("peak_executing", .count stats.peakExecuting)]

end BatchStats

end BatchRunner
