import BatchRunner.Decode.Choice
import BatchRunner.Decode.Record
import BatchRunner.Json.Value

/-!
# Verdicts for outcomes that nobody judges

When the caller of a batch leaves a hook out, a policy decides whether the outcome that the hook would have
judged stops the batch.
-/

namespace BatchRunner

/-- Whether an exit code that no hook judges stops the batch. -/
inductive ExitRule where
  /-- Any code but zero does. -/
  | treatNonZeroAsFailure
  /-- No code does. -/
  | ignoreNonZero
  deriving DecidableEq, Repr, Inhabited

/-- Whether a death by signal that no hook judges stops the batch. -/
inductive SignalRule where
  /-- Any signal does. -/
  | treatAnySignalAsFailure
  /-- No signal does. -/
  | ignoreSignals
  deriving DecidableEq, Repr, Inhabited

/-- The rules for both ways to end. -/
structure Policy where
  onExit : ExitRule
  onSignal : SignalRule
  deriving DecidableEq, Repr, Inhabited

namespace ExitRule

/-- The name of a rule in a document. -/
def name : ExitRule → String
  | treatNonZeroAsFailure => "treat-non-zero-as-failure"
  | ignoreNonZero => "ignore-non-zero"

/-- The rules by name. -/
def choices : Decode.Choices ExitRule :=
  [treatNonZeroAsFailure, ignoreNonZero].map fun rule => (rule.name, .bare rule)

/-- Reads a rule. -/
def decode : Decode.Decoder ExitRule := choices.decode

end ExitRule

namespace SignalRule

/-- The name of a rule in a document. -/
def name : SignalRule → String
  | treatAnySignalAsFailure => "treat-any-signal-as-failure"
  | ignoreSignals => "ignore-signals"

/-- The rules by name. -/
def choices : Decode.Choices SignalRule :=
  [treatAnySignalAsFailure, ignoreSignals].map fun rule => (rule.name, .bare rule)

/-- Reads a rule. -/
def decode : Decode.Decoder SignalRule := choices.decode

end SignalRule

namespace Policy

/-- The key of the rule for exit codes. -/
def exitKey : String := "on_missing_finished"

/-- The key of the rule for signals. -/
def signalKey : String := "on_missing_signalled"

/-- Anything but success stops the batch. -/
def strict : Policy := ⟨.treatNonZeroAsFailure, .treatAnySignalAsFailure⟩

/-- Nothing stops the batch. -/
def keepGoing : Policy := ⟨.ignoreNonZero, .ignoreSignals⟩

/-- Whether a process that exits with a code stops the batch. -/
def stopsOnExit (policy : Policy) (code : Int) : Bool :=
  match policy.onExit with
  | .treatNonZeroAsFailure => code != 0
  | .ignoreNonZero => false

/-- Whether a process that dies by a signal stops the batch. -/
def stopsOnSignal (policy : Policy) : Bool :=
  policy.onSignal == .treatAnySignalAsFailure

/-- A policy as a record; rules that are left out are strict. -/
def record : Decode.RecordType :=
  .lenient "DefaultPolicy" [
    .of exitKey .defaulted ExitRule.decode,
    .of signalKey .defaulted SignalRule.decode]

/-- Reads a policy. -/
def decode : Decode.Decoder Policy :=
  record.decode fun slots => do
    return {
      onExit := ← slots.get exitKey ExitRule.decode strict.onExit
      onSignal := ← slots.get signalKey SignalRule.decode strict.onSignal }

/-- A policy written as JSON. -/
def toJson (policy : Policy) : Json.Value :=
  .object [(exitKey, .text policy.onExit.name), (signalKey, .text policy.onSignal.name)]

end Policy

end BatchRunner
