import BatchRunner.Policy
import BatchRunner.Toml.Value

/-!
# Queue settings

A queue runs with definite options. Files hold settings, in which each option may be left open; settings of
several layers are merged, later layers over earlier ones, and what is still open in the end takes its
default.
-/

namespace BatchRunner

/-- The options a queue runs with. -/
structure QueueOptions where
  /-- How many tasks may run at once; zero is taken as one. -/
  parallelism : Nat
  /-- Whether standard error is captured apart from standard output, unless a task says otherwise. -/
  separateErrors : Bool
  policy : Policy
  deriving DecidableEq, Repr, Inhabited

namespace QueueOptions

/-- The options on a host that runs `hostParallelism` threads at once. -/
def builtIn (hostParallelism : Nat) : QueueOptions := ⟨hostParallelism, false, .strict⟩

/-- The number of tasks that may really run at once. -/
def effectiveParallelism (options : QueueOptions) : Nat := max options.parallelism 1

/-- Options as a record. -/
def record : Decode.RecordType :=
  .lenient "QueueConfig" [
    .of "parallelism" .required (Decode.natural .word),
    .of "separate_errors" .required Decode.boolean,
    .of "policy" .required Policy.decode]

/-- Reads options. -/
def decode : Decode.Decoder QueueOptions :=
  record.decode fun slots => do
    return {
      parallelism := ← slots.require "parallelism" (Decode.natural .word)
      separateErrors := ← slots.require "separate_errors" Decode.boolean
      policy := ← slots.require "policy" Policy.decode }

/-- Options written as JSON. -/
def toJson (options : QueueOptions) : Json.Value :=
  .object [
    ("parallelism", .count options.parallelism),
    ("separate_errors", .boolean options.separateErrors),
    ("policy", options.policy.toJson)]

end QueueOptions

/-- The rules of a policy as far as a layer sets them. -/
structure PolicySettings where
  onExit : Option ExitRule := none
  onSignal : Option SignalRule := none
  deriving DecidableEq, Repr, Inhabited

namespace PolicySettings

/-- Nothing set. -/
def unset : PolicySettings := {}

/-- Rules that leave nothing open. -/
def ofPolicy (policy : Policy) : PolicySettings := ⟨some policy.onExit, some policy.onSignal⟩

/-- The rules of `upper`, and those of `lower` where it leaves them open. -/
def merge (lower upper : PolicySettings) : PolicySettings where
  onExit := upper.onExit <|> lower.onExit
  onSignal := upper.onSignal <|> lower.onSignal

/-- The rules, with those of `defaults` where they are open. -/
def resolve (settings : PolicySettings) (defaults : Policy) : Policy where
  onExit := settings.onExit.getD defaults.onExit
  onSignal := settings.onSignal.getD defaults.onSignal

/-- Rules as a record. -/
def record : Decode.RecordType :=
  .lenient "PolicySettings" [
    .of Policy.exitKey .defaulted (Decode.optional ExitRule.decode),
    .of Policy.signalKey .defaulted (Decode.optional SignalRule.decode)]

/-- Reads rules. -/
def decode : Decode.Decoder PolicySettings :=
  record.decode fun slots => do
    return {
      onExit := ← slots.get Policy.exitKey (Decode.optional ExitRule.decode) none
      onSignal := ← slots.get Policy.signalKey (Decode.optional SignalRule.decode) none }

/-- The table of the rules that are set. -/
def toToml (settings : PolicySettings) : Toml.Value :=
  .table (Toml.entry? Policy.exitKey (fun rule => .text rule.name) settings.onExit ++
    Toml.entry? Policy.signalKey (fun rule => .text rule.name) settings.onSignal)

end PolicySettings

/-- The options of a queue as far as a layer sets them. -/
structure QueueSettings where
  parallelism : Option Nat := none
  separateErrors : Option Bool := none
  policy : PolicySettings := .unset
  deriving DecidableEq, Repr, Inhabited

namespace QueueSettings

/-- Nothing set. -/
def unset : QueueSettings := {}

/-- Settings that leave nothing open. -/
def ofOptions (options : QueueOptions) : QueueSettings :=
  ⟨some options.parallelism, some options.separateErrors, .ofPolicy options.policy⟩

/-- The settings of `upper`, and those of `lower` where it leaves them open. -/
def merge (lower upper : QueueSettings) : QueueSettings where
  parallelism := upper.parallelism <|> lower.parallelism
  separateErrors := upper.separateErrors <|> lower.separateErrors
  policy := lower.policy.merge upper.policy

/-- The settings, with the options of `defaults` where they are open. -/
def resolve (settings : QueueSettings) (defaults : QueueOptions) : QueueOptions where
  parallelism := settings.parallelism.getD defaults.parallelism
  separateErrors := settings.separateErrors.getD defaults.separateErrors
  policy := settings.policy.resolve defaults.policy

/-- Settings as a record. -/
def record : Decode.RecordType :=
  .lenient "QueueSettings" [
    .of "parallelism" .defaulted (Decode.optional (Decode.natural .word)),
    .of "separate_errors" .defaulted (Decode.optional Decode.boolean),
    .of "policy" .defaulted PolicySettings.decode]

/-- Reads settings. -/
def decode : Decode.Decoder QueueSettings :=
  record.decode fun slots => do
    return {
      parallelism := ← slots.get "parallelism" (Decode.optional (Decode.natural .word)) none
      separateErrors := ← slots.get "separate_errors" (Decode.optional Decode.boolean) none
      policy := ← slots.get "policy" PolicySettings.decode .unset }

/-- The table of the settings; the rules have their table even if none is set. -/
def toToml (settings : QueueSettings) : Toml.Value :=
  .table (Toml.entry? "parallelism" (fun n => .integer n) settings.parallelism ++
    Toml.entry? "separate_errors" .boolean settings.separateErrors ++
    [("policy", settings.policy.toToml)])

end QueueSettings

end BatchRunner
