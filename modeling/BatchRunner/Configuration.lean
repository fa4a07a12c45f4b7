import BatchRunner.Settings

/-!
# Configuration files

A configuration has a version and queue settings. The configuration of a project is merged over that of the
user.
-/

namespace BatchRunner

/-- What a configuration file holds. -/
structure Configuration where
  version : Nat := 1
  queue : QueueSettings := .unset
  deriving DecidableEq, Repr, Inhabited

namespace Configuration

/-- Nothing set. -/
def unset : Configuration := {}

/-- The settings of `upper` over those of `lower`, under the greater version. -/
def merge (lower upper : Configuration) : Configuration where
  version := max lower.version upper.version
  queue := lower.queue.merge upper.queue

/-- The options that a configuration gives to a queue. -/
def options (config : Configuration) (defaults : QueueOptions) : QueueOptions :=
  config.queue.resolve defaults

/-- A configuration as a record. -/
def record : Decode.RecordType :=
  .lenient "SluiceConfig" [
    .of "version" .defaulted (Decode.natural .unsigned32),
    .of "queue" .defaulted QueueSettings.decode]

/-- Reads a configuration. -/
def decode : Decode.Decoder Configuration :=
  record.decode fun slots => do
    return {
      version := ← slots.get "version" (Decode.natural .unsigned32) 1
      queue := ← slots.get "queue" QueueSettings.decode .unset }

/-- The document of a configuration. -/
def toToml (config : Configuration) : Toml.Value :=
  .table [("version", .integer config.version), ("queue", config.queue.toToml)]

end Configuration

end BatchRunner
