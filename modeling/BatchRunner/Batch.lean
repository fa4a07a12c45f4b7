import BatchRunner.Environment
import BatchRunner.Settings
import BatchRunner.Text.Blank

/-!
# Batches

A batch is a list of commands with queue settings of its own.
-/

namespace BatchRunner

/-- One command of a batch. -/
structure TaskEntry where
  /-- The label under which the task is reported; the program if there is none. -/
  name : Option String := none
  program : String
  args : List String := []
  /-- Entries `KEY=VALUE`; with none of them the task takes the variables of the queue. -/
  env : List String := []
  /-- The task's own word on whether standard error is captured apart. -/
  separateErrors : Option Bool := none
  deriving DecidableEq, Repr, Inhabited

namespace TaskEntry

/-- The name under which a task is reported. -/
def displayName (entry : TaskEntry) : String := entry.name.getD entry.program

/-- Refuses an entry whose program is blank, or else the first environment entry of a wrong form. -/
def validate (entry : TaskEntry) : Except Error Unit :=
  if Text.isBlank entry.program then .error (.config (.emptyProgram entry.displayName))
  else Environment.validate entry.env

/-- An entry as a record. -/
def record : Decode.RecordType :=
  .lenient "TaskEntry" [
    .of "name" .defaulted (Decode.optional Decode.text),
    .of "program" .required Decode.text,
    .of "args" .defaulted (Decode.list Decode.text),
    .of "env" .defaulted (Decode.list Decode.text),
    .of "separate_errors" .defaulted (Decode.optional Decode.boolean)]

/-- Reads an entry. -/
def decode : Decode.Decoder TaskEntry :=
  record.decode fun slots => do
    return {
      name := ← slots.get "name" (Decode.optional Decode.text) none
      program := ← slots.require "program" Decode.text
      args := ← slots.get "args" (Decode.list Decode.text) []
      env := ← slots.get "env" (Decode.list Decode.text) []
      separateErrors := ← slots.get "separate_errors" (Decode.optional Decode.boolean) none }

/-- The table of an entry. -/
def toToml (entry : TaskEntry) : Toml.Value :=
  .table (Toml.entry? "name" .text entry.name ++
    [("program", .text entry.program), ("args", .texts entry.args), ("env", .texts entry.env)] ++
    Toml.entry? "separate_errors" .boolean entry.separateErrors)

end TaskEntry

/-- A list of commands that one queue runs. -/
structure Batch where
  queue : QueueSettings := .unset
  tasks : List TaskEntry := []
  deriving DecidableEq, Repr, Inhabited

namespace Batch

/-- Refuses a batch for the first of its entries that is refused. -/
def validate (batch : Batch) : Except Error Unit :=
  batch.tasks.forM TaskEntry.validate

/-- A batch as a record. -/
def record : Decode.RecordType :=
  .lenient "BatchFile" [
    .of "queue" .defaulted QueueSettings.decode,
    .of "task" .defaulted (Decode.list TaskEntry.decode)]

/-- Reads a batch. -/
def decode : Decode.Decoder Batch :=
  record.decode fun slots => do
    return {
      queue := ← slots.get "queue" QueueSettings.decode .unset
      tasks := ← slots.get "task" (Decode.list TaskEntry.decode) [] }

/-- The document of a batch. -/
def toToml (batch : Batch) : Toml.Value :=
  .table [("queue", batch.queue.toToml), ("task", .array (batch.tasks.map TaskEntry.toToml))]

end Batch

end BatchRunner
