import BatchRunner.Decode.Record
import BatchRunner.Json.Value

/-!
# What to run

A specification names a program, its arguments, the variables it is given and how its standard error is
captured.
-/

namespace BatchRunner

/-- A command to run. -/
structure TaskSpec where
  program : String
  /-- The arguments behind the program's own name. -/
  args : List String := []
  /-- Entries `KEY=VALUE`; with none of them the task takes the variables of its queue. -/
  env : List String := []
  /-- Whether standard error is captured apart; the queue decides if nothing is said. -/
  separateErrors : Option Bool := none
  deriving DecidableEq, Repr, Inhabited

namespace TaskSpec

/-- Adds arguments. -/
def addArgs (spec : TaskSpec) (args : List String) : TaskSpec := { spec with args := spec.args ++ args }

/-- Adds environment entries. -/
def addEnv (spec : TaskSpec) (env : List String) : TaskSpec := { spec with env := spec.env ++ env }

/-- The program and its arguments with spaces between them. -/
def commandLine (spec : TaskSpec) : String := " ".intercalate (spec.program :: spec.args)

/-- A specification as a record. -/
def record : Decode.RecordType :=
  .lenient "TaskSpec" [
    .of "program" .required Decode.text,
    .of "args" .required (Decode.list Decode.text),
    .of "env" .required (Decode.list Decode.text),
    .of "separate_errors" .byKey (Decode.optional Decode.boolean)]

/-- Reads a specification. -/
def decode : Decode.Decoder TaskSpec :=
  record.decode fun slots => do
    return {
      program := ← slots.require "program" Decode.text
      args := ← slots.require "args" (Decode.list Decode.text)
      env := ← slots.require "env" (Decode.list Decode.text)
      separateErrors := ← slots.get "separate_errors" (Decode.optional Decode.boolean) none }

/-- A specification written as JSON. -/
def toJson (spec : TaskSpec) : Json.Value :=
  .object [
    ("program", .text spec.program),
    ("args", .texts spec.args),
    ("env", .texts spec.env),
    ("separate_errors", .ofOption .boolean spec.separateErrors)]

end TaskSpec

end BatchRunner
