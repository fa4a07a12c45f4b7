import BatchRunner.Decode.Basic

/-!
# Choices

A choice among named alternatives is written as the name, or as a mapping whose one key is the name and
whose value is the alternative's content. An alternative without content has an empty one: a null in an
object, an empty table or array in a table.
-/

namespace BatchRunner.Decode

/-- One alternative of a choice. -/
inductive Alternative (α : Type) where
  /-- An alternative without content. -/
  | bare (value : α)
  /-- An alternative whose content a decoder reads. -/
  | holding (decoder : Decoder α)

/-- The alternatives of a choice by name. -/
abbrev Choices (α : Type) := List (String × Alternative α)

namespace Choices

variable {α : Type}

/-- The alternative of a name, or the fault that it is unknown. -/
def named (choices : Choices α) (name : String) : Except DecodeError (Alternative α) :=
  match choices.lookup name with
  | some alternative => .ok alternative
  | none => .error (.unknownVariant name (choices.map (·.1)))

/-- An alternative written as its bare name. -/
def ofName (choices : Choices α) (name : String) : Except DecodeError α := do
  match ← choices.named name with
  | .bare value => return value
  | .holding _ => .error (.wrongType .bareVariant "newtype variant")

/-- An alternative written as the key of an object. -/
def ofObject (choices : Choices α) (ending : Ending) (entries : List (String × Node)) :
    Except DecodeError α := do
  match entries with
  | [] => .error .malformed
  | (name, content) :: rest =>
    let value ← match ← choices.named name with
      | .bare value => match content with
        | .null => pure value
        | other => .error (other.mismatch "unit")
      | .holding decoder => decoder content
    if rest.isEmpty && ending == .closed then return value else .error .malformed

/-- The content of a table that names an alternative without content. -/
def isEmptyTable : Node → Bool
  | .mapping _ [] => true
  | .sequence _ [] => true
  | _ => false

/-- An alternative written as the only key of a table. -/
def ofTable (choices : Choices α) (entries : List (String × Node)) : Except DecodeError α := do
  match entries with
  | [(name, content)] =>
    match ← choices.named name with
    | .bare value => if isEmptyTable content then return value else .error .malformed
    | .holding decoder => decoder content
  | _ => .error .malformed

/-- Reads a choice. -/
def decode (choices : Choices α) : Decoder α
  | .text name => choices.ofName name
  | .mapping (.object ending) entries => choices.ofObject ending entries
  | .mapping .table entries => choices.ofTable entries
  | _ => .error .malformed

end Choices

end BatchRunner.Decode
