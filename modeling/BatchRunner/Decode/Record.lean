import BatchRunner.Decode.Basic

/-!
# Records

A record is written by key, as a mapping, or by position, as a sequence of its fields in the order in which
they are declared. The fields that are present are read in document order, so the first fault of type in the
document is the one reported; a field that is missing is reported only after that.
-/

namespace BatchRunner.Decode

/-- What stands in for a field that is not given. -/
inductive Presence where
  /-- Nothing: the field must be given. -/
  | required
  /-- A default if the record is written by key, nothing if it is written by position. -/
  | byKey
  /-- A default. -/
  | defaulted
  deriving DecidableEq, Repr

/-- A field as it is checked while a record is read. -/
structure Field where
  key : String
  presence : Presence
  /-- Reads the field's value and forgets it. -/
  check : Node → Except DecodeError Unit

/-- A field whose values a decoder reads. -/
def Field.of {α : Type} (key : String) (presence : Presence) (decoder : Decoder α) : Field :=
  ⟨key, presence, fun node => do
    let _ ← decoder node
    return ()⟩

/-- The fields of a record that were given, each with its node. -/
abbrev Slots := List (String × Node)

/-- The value of a field, or `absent` if it was not given. -/
def Slots.get {α : Type} (slots : Slots) (key : String) (decoder : Decoder α) (absent : α) :
    Except DecodeError α :=
  match slots.lookup key with
  | some node => decoder node
  | none => .ok absent

/-- The value of a field that must be given. -/
def Slots.require {α : Type} (slots : Slots) (key : String) (decoder : Decoder α) :
    Except DecodeError α :=
  match slots.lookup key with
  | some node => decoder node
  | none => .error (.missingField key)

/-- A type that is written as a record. -/
structure RecordType where
  name : String
  fields : List Field
  /-- What a sequence of the wrong length is told to be. -/
  whenShort : String
  /-- Whether a key that is no field is a fault. -/
  refusesOthers : Bool

namespace RecordType

/-- What a record is called where something else stood in its place. -/
def expected (record : RecordType) : String := "struct " ++ record.name

/-- A record that passes over keys that it does not know. -/
def lenient (name : String) (fields : List Field) : RecordType where
  name
  fields
  whenShort := "struct " ++ name ++ " with " ++ toString fields.length ++ " elements"
  refusesOthers := false

/-- Visits the entries of a mapping in order. -/
def visitEntries (record : RecordType) : Slots → List (String × Node) → Except DecodeError Slots
  | slots, [] => .ok slots.reverse
  | slots, (key, node) :: rest =>
    match record.fields.find? (·.key == key) with
    | none =>
      if record.refusesOthers then .error (.unknownField key (record.fields.map (·.key)))
      else do
        node.skip
        visitEntries record slots rest
    | some field =>
      if (slots.lookup key).isSome then .error (.duplicateField key)
      else do
        field.check node
        visitEntries record ((key, node) :: slots) rest

/-- The first field that must be given by key and is not. -/
def firstMissing (record : RecordType) (slots : Slots) : Option Field :=
  record.fields.find? fun field =>
    field.presence == .required && (slots.lookup field.key).isNone

/-- Refuses a record written by key that lacks a field. -/
def complete (record : RecordType) (slots : Slots) : Except DecodeError Slots :=
  match record.firstMissing slots with
  | some field => .error (.missingField field.key)
  | none => .ok slots

/-- Visits the elements of a sequence beside the fields; `index` counts the fields that are behind. -/
def visitItems (record : RecordType) : Nat → List Field → List Node → Except DecodeError Slots
  | _, [], _ => .ok []
  | index, field :: fields, [] =>
    if field.presence == .defaulted then visitItems record (index + 1) fields []
    else .error (.wrongLength index record.whenShort)
  | index, field :: fields, item :: items => do
    field.check item
    let slots ← visitItems record (index + 1) fields items
    return (field.key, item) :: slots

/-- Reads a record: its fields in document order, then the value that `build` makes of them. Elements
beyond the fields are a fault of an exact sequence, found last. -/
def decode {α : Type} (record : RecordType) (build : Slots → Except DecodeError α) : Decoder α
  | .mapping form entries => do
    let slots ← record.visitEntries [] entries
    match form with
    | .object .badKey | .object .broken => .error .malformed
    | _ => build (← record.complete slots)
  | .moment =>
    if record.refusesOthers then .error .malformed else do build (← record.complete [])
  | .sequence exact items => do
    let value ← build (← record.visitItems 0 record.fields items)
    if exact && record.fields.length < items.length then .error .malformed else return value
  | node => .error (node.mismatch record.expected)

end RecordType

end BatchRunner.Decode
