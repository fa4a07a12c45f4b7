import BatchRunner.Decode.Node

/-!
# Decoders for plain values

Texts, booleans, whole numbers in a range, values that may be absent, and lists.
-/

namespace BatchRunner.Decode

/-- A text. -/
def text : Decoder String
  | .text value => .ok value
  | node => .error (node.mismatch "a string")

/-- A truth value. -/
def boolean : Decoder Bool
  | .boolean value => .ok value
  | node => .error (node.mismatch "a boolean")

/-- A range of whole numbers, with the name under which it is expected. -/
structure IntegerRange where
  name : String
  least : Int
  greatest : Int
  deriving Repr

/-- Counts that fit a machine word. -/
def IntegerRange.word : IntegerRange := ⟨"usize", 0, 0xFFFFFFFFFFFFFFFF⟩

/-- Unsigned numbers of 64 bits. -/
def IntegerRange.unsigned64 : IntegerRange := ⟨"u64", 0, 0xFFFFFFFFFFFFFFFF⟩

/-- Unsigned numbers of 32 bits. -/
def IntegerRange.unsigned32 : IntegerRange := ⟨"u32", 0, 0xFFFFFFFF⟩

/-- Signed numbers of 32 bits. -/
def IntegerRange.signed32 : IntegerRange := ⟨"i32", -0x80000000, 0x7FFFFFFF⟩

/-- A whole number of a range. -/
def integer (range : IntegerRange) : Decoder Int
  | .integer value =>
    if range.least ≤ value ∧ value ≤ range.greatest then .ok value
    else .error (.wrongValue (.integer value) range.name)
  | node => .error (node.mismatch range.name)

/-- A whole number of a range that holds no negative ones. -/
def natural (range : IntegerRange) : Decoder Nat :=
  fun node => Int.toNat <$> integer range node

/-- A value that may be absent; only a null stands for an absent one. -/
def optional {α : Type} (decoder : Decoder α) : Decoder (Option α)
  | .null => .ok none
  | node => some <$> decoder node

/-- A list, whose elements are read in order. -/
def list {α : Type} (decoder : Decoder α) : Decoder (List α)
  | .sequence _ items => items.mapM decoder
  | node => .error (node.mismatch "a sequence")

end BatchRunner.Decode
