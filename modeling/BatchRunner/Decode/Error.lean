/-!
# Why a document does not fit a type

A document that was read as data may still not describe a value of the wanted type. Each way to miss is a
constructor of `DecodeError`; the wording is in one place.
-/

namespace BatchRunner.Decode

/-- What stood where something else was expected. A floating-point number carries its written form, which
depends on the document's format. -/
inductive Found where
  | null
  | boolean (value : Bool)
  | integer (value : Int)
  | floating (written : String)
  | text (value : String)
  | sequence
  | mapping
  | bareVariant
  deriving DecidableEq, Repr, Inhabited

/-- Why a document does not describe a value of the wanted type. -/
inductive DecodeError where
  /-- The text is not well formed, or its shape is none that the type knows. -/
  | malformed
  /-- A value of another kind stood where `expected` was wanted. -/
  | wrongType (found : Found) (expected : String)
  /-- A value of the right kind is outside the range of `expected`. -/
  | wrongValue (found : Found) (expected : String)
  /-- A sequence of `length` elements cannot be `expected`. -/
  | wrongLength (length : Nat) (expected : String)
  /-- A choice was named that does not exist. -/
  | unknownVariant (name : String) (known : List String)
  /-- A record that knows only some keys was given another one. -/
  | unknownField (name : String) (known : List String)
  /-- A record lacks a key that has no default. -/
  | missingField (name : String)
  /-- A record has a key twice. -/
  | duplicateField (name : String)
  /-- A sum of parts leaves the range of the type. -/
  | overflow (type : String)
  deriving DecidableEq, Repr, Inhabited

/-- A name between the marks in which names are quoted. -/
def quoted (name : String) : String := "`" ++ name ++ "`"

/-- The names that were possible: two are joined by "or", more are listed after "one of". -/
def oneOf : List String → String
  | [] => "nothing"
  | [a] => quoted a
  | [a, b] => quoted a ++ " or " ++ quoted b
  | names => "one of " ++ ", ".intercalate (names.map quoted)

end BatchRunner.Decode
