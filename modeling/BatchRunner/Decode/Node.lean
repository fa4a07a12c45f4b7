import BatchRunner.Decode.Error

/-!
# Document nodes

The shape that both document formats hand to the decoders. A reader may hand over a node for a text that
breaks off: the decoders then find the break when, and only when, they come to it, so that a fault of type
in front of the break is the one that is reported.
-/

namespace BatchRunner.Decode

/-- How the list of a mapping's entries ended. -/
inductive Ending where
  /-- The mapping was closed. -/
  | closed
  /-- A key could not be decoded; what follows it is well formed. -/
  | badKey
  /-- The text of the mapping breaks off or goes wrong. -/
  | broken
  deriving DecidableEq, Repr, Inhabited

/-- Where a mapping comes from, which decides how a choice is written as one. -/
inductive Form where
  /-- An object between braces, with the way it ended. -/
  | object (ending : Ending)
  /-- A table. -/
  | table
  deriving DecidableEq, Repr, Inhabited

/-- A value of a document, as far as the decoders look at it. -/
inductive Node where
  | null
  | boolean (value : Bool)
  | integer (value : Int)
  /-- A number with a fraction or an exponent, in its written form. -/
  | floating (written : String)
  | text (value : String)
  /-- A point in time: for the decoders a mapping whose one key no type knows. -/
  | moment
  /-- Elements in order; `exact` says whether elements that nobody asks for are a fault. -/
  | sequence (exact : Bool) (items : List Node)
  /-- Entries in order. -/
  | mapping (form : Form) (entries : List (String × Node))
  /-- A value that is well formed but has no meaning. -/
  | unreadable
  /-- The text breaks off or goes wrong here. -/
  | broken
  deriving Inhabited, Repr

namespace Node

mutual
/-- Whether the text of a node is well formed to its end, so that it can be passed over unread. -/
def wellFormed : Node → Bool
  | sequence _ items => allWellFormed items
  | mapping (.object .broken) _ => false
  | mapping _ entries => entriesWellFormed entries
  | broken => false
  | _ => true

/-- Whether every element is well formed. -/
def allWellFormed : List Node → Bool
  | [] => true
  | item :: rest => wellFormed item && allWellFormed rest

/-- Whether the value of every entry is well formed. -/
def entriesWellFormed : List (String × Node) → Bool
  | [] => true
  | (_, value) :: rest => wellFormed value && entriesWellFormed rest
end

/-- Passes over a value that nobody asked for. -/
def skip (node : Node) : Except DecodeError Unit :=
  if node.wellFormed then .ok () else .error .malformed

/-- The fault that a node is of another kind than `expected`. -/
def mismatch (expected : String) : Node → DecodeError
  | null => .wrongType .null expected
  | boolean value => .wrongType (.boolean value) expected
  | integer value => .wrongType (.integer value) expected
  | floating written => .wrongType (.floating written) expected
  | text value => .wrongType (.text value) expected
  | moment => .wrongType .mapping expected
  | sequence _ _ => .wrongType .sequence expected
  | mapping _ _ => .wrongType .mapping expected
  | unreadable => .malformed
  | broken => .malformed

end Node

/-- Reads a value of a type from a node. -/
abbrev Decoder (α : Type) := Node → Except DecodeError α

end BatchRunner.Decode
