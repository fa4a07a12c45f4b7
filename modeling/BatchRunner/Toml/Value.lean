import BatchRunner.Decode.Node
import BatchRunner.Json.Value

/-!
# TOML values

The values of a TOML document. Entries of a table keep their order. A number with a fraction is kept in the
form in which it is reported, and a point in time only as such, because no setting is either of them.
-/

namespace BatchRunner.Toml

/-- A value of a TOML document. -/
inductive Value where
  | text (value : String)
  | integer (value : Int)
  | floating (written : String)
  | boolean (value : Bool)
  | moment
  | array (items : List Value)
  | table (entries : List (String × Value))
  deriving Inhabited, Repr

namespace Value

/-- A list of texts. -/
def texts (items : List String) : Value := .array (items.map .text)

mutual
/-- The node that the decoders read for a value. -/
def toNode : Value → Decode.Node
  | text value => .text value
  | integer value => .integer value
  | floating written => .floating written
  | boolean value => .boolean value
  | moment => .moment
  | array items => .sequence false (itemNodes items)
  | table entries => .mapping .table (entryNodes entries)

/-- The nodes of a list of values. -/
def itemNodes : List Value → List Decode.Node
  | [] => []
  | item :: rest => toNode item :: itemNodes rest

/-- The nodes of the entries of a table. -/
def entryNodes : List (String × Value) → List (String × Decode.Node)
  | [] => []
  | (key, value) :: rest => (key, toNode value) :: entryNodes rest
end

mutual
/-- The same value written as JSON. -/
def toJson : Value → Json.Value
  | text value => .text value
  | integer value => .integer value
  | floating written => .text written
  | boolean value => .boolean value
  | moment => .null
  | array items => .array (itemsJson items)
  | table entries => .object (entriesJson entries)

/-- The elements of an array written as JSON. -/
def itemsJson : List Value → List Json.Value
  | [] => []
  | item :: rest => toJson item :: itemsJson rest

/-- The entries of a table written as JSON. -/
def entriesJson : List (String × Value) → List (String × Json.Value)
  | [] => []
  | (key, value) :: rest => (key, toJson value) :: entriesJson rest
end

end Value

/-- An entry that is only written if there is a value. -/
def entry? {α : Type} (key : String) (f : α → Value) : Option α → List (String × Value)
  | none => []
  | some a => [(key, f a)]

end BatchRunner.Toml
