/-!
# JSON values

The values that a report is written in. Members keep their order.
-/

namespace BatchRunner.Json

/-- A JSON value without fractions, which no report needs. -/
inductive Value where
  | null
  | boolean (value : Bool)
  | integer (value : Int)
  | text (value : String)
  | array (items : List Value)
  | object (members : List (String × Value))
  deriving Inhabited, Repr

/-- A value, or null if there is none. -/
def Value.ofOption {α : Type} (f : α → Value) : Option α → Value
  | none => .null
  | some a => f a

/-- A list of texts. -/
def Value.texts (items : List String) : Value := .array (items.map .text)

/-- A number of things. -/
def Value.count (n : Nat) : Value := .integer n

end BatchRunner.Json
