import BatchRunner.Json.Value

/-!
# Printing JSON

Two forms: on one line without spaces, and over several lines with an indent of two spaces a level.
-/

namespace BatchRunner.Json

/-- A lower-case hexadecimal number of four digits. -/
def fourDigits (n : Nat) : String :=
  let ds := Nat.toDigits 16 n
  String.ofList (List.replicate (4 - ds.length) '0' ++ ds)

/-- A character as it stands in a string. -/
def escapeChar (c : Char) : String :=
  match c with
  | '"' => "\\\""
  | '\\' => "\\\\"
  | '\x08' => "\\b"
  | '\x0c' => "\\f"
  | '\n' => "\\n"
  | '\r' => "\\r"
  | '\t' => "\\t"
  | c => if c.toNat < 0x20 then "\\u" ++ fourDigits c.toNat else c.toString

/-- A string with its quotes. -/
def quote (s : String) : String := "\"" ++ String.join (s.toList.map escapeChar) ++ "\""

/-- The indent of a level. -/
def indent (level : Nat) : String := String.ofList (List.replicate (2 * level) ' ')

namespace Value

mutual
/-- A value over several lines; `level` is the number of values around it. -/
def pretty (level : Nat) : Value → String
  | null => "null"
  | boolean true => "true"
  | boolean false => "false"
  | integer n => toString n
  | text s => quote s
  | array [] => "[]"
  | array items => "[\n" ++ prettyItems (level + 1) items ++ "\n" ++ indent level ++ "]"
  | object [] => "\x7b\x7d"
  | object members => "\x7b\n" ++ prettyMembers (level + 1) members ++ "\n" ++ indent level ++ "\x7d"

/-- Elements, one to a line. -/
def prettyItems (level : Nat) : List Value → String
  | [] => ""
  | [item] => indent level ++ pretty level item
  | item :: rest => indent level ++ pretty level item ++ ",\n" ++ prettyItems level rest

/-- Members, one to a line. -/
def prettyMembers (level : Nat) : List (String × Value) → String
  | [] => ""
  | [(key, item)] => indent level ++ quote key ++ ": " ++ pretty level item
  | (key, item) :: rest =>
    indent level ++ quote key ++ ": " ++ pretty level item ++ ",\n" ++ prettyMembers level rest
end

end Value

end BatchRunner.Json
