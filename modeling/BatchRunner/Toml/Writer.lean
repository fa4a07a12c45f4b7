import BatchRunner.Toml.Literal
import BatchRunner.Toml.Value

/-!
# Writing TOML documents

The form in which settings are saved. Every table first lists its plain keys, then its tables, each under a
header of its own; an array of tables is written as one headed table for each element. Strings take the
plainest form that can hold them.
-/

namespace BatchRunner.Toml

/-! ## Strings -/

/-- A control character that no string without escapes can hold on one line. -/
def isControl (c : Char) : Bool :=
  (c.toNat < 0x20 && c != '\t' && c != '\n') || c.toNat == 0x7F

/-- The length of the longest run of a character. -/
def longestRun (mark : Char) (cs : List Char) : Nat :=
  go 0 0 cs
where
  /-- The longest run, given the length of the run so far and the longest before it. -/
  go (current longest : Nat) : List Char → Nat
    | [] => max current longest
    | c :: rest => if c = mark then go (current + 1) longest rest else go 0 (max current longest) rest

/-- The ways to write a string. -/
inductive StringForm where
  | basic
  | literal
  | multilineBasic
  | multilineLiteral
  deriving DecidableEq, Repr

/-- The first form that fits a string. Basic forms can escape what they cannot hold. -/
def StringForm.of (cs : List Char) : StringForm :=
  let hasControl := cs.any isControl
  let hasNewline := cs.contains '\n'
  let hasBackslash := cs.contains '\\'
  if !hasControl && !hasNewline && !hasBackslash && !cs.contains '"' then .basic
  else if !hasControl && !hasNewline && !cs.contains '\'' then .literal
  else if !hasControl && !hasBackslash && longestRun '"' cs ≤ 2 then .multilineBasic
  else if !hasControl && longestRun '\'' cs ≤ 2 then .multilineLiteral
  else if hasNewline then .multilineBasic
  else .basic

/-- An upper-case hexadecimal number of four digits. -/
def fourHexDigits (n : Nat) : List Char :=
  let ds := (Nat.toDigits 16 n).map Char.toUpper
  List.replicate (4 - ds.length) '0' ++ ds

/-- A character with an escape, if it cannot stand in a basic string as itself. -/
def escaped (c : Char) : List Char :=
  match c with
  | '\x08' => ['\\', 'b']
  | '\t' => ['\\', 't']
  | '\n' => ['\\', 'n']
  | '\x0c' => ['\\', 'f']
  | '\r' => ['\\', 'r']
  | '"' => ['\\', '"']
  | '\\' => ['\\', '\\']
  | c => if isControl c then '\\' :: 'u' :: fourHexDigits c.toNat else [c]

/-- The characters of a basic string of several lines; `quotes` counts the quotes just before. Every third
quote in a row is escaped. -/
def multilineBasicBody (quotes : Nat) : List Char → List Char
  | [] => []
  | '\n' :: rest => '\n' :: multilineBasicBody 0 rest
  | '"' :: rest =>
    if quotes = 2 then '\\' :: '"' :: multilineBasicBody 0 rest
    else '"' :: multilineBasicBody (quotes + 1) rest
  | c :: rest => escaped c ++ multilineBasicBody 0 rest

/-- The line end that opens a string with line ends in it. -/
def openingNewline (cs : List Char) : List Char := if cs.contains '\n' then ['\n'] else []

/-- A string with its quotes. -/
def writeString (s : String) : List Char :=
  let cs := s.toList
  match StringForm.of cs with
  | .basic => '"' :: cs.flatMap escaped ++ ['"']
  | .literal => '\'' :: cs ++ ['\'']
  | .multilineBasic => ['"', '"', '"'] ++ openingNewline cs ++ multilineBasicBody 0 cs ++ ['"', '"', '"']
  | .multilineLiteral => ['\'', '\'', '\''] ++ openingNewline cs ++ cs ++ ['\'', '\'', '\'']

/-! ## Values -/

/-- A key, with quotes if it needs them. -/
def writeKey (key : String) : List Char :=
  if key ≠ "" ∧ key.toList.all isKeyChar then key.toList else writeString key

mutual
/-- A value in the place behind a key. -/
def writeValue : Value → List Char
  | .text s => writeString s
  | .integer n => (toString n).toList
  | .floating written => written.toList
  | .boolean b => (if b then "true" else "false").toList
  | .moment => []
  | .array [] => ['[', ']']
  | .array [item] => '[' :: writeValue item ++ [']']
  | .array items => '[' :: '\n' :: writeElements items ++ [']']
  | .table [] => ['{', '}']
  | .table entries => '{' :: ' ' :: writeInline entries ++ [' ', '}']

/-- Elements, one to a line. -/
def writeElements : List Value → List Char
  | [] => []
  | item :: rest => "    ".toList ++ writeValue item ++ [',', '\n'] ++ writeElements rest

/-- Entries between braces. -/
def writeInline : List (String × Value) → List Char
  | [] => []
  | [(key, value)] => writeKey key ++ " = ".toList ++ writeValue value
  | (key, value) :: rest =>
    writeKey key ++ " = ".toList ++ writeValue value ++ [',', ' '] ++ writeInline rest
end

/-! ## Documents -/

/-- The tables of an array of which every element is a table, and which has an element. -/
def tables? : Value → Option (List (List (String × Value)))
  | .array (first :: rest) => (first :: rest).mapM fun item => match item with
    | .table entries => some entries
    | _ => none
  | _ => none

/-- Whether a value is written behind its key, and not under a header. -/
def isPlain (value : Value) : Bool :=
  match value with
  | .table _ => false
  | value => (tables? value).isNone

/-- The lines of the plain keys of a table. -/
def plainLines (entries : List (String × Value)) : List Char :=
  (entries.filter fun entry => isPlain entry.2).flatMap fun (key, value) =>
    writeKey key ++ " = ".toList ++ writeValue value ++ ['\n']

/-- The parts of a path joined by points. -/
def writePath (path : List String) : List Char :=
  ['.'].intercalate (path.map writeKey)

/-- The header of a table and the lines under it. -/
structure Block where
  path : List String
  isElement : Bool
  lines : List Char
  deriving Repr

/-- The blocks of a table and of the tables in it, in order. A table without plain keys but with tables in it
has no block of its own, unless it is an element of an array. The fuel bounds the nesting. -/
def blocks : Nat → List String → Bool → List (String × Value) → List Block
  | 0, _, _, _ => []
  | fuel + 1, path, isElement, entries =>
    let plain := entries.filter fun entry => isPlain entry.2
    let inner := entries.flatMap fun (key, value) => match value with
      | .table sub => blocks fuel (path ++ [key]) false sub
      | value => ((tables? value).getD []).flatMap fun sub => blocks fuel (path ++ [key]) true sub
    if plain.isEmpty && !entries.isEmpty && !isElement then inner
    else ⟨path, isElement, plainLines entries⟩ :: inner

/-- A block with its header. -/
def writeBlock (block : Block) : List Char :=
  if block.path.isEmpty then block.lines
  else
    let brackets := if block.isElement then 2 else 1
    List.replicate brackets '[' ++ writePath block.path ++ List.replicate brackets ']' ++ ['\n'] ++
      block.lines

/-- Whether every integer of a value can be written. -/
def representable : Value → Bool
  | .integer n => inRange n
  | .array items => representableItems items
  | .table entries => representableEntries entries
  | _ => true
where
  /-- Whether every element can be written. -/
  representableItems : List Value → Bool
    | [] => true
    | item :: rest => representable item && representableItems rest
  /-- Whether every entry can be written. -/
  representableEntries : List (String × Value) → Bool
    | [] => true
    | (_, value) :: rest => representable value && representableEntries rest

/-- How deep the tables of a document that is saved are nested at most. -/
def writingDepth : Nat := 16

/-- The document of a table, or nothing if a number in it is out of range. Blocks stand apart by an empty
line. -/
def write? : Value → Option String
  | .table entries =>
    if representable (.table entries) then
      let parts := (blocks writingDepth [] false entries).filter fun block =>
        !(block.path.isEmpty && block.lines.isEmpty)
      some (String.ofList (['\n'].intercalate (parts.map writeBlock)))
    else none
  | _ => none

end BatchRunner.Toml
