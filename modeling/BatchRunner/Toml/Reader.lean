import BatchRunner.Toml.Literal
import BatchRunner.Toml.Assembly

/-!
# Reading TOML documents

`parse?` gives the document that a text writes, or nothing if the text is no TOML document.
-/

namespace BatchRunner.Toml

open BatchRunner.Text

/-- The number that starts a value: a point in time, a float or an integer, the first that can be read. -/
def number (cs : List Char) : Option (Value × List Char) :=
  match moment cs with
  | some rest => some (.moment, rest)
  | none => match float cs with
    | some (written, rest) => some (.floating written, rest)
    | none => do
      let (n, rest) ← integer cs
      some (.integer n, rest)

/-- The values between brackets, up to the closing one; blanks, comments and line ends may stand between
them, and a comma may follow the last. -/
def elements (item : Reader Value) : Nat → Reader (List Value)
  | 0, _ => none
  | fuel + 1, cs =>
    match skipLines cs.length cs with
    | ']' :: rest => some ([], rest)
    | cs => do
      let (value, rest) ← item cs
      match skipLines rest.length rest with
      | ',' :: rest => do
        let (values, rest) ← elements item fuel rest
        some (value :: values, rest)
      | ']' :: rest => some ([value], rest)
      | _ => none

/-- A key and the value assigned to it. -/
def pair (item : Reader Value) (cs : List Char) : Option ((List String × Value) × List Char) := do
  let (path, rest) ← key cs
  let rest ← literal ['='] rest
  let (value, rest) ← item (skipBlanks rest)
  some ((path, value), rest)

/-- The pairs between braces, up to the closing one, all on one line. -/
def inlinePairs (item : Reader Value) : Nat → Reader (List (List String × Value))
  | 0, _ => none
  | fuel + 1, cs => do
    let (first, rest) ← pair item cs
    match skipBlanks rest with
    | ',' :: rest => do
      let (pairs, rest) ← inlinePairs item fuel rest
      some (first :: pairs, rest)
    | '}' :: rest => some ([first], rest)
    | _ => none

/-- A table between braces; the characters are those behind the opening one. -/
def braced (item : Reader Value) (cs : List Char) : Option (Value × List Char) :=
  match skipBlanks cs with
  | '}' :: rest => some (.table [], rest)
  | cs => do
    let (pairs, rest) ← inlinePairs item (cs.length + 1) cs
    some (← inlineTable? pairs, rest)

/-- A value, with at most `depth` arrays and tables inside one another. -/
def value : Nat → Reader Value
  | depth, cs => match cs with
    | [] => none
    | c :: rest =>
      if c = '"' ∨ c = '\'' then do
        let (text, rest) ← string cs
        some (.text text, rest)
      else if c = 't' then do
        some (.boolean true, ← literal "true".toList cs)
      else if c = 'f' then do
        some (.boolean false, ← literal "false".toList cs)
      else if c = '[' then match depth with
        | 0 => none
        | depth + 1 => do
          let (values, rest) ← elements (value depth) (rest.length + 1) rest
          some (.array values, rest)
      else if c = '{' then match depth with
        | 0 => none
        | depth + 1 => braced (value depth) rest
      else number cs

/-- A line of a document. -/
inductive Line where
  | blank
  /-- A header; `isElement` says whether it opens one more table of an array. -/
  | header (isElement : Bool) (path : List String)
  | pair (path : List String) (value : Value)

/-- A header, whose brackets are those of the first characters. -/
def header : Reader Line
  | '[' :: '[' :: cs => do
    let (path, rest) ← key cs
    let rest ← literal [']', ']'] rest
    some (.header true path, rest)
  | '[' :: cs => do
    let (path, rest) ← key cs
    let rest ← literal [']'] rest
    some (.header false path, rest)
  | _ => none

/-- One line, without its end. -/
def line (cs : List Char) : Option (Line × List Char) :=
  match skipTrailer cs with
  | [] => some (.blank, [])
  | '\n' :: rest => some (.blank, '\n' :: rest)
  | '\r' :: rest => some (.blank, '\r' :: rest)
  | _ => match skipBlanks cs with
    | '[' :: rest => header ('[' :: rest)
    | cs => do
      let ((path, v), rest) ← pair (value (depthLimit - 1)) cs
      some (.pair path v, rest)

/-- All lines of a text. -/
def allLines : Nat → List Char → Option (List Line)
  | _, [] => some []
  | 0, _ :: _ => none
  | fuel + 1, cs => do
    let (first, rest) ← line cs
    let lines ← allLines fuel (← endOfLine rest)
    some (first :: lines)

/-- Gathers the lines under each header. -/
def sections : List Line → List Section
  | [] => [⟨false, [], []⟩]
  | .blank :: rest => sections rest
  | .header isElement path :: rest => match sections rest with
    | [] => [⟨false, [], []⟩]
    | ⟨_, _, pairs⟩ :: more => ⟨false, [], []⟩ :: ⟨isElement, path, pairs⟩ :: more
  | .pair path v :: rest => match sections rest with
    | [] => [⟨false, [], [(path, v)]⟩]
    | s :: more => { s with pairs := (path, v) :: s.pairs } :: more

/-- A text without the mark that may announce its encoding. -/
def dropMark : List Char → List Char
  | '\uFEFF' :: cs => cs
  | cs => cs

/-- The document that a text writes. -/
def parse? (text : String) : Option Value :=
  let cs := dropMark text.toList
  match allLines (cs.length + 1) cs with
  | some lines => document? (sections lines)
  | none => none

/-- Reads a value of a type from a text. A text that is no document is malformed, whatever the type. -/
def read {α : Type} (decoder : Decode.Decoder α) (text : String) : Except Decode.DecodeError α :=
  match parse? text with
  | some document => decoder document.toNode
  | none => .error .malformed

end BatchRunner.Toml
