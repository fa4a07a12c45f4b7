import BatchRunner.Json.Number

/-!
# Reading JSON texts

A text that goes wrong is read up to the place where it does, and the node of that place says so. The
decoders thus see what stands in front of the fault, and report whichever fault they come to first.
-/

namespace BatchRunner.Json

open BatchRunner.Text BatchRunner.Decode

/-- Drops the white space between the parts of a text. -/
def skipSpace : List Char → List Char
  | ' ' :: cs => skipSpace cs
  | '\n' :: cs => skipSpace cs
  | '\t' :: cs => skipSpace cs
  | '\r' :: cs => skipSpace cs
  | cs => cs

/-- A piece of a string: a character, or a number of sixteen bits that an escape gives. -/
inductive Piece where
  | char (c : Char)
  | unit (n : Nat)

/-- The pieces of a string behind its opening quote. -/
def pieces : Nat → Reader (List Piece)
  | 0, _ => none
  | _, [] => none
  | _ + 1, '"' :: cs => some ([], cs)
  | fuel + 1, '\\' :: cs => do
    let plain (c : Char) (rest : List Char) : Option (List Piece × List Char) := do
      let (more, rest) ← pieces fuel rest
      some (.char c :: more, rest)
    match cs with
    | '"' :: rest => plain '"' rest
    | '\\' :: rest => plain '\\' rest
    | '/' :: rest => plain '/' rest
    | 'b' :: rest => plain '\x08' rest
    | 'f' :: rest => plain '\x0c' rest
    | 'n' :: rest => plain '\n' rest
    | 'r' :: rest => plain '\r' rest
    | 't' :: rest => plain '\t' rest
    | 'u' :: rest => do
      let (ds, rest) ← exactDigits hexValue? 4 rest
      let (more, rest) ← pieces fuel rest
      some (.unit (numeral 16 ds) :: more, rest)
    | _ => none
  | fuel + 1, c :: cs =>
    if c.toNat < 0x20 then none
    else do
      let (more, rest) ← pieces fuel cs
      some (.char c :: more, rest)

/-- The text that pieces write; a surrogate must be followed by its partner. -/
def join : List Piece → Option (List Char)
  | [] => some []
  | .char c :: more => (join more).map (c :: ·)
  | .unit n :: more =>
    if n < 0xD800 ∨ 0xDFFF < n then (join more).map (Char.ofNat n :: ·)
    else if 0xDBFF < n then none
    else match more with
      | .unit m :: more =>
        if 0xDC00 ≤ m ∧ m ≤ 0xDFFF then
          (join more).map (Char.ofNat (0x10000 + (n - 0xD800) * 0x400 + (m - 0xDC00)) :: ·)
        else none
      | _ => none

/-- A value that was read, and what is left behind it unless the text went wrong within. -/
abbrev Read := Node × Option (List Char)

/-- A value in whose place the text goes wrong. -/
def wrong : Read := (.broken, none)

/-- A fixed word. -/
def word (expected : String) (node : Node) (cs : List Char) : Read :=
  match literal expected.toList cs with
  | some rest => (node, some rest)
  | none => wrong

/-- A string; the characters are those behind its opening quote. -/
def text (cs : List Char) : Read :=
  match pieces (cs.length + 1) cs with
  | none => wrong
  | some (found, rest) => match join found with
    | some chars => (.text (String.ofList chars), some rest)
    | none => (.unreadable, some rest)

mutual

/-- A value. The fuel bounds the number of values and keys. -/
def value : Nat → List Char → Read
  | 0, _ => wrong
  | fuel + 1, cs => match skipSpace cs with
    | [] => wrong
    | c :: rest =>
      if c = 'n' then word "ull" .null rest
      else if c = 't' then word "rue" (.boolean true) rest
      else if c = 'f' then word "alse" (.boolean false) rest
      else if c = '"' then text rest
      else if c = '[' then match skipSpace rest with
        | ']' :: rest => (.sequence true [], some rest)
        | rest =>
          let (items, left) := elements fuel rest
          (.sequence true items, left)
      else if c = '{' then match skipSpace rest with
        | '}' :: rest => (.mapping (.object .closed) [], some rest)
        | '"' :: rest =>
          let (entries, ending, left) := members fuel rest
          (.mapping (.object ending) entries, left)
        | _ => (.mapping (.object .broken) [], none)
      else match number (c :: rest) with
        | some (node, rest) => (node, some rest)
        | none => wrong

/-- The elements of an array, the first of which must be there. -/
def elements : Nat → List Char → List Node × Option (List Char)
  | 0, _ => ([.broken], none)
  | fuel + 1, cs =>
    let (node, left) := value fuel cs
    match left with
    | none => ([node], none)
    | some rest => match skipSpace rest with
      | ',' :: rest =>
        let (nodes, left) := elements fuel rest
        (node :: nodes, left)
      | ']' :: rest => ([node], some rest)
      | _ => ([node, .broken], none)

/-- The members of an object, from behind the quote that opens the first key. -/
def members : Nat → List Char → List (String × Node) × Ending × Option (List Char)
  | 0, _ => ([], .broken, none)
  | fuel + 1, cs =>
    let (keyNode, left) := text cs
    match left with
    | none => ([], .broken, none)
    | some rest =>
      let (node, left) := match skipSpace rest with
        | ':' :: rest => value fuel rest
        | _ => wrong
      let (entries, ending, left) := match left with
        | none => ([], Ending.broken, none)
        | some rest => match skipSpace rest with
          | '}' :: rest => ([], Ending.closed, some rest)
          | ',' :: rest => match skipSpace rest with
            | '"' :: rest => members fuel rest
            | _ => ([], Ending.broken, none)
          | _ => ([], Ending.broken, none)
      match keyNode with
      | .text key => ((key, node) :: entries, ending, left)
      | _ =>
        let sound := node.wellFormed && Node.entriesWellFormed entries && ending != Ending.broken
        ([], if sound then Ending.badKey else Ending.broken, left)

end

/-- Reads a value of a type from a text, behind which only white space may stand. -/
def read {α : Type} (decoder : Decoder α) (source : String) : Except DecodeError α :=
  let cs := source.toList
  let (node, left) := value (cs.length + 1) cs
  match decoder node with
  | .error error => .error error
  | .ok result => match left.map skipSpace with
    | some [] => .ok result
    | _ => .error .malformed

end BatchRunner.Json
