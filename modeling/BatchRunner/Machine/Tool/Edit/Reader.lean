import BatchRunner.Machine.Tool.Edit.Basic

/-!
# Reading editing scripts

A script is read command by command. What is wrong with it is said together with how much had been read by then.
-/

namespace BatchRunner.Machine.Tool.Edit

/-- What is wrong with a script, how much of it had been read, and whether that is worth mentioning. -/
structure ScriptFault where
  text : String
  read : Option Nat
  deriving Inhabited

/-- How far a piece of a script has been read. -/
structure Cursor where
  rest : List Char
  read : Nat := 0
  deriving Inhabited

/-- Reads from a piece of a script. -/
abbrev Read := StateT Cursor (Except ScriptFault)

namespace Read

/-- Refuses the script. -/
def fail {α : Type} (text : String) : Read α := fun cursor => .error ⟨text, some cursor.read⟩

/-- The next character, which stays where it is. -/
def peek : Read (Option Char) := do return (← get).rest.head?

/-- The next character. -/
def char : Read (Option Char) := do
  match (← get).rest with
  | [] => return none
  | c :: rest =>
    modify fun cursor => { rest, read := cursor.read + 1 }
    return some c

/-- The characters up to the first one of another kind. -/
def takeWhile (p : Char → Bool) : Read (List Char) := do
  let taken := (← get).rest.takeWhile p
  modify fun cursor => { rest := cursor.rest.drop taken.length, read := cursor.read + taken.length }
  return taken

/-- Whether a character is a blank. -/
def isBlank (c : Char) : Bool := c == ' ' || c == '\t'

/-- Passes over blanks. -/
def blanks : Read Unit := do let _ ← takeWhile isBlank

/-- The next character that is no blank. -/
def solid : Read (Option Char) := do
  blanks
  char

/-- The next character that is no blank, which stays where it is. -/
def peekSolid : Read (Option Char) := do
  blanks
  peek

/-- A number, if there is one. -/
def number? : Read (Option Nat) := do
  let digits ← takeWhile Char.isDigit
  return if digits.isEmpty then none else some (Text.numeral 10 (digits.filterMap Text.digitValue?))

/-- The end of a command. -/
def commandEnd : Read Unit := do
  match ← peekSolid with
  | none => pure ()
  | some c =>
    if c == '\x7d' || c == '#' then pure ()
    else
      let _ ← char
      if c == '\n' || c == ';' then pure () else fail "extra characters after command"

/-- A label. -/
def label (isName : Bool) : Read String := do
  blanks
  let cs ← takeWhile fun c => c != '\n' && c != ' ' && c != '\t' && c != ';' && (isName || c != '\x7d')
  return String.ofList cs

/-- The name of a file: the rest of the line. -/
def fileName : Read String := do
  blanks
  let cs ← takeWhile (· != '\n')
  let _ ← char
  if cs.isEmpty then fail "missing filename in r/R/w/W commands"
  return String.ofList cs

end Read

/-! ## Texts between delimiters -/

/-- A set in brackets within a text that ends with a delimiter, behind its opening: it may hold the delimiter. -/
def bracketed : Nat → Bool → List Char → List Char → Option (List Char × List Char)
  | 0, _, _, _ => none
  | fuel + 1, first, cs, done => match cs with
    | [] => none
    | '\n' :: _ => none
    | '\\' :: 'n' :: rest => bracketed fuel false rest ('\n' :: done)
    | ']' :: rest => if first then bracketed fuel false rest (']' :: done) else some ((']' :: done).reverse, rest)
    | '[' :: mark :: rest =>
      if mark == ':' || mark == '.' || mark == '=' then
        match closed mark rest [mark, '['] with
        | some (done', rest) => bracketed fuel false rest (done' ++ done)
        | none => bracketed fuel false (mark :: rest) ('[' :: done)
      else bracketed fuel false (mark :: rest) ('[' :: done)
    | c :: rest => bracketed fuel false rest (c :: done)
where
  /-- The rest of a name in brackets of its own, last character first, and what is behind it. -/
  closed (mark : Char) : List Char → List Char → Option (List Char × List Char)
    | c :: ']' :: rest, done => if c == mark then some (']' :: c :: done, rest) else closed mark (']' :: rest) (c :: done)
    | c :: rest, done => if c == '\n' then none else closed mark rest (c :: done)
    | [], _ => none

/-- A text up to a delimiter, which a backslash takes from it; nothing if it does not end. In an expression,
the delimiter may stand in brackets. -/
def delimited (delimiter : Char) (isExpression : Bool) : Nat → List Char → List Char → List Char × Option (List Char)
  | 0, cs, _ => (cs, none)
  | fuel + 1, cs, done => match cs with
    | [] => ([], none)
    | c :: rest =>
      if c == delimiter then (rest, some done.reverse)
      else if c == '\n' then (cs, none)
      else if c == '\\' then match rest with
        | [] => ([], none)
        | e :: rest =>
          if e == 'n' && isExpression && delimiter != 'n' then delimited delimiter isExpression fuel rest ('\n' :: done)
          else if e == '\n' || (e == delimiter && (isExpression || e != '&')) then
            delimited delimiter isExpression fuel rest (e :: done)
          else delimited delimiter isExpression fuel rest (e :: '\\' :: done)
      else if c == '[' && isExpression then
        let (outside, inner) := match rest with
          | '^' :: rest => (['^'], rest)
          | rest => ([], rest)
        match bracketed (inner.length + 1) true inner [] with
        | some (set, rest) => delimited delimiter isExpression fuel rest (set.reverse ++ outside ++ '[' :: done)
        | none => ((inner.dropWhile (· != '\n')), none)
      else delimited delimiter isExpression fuel rest (c :: done)

/-- A text up to a delimiter, or what is wrong if it does not end. -/
def Read.delimited (delimiter : Char) (isExpression : Bool) (fault : String) : Read (List Char) := do
  let cs := (← get).rest
  let (rest, found) := Edit.delimited delimiter isExpression (cs.length + 1) cs []
  modify fun cursor => { rest, read := cursor.read + (cs.length - rest.length) }
  match found with
  | some text => return text
  | none => Read.fail fault

/-! ## Escapes -/

/-- The character with a code. -/
def charOf (base : Nat) (digits : List Char) : Char :=
  Char.ofNat (Text.numeral base (digits.filterMap Text.hexValue?) % 256)

/-- The character that is written behind a backslash, and what is behind it; nothing if none is. -/
def escaped? : List Char → Option (Char × List Char)
  | 'a' :: rest => some ('\x07', rest)
  | 'f' :: rest => some ('\x0c', rest)
  | 'n' :: rest => some ('\n', rest)
  | 'r' :: rest => some ('\r', rest)
  | 't' :: rest => some ('\t', rest)
  | 'v' :: rest => some ('\x0b', rest)
  | 'c' :: c :: rest => some (Char.ofNat (Nat.xor c.toUpper.toNat 64), rest)
  | 'd' :: rest => coded 10 3 Char.isDigit rest
  | 'o' :: rest => coded 8 3 (fun c => '0' ≤ c && c ≤ '7') rest
  | 'x' :: rest => coded 16 2 (fun c => (Text.hexValue? c).isSome) rest
  | _ => none
where
  /-- A character that is written as a number. -/
  coded (base most : Nat) (isDigit : Char → Bool) (cs : List Char) : Option (Char × List Char) :=
    let digits := (cs.take most).takeWhile isDigit
    if digits.isEmpty then none else some (charOf base digits, cs.drop digits.length)

/-- An expression in which characters that are written behind a backslash stand for themselves. The fuel bounds the
number of its characters. -/
def plainExpression : Nat → List Char → List Char
  | 0, cs => cs
  | _, [] => []
  | fuel + 1, '\\' :: rest => match rest, escaped? rest with
    | 'n' :: rest, _ => '\\' :: 'n' :: plainExpression fuel rest
    | _, some (c, rest) => c :: plainExpression fuel rest
    | c :: rest, none => '\\' :: c :: plainExpression fuel rest
    | [], none => ['\\']
  | fuel + 1, c :: rest => c :: plainExpression fuel rest

/-- The text of an `a`, `i` or `c` without its backslashes. The fuel bounds the number of its characters. -/
def plainText : Nat → List Char → List Char
  | 0, cs => cs
  | _, [] => []
  | fuel + 1, '\\' :: rest => match rest, escaped? rest with
    | _, some (c, rest) => c :: plainText fuel rest
    | c :: rest, none => c :: plainText fuel rest
    | [], none => []
  | fuel + 1, c :: rest => c :: plainText fuel rest

/-- The parts of what replaces a match; the text that is being read is gathered last character first. The fuel bounds
the number of characters. -/
def partsOf : Nat → List Char → List Char → List Part
  | 0, _, done => flush done []
  | _, [], done => flush done []
  | fuel + 1, '&' :: rest, done => flush done (.group 0 :: partsOf fuel rest [])
  | fuel + 1, '\\' :: rest, done => match rest, escaped? rest with
    | _, some (c, rest) => partsOf fuel rest (c :: done)
    | [], none => flush ('\\' :: done) []
    | c :: rest, none =>
      let sign (part : Part) : List Part := flush done (part :: partsOf fuel rest [])
      match c with
      | 'U' => sign (.change (some .upper))
      | 'L' => sign (.change (some .lower))
      | 'E' => sign (.change none)
      | 'u' => sign (.changeNext .upper)
      | 'l' => sign (.changeNext .lower)
      | c => match Text.digitValue? c with
        | some n => sign (.group n)
        | none => partsOf fuel rest (c :: done)
  | fuel + 1, c :: rest, done => partsOf fuel rest (c :: done)
where
  /-- The parts behind a text. -/
  flush (done : List Char) (parts : List Part) : List Part :=
    if done.isEmpty then parts else .text (String.ofList done.reverse) :: parts

/-- The pairs of characters of a `y`; nothing if one side is longer. -/
def pairsOf? (first second : List Char) : Option (List (Char × Char)) :=
  let a := plainText (first.length + 1) first
  let b := plainText (second.length + 1) second
  if a.length = b.length then some (a.zip b) else none

/-! ## Expressions -/

/-- How many groups an expression has. -/
def groupCount : Text.Regex → Nat
  | .group number body => max number (groupCount body)
  | .seq first second => max (groupCount first) (groupCount second)
  | .either first second => max (groupCount first) (groupCount second)
  | .repeated body _ _ => groupCount body
  | _ => 0

/-- Reads an expression that has been found; an empty one stands for the one used last. -/
def Read.pattern (extended : Bool) (text : List Char) (anyCase manyLines : Bool) : Read PatternChoice := do
  if text.isEmpty then
    if anyCase || manyLines then Read.fail "cannot specify modifiers on empty regexp"
    return none
  match Text.Regex.ofText ⟨if extended then .extended else .basic, true⟩
      (String.ofList (plainExpression (text.length + 1) text)) with
  | .ok regex => return some { regex, anyCase, manyLines }
  | .error .classAlone => throw ⟨Text.Regex.Fault.classAlone.message, none⟩
  | .error fault => Read.fail fault.message

/-! ## Addresses -/

/-- The signs behind an expression that say how it is matched. The fuel bounds their number. -/
def Read.modifiers : Nat → Bool → Bool → Read (Bool × Bool)
  | 0, anyCase, manyLines => return (anyCase, manyLines)
  | fuel + 1, anyCase, manyLines => do
    match ← Read.peekSolid with
    | some 'I' =>
      let _ ← Read.char
      Read.modifiers fuel true manyLines
    | some 'M' =>
      let _ ← Read.char
      Read.modifiers fuel anyCase true
    | _ => return (anyCase, manyLines)

/-- An address, which may also be one that only ends a run; nothing if there is none. -/
def Read.address? (extended : Bool) : Read (Option RunEnd) := do
  let expression (delimiter : Char) : Read (Option RunEnd) := do
    let text ← Read.delimited delimiter true "unterminated address regex"
    let (anyCase, manyLines) ← Read.modifiers ((← get).rest.length + 1) false false
    return some (.pattern (← Read.pattern extended text anyCase manyLines))
  match ← Read.peek with
  | some '/' =>
    let _ ← Read.char
    expression '/'
  | some '\\' =>
    let _ ← Read.char
    match ← Read.char with
    | some delimiter => expression delimiter
    | none => Read.fail "unterminated address regex"
  | some '$' =>
    let _ ← Read.char
    return some .last
  | some '+' =>
    let _ ← Read.char
    Read.blanks
    return some (.further ((← Read.number?).getD 0))
  | some '~' =>
    let _ ← Read.char
    Read.blanks
    return some (.multiple ((← Read.number?).getD 0))
  | _ => match ← Read.number? with
    | none => return none
    | some n =>
      if (← Read.peekSolid) == some '~' then
        let _ ← Read.char
        Read.blanks
        match (← Read.number?).getD 0 with
        | 0 => return some (.line n)
        | distance => return some (.every n distance)
      else return some (.line n)

/-- The lines for which a command is meant. -/
def Read.chosen (extended : Bool) : Read Chosen := do
  let first ← Read.address? extended
  let chosen : Chosen ← match first with
    | none => pure {}
    | some address =>
      let only : Address ← match address with
        | .line n => pure (.line n)
        | .every first distance => pure (.every first distance)
        | .last => pure .last
        | .pattern p => pure (.pattern p)
        | _ => Read.fail "invalid usage of +N or ~N as first address"
      let runEnd : Option RunEnd ←
        if (← Read.peekSolid) == some ',' then
          let _ ← Read.char
          Read.blanks
          match ← Read.address? extended with
          | some runEnd => pure (some runEnd)
          | none =>
            let _ ← Read.char
            Read.fail "unexpected \x60,'"
        else pure none
      let isRun := match runEnd with
        | some (.pattern _) => true
        | _ => false
      match only with
      | .line 0 =>
        if !isRun then
          let _ ← Read.solid
          Read.fail "invalid usage of line address 0"
      | _ => pure ()
      pure { first := some only, runEnd }
  if (← Read.peekSolid) == some '!' then
    let _ ← Read.char
    if (← Read.peekSolid) == some '!' then
      let _ ← Read.char
      Read.fail "multiple \x60!'s"
    return { chosen with negated := true }
  return chosen

/-! ## Commands -/

/-- The signs behind a substitution. -/
structure Signs where
  everywhere : Bool := false
  prints : Bool := false
  start : Option Nat := none
  anyCase : Bool := false
  manyLines : Bool := false
  output : Option String := none

/-- Reads the signs behind a substitution. The fuel bounds their number. -/
def Read.signs : Nat → Signs → Read Signs
  | 0, signs => return signs
  | fuel + 1, signs => do
    match ← Read.peek with
    | none => return signs
    | some c =>
      if c == '\x7d' || c == '#' then return signs
      else if c.isDigit then
        if signs.start.isSome then
          let _ ← Read.char
          Read.fail "multiple number options to \x60s' command"
        let n := (← Read.number?).getD 0
        if n = 0 then Read.fail "number option to \x60s' command may not be zero"
        Read.signs fuel { signs with start := some n }
      else
        let _ ← Read.char
        match c with
        | '\n' => return signs
        | ';' => return signs
        | ' ' => Read.signs fuel signs
        | '\t' => Read.signs fuel signs
        | 'g' =>
          if signs.everywhere then Read.fail "multiple \x60g' options to \x60s' command"
          Read.signs fuel { signs with everywhere := true }
        | 'p' =>
          if signs.prints then Read.fail "multiple \x60p' options to \x60s' command"
          Read.signs fuel { signs with prints := true }
        | 'w' => return { signs with output := some (← Read.fileName) }
        | _ =>
          if c == 'i' || c == 'I' then Read.signs fuel { signs with anyCase := true }
          else if c == 'm' || c == 'M' then Read.signs fuel { signs with manyLines := true }
          else Read.fail "unknown option to \x60s'"

/-- A substitution. -/
def Read.substitution (extended : Bool) : Read Substitution := do
  let fault := "unterminated \x60s' command"
  match ← Read.char with
  | none => Read.fail fault
  | some delimiter =>
    let expression ← Read.delimited delimiter true fault
    let replacement ← Read.delimited delimiter false fault
    let parts := partsOf (replacement.length + 1) replacement []
    let signs ← Read.signs ((← get).rest.length + 1) {}
    let pattern ← Read.pattern extended expression signs.anyCase signs.manyLines
    let highest := (parts.map fun part => match part with
      | .group n => n
      | _ => 0).foldl max 0
    match pattern with
    | some p =>
      if groupCount p.regex < highest then
        Read.fail ("invalid reference \\" ++ toString highest ++ " on \x60s' command's RHS")
    | none => pure ()
    return { pattern, parts, start := signs.start.getD 1, everywhere := signs.everywhere,
             prints := signs.prints, output := signs.output }

/-- The text of an `a`, `i` or `c` up to a line end that has no backslash in front; those that have one are kept with
it. -/
def textLine : List Char → List Char → List Char × List Char
  | [], done => (done.reverse, [])
  | '\n' :: rest, done => (done.reverse, rest)
  | '\\' :: c :: rest, done => textLine rest (c :: '\\' :: done)
  | c :: rest, done => textLine rest (c :: done)

/-- The rest of the text of an `a`, `i` or `c`, behind its front. -/
def Read.textBehind (front : String) : Read String := do
  let cs := (← get).rest
  let (line, rest) := textLine cs []
  set ({ rest, read := (← get).read + (cs.length - rest.length) } : Cursor)
  return front ++ String.ofList (plainText (line.length + 1) line) ++ "\n"

/-- The text of an `a`, `i` or `c`. -/
def Read.text : Read String := do
  match ← Read.peekSolid with
  | none => Read.fail "expected \\ after \x60a', \x60c' or \x60i'"
  | some '\\' =>
    let _ ← Read.char
    match ← Read.char with
    | none => return ""
    | some '\n' => Read.textBehind ""
    | some c => Read.textBehind c.toString
  | some _ => Read.textBehind ""

/-- What a command does that starts with a letter. -/
def Read.action (extended : Bool) (chosen : Chosen) (letter : Char) : Read Action := do
  let plain (action : Action) : Read Action := do
    Read.commandEnd
    return action
  let counted : Read (Option Nat) := do
    Read.blanks
    let n ← Read.number?
    Read.commandEnd
    return n
  let single : Read Unit := if chosen.runEnd.isSome then Read.fail "command only uses one address" else pure ()
  match letter with
  | '=' => plain .number
  | 'a' => return .append (← Read.text)
  | 'i' => return .insert (← Read.text)
  | 'c' => return .change (← Read.text)
  | 'b' => return .jump .always (← Read.label false)
  | 't' => return .jump .replaced (← Read.label false)
  | 'T' => return .jump .notReplaced (← Read.label false)
  | 'd' => plain .delete
  | 'D' => plain .deleteFirst
  | 'F' => plain .name
  | 'g' => plain .get
  | 'G' => plain .getAppended
  | 'h' => plain .hold
  | 'H' => plain .holdAppended
  | 'x' => plain .exchange
  | 'n' => plain .next
  | 'N' => plain .nextAppended
  | 'p' => plain .print
  | 'P' => plain .printFirst
  | 'z' => plain .empty
  | 'l' => return .reveal (← counted)
  | 'q' =>
    single
    return .quit ((← counted).getD 0)
  | 'Q' =>
    single
    return .quitSilently ((← counted).getD 0)
  | 'r' => return .readFile (← Read.fileName)
  | 'R' => return .readLine (← Read.fileName)
  | 'w' => return .write (← Read.fileName)
  | 'W' => return .writeFirst (← Read.fileName)
  | 's' => return .substitute (← Read.substitution extended)
  | 'y' =>
    let fault := "unterminated \x60y' command"
    match ← Read.char with
    | none => Read.fail fault
    | some delimiter =>
      let first ← Read.delimited delimiter false fault
      let second ← Read.delimited delimiter false fault
      match pairsOf? first second with
      | none => Read.fail "strings for \x60y' command are different lengths"
      | some pairs => plain (.replaceChars pairs)
  | 'v' =>
    let _ ← Read.label true
    return .nothing
  | c => Read.fail ("unknown command: \x60" ++ c.toString ++ "'")

/-- What has been read of a script: also the blocks that are open, the innermost first, with where they were opened
among the commands and in the text. -/
structure Draft where
  script : Script := {}
  blocks : List (Nat × Nat) := []
  deriving Inhabited

/-- Adds a command to a draft. -/
def Draft.add (draft : Draft) (command : Command) : Draft :=
  { draft with script := { draft.script with commands := draft.script.commands.push command } }

/-- Reads the next command; says whether there is one. -/
def Read.command (extended : Bool) (draft : Draft) : Read (Option Draft) := do
  let _ ← Read.takeWhile fun c => c == ';' || c == ' ' || (9 ≤ c.toNat && c.toNat ≤ 13)
  if (← Read.peek).isNone then return none
  let chosen ← Read.chosen extended
  let here := draft.script.commands.size
  match ← Read.solid with
  | none => Read.fail "missing command"
  | some '#' =>
    if chosen.first.isSome then Read.fail "comments don't accept any addresses"
    let _ ← Read.takeWhile (· != '\n')
    return some draft
  | some ':' =>
    if chosen.first.isSome then Read.fail ": doesn't want any addresses"
    let name ← Read.label true
    if name.isEmpty then Read.fail "\":\" lacks a label"
    return some { draft with script := { draft.script with labels := draft.script.labels ++ [(name, here)] } }
  | some '\x7b' =>
    return some { draft.add ⟨chosen, .block 0⟩ with blocks := (here, (← get).read) :: draft.blocks }
  | some '\x7d' =>
    match draft.blocks with
    | [] => Read.fail "unexpected \x60\x7d'"
    | (block, _) :: blocks =>
      if chosen.first.isSome then Read.fail "\x7d doesn't want any addresses"
      Read.commandEnd
      let close (c : Command) : Command := { c with action := .block here }
      let script := { draft.script with commands := draft.script.commands.modify block close }
      return some { draft with script, blocks }
  | some letter =>
    let action ← Read.action extended chosen letter
    return some (draft.add ⟨chosen, action⟩)

/-- Reads the commands of a piece of a script. The fuel bounds their number. -/
def Read.commands (extended : Bool) : Nat → Draft → Read Draft
  | 0, draft => return draft
  | fuel + 1, draft => do
    match ← Read.command extended draft with
    | none => return draft
    | some draft => Read.commands extended fuel draft

/-! ## Pieces -/

/-- A piece of a script: what was given as an argument, with its number, or what a file holds. -/
inductive Piece where
  | argument (number : Nat) (text : String)
  | file (path text : String)
  deriving Inhabited

namespace Piece

/-- The text of a piece. -/
def text : Piece → String
  | argument _ text => text
  | file _ text => text

/-- Where in a piece something is wrong. -/
def place (piece : Piece) (read : Nat) : String :=
  match piece with
  | argument number _ => "-e expression #" ++ toString number ++ ", char " ++ toString read ++ ": "
  | file path text =>
    "file " ++ path ++ " line " ++ toString (((text.toList.take read).filter (· == '\n')).length + 1) ++ ": "

end Piece

/-- Whether a text ends with a backslash that takes something from what follows. -/
def endsOpen (text : String) : Bool := ((text.toList.reverse.takeWhile (· == '\\')).length) % 2 = 1

/-- Pieces of which those that end with an open backslash are joined with what follows. -/
def joined : List Piece → List Piece
  | .argument number text :: rest => match joined rest with
    | .argument n next :: rest =>
      if endsOpen text then .argument number (text ++ "\n" ++ next) :: rest
      else .argument number text :: .argument n next :: rest
    | rest => .argument number text :: rest
  | piece :: rest => piece :: joined rest
  | [] => []

/-- The label of a jump to nowhere. -/
def missingLabel? (script : Script) : Option String :=
  script.commands.toList.findSome? fun c => match c.action with
    | .jump _ label => if label.isEmpty || (script.labels.lookup label).isSome then none else some label
    | _ => none

/-- Where a block was opened that is not closed. -/
def Piece.opening (piece : Piece) (read : Nat) : String :=
  match piece with
  | argument _ _ => piece.place 0
  | file _ _ => piece.place read

/-- Reads a script; else gives what is to be said of it, and the status with which to end. -/
def Script.ofPieces (extended : Bool) (pieces : List Piece) : Except (String × Nat) Script := do
  let isQuiet := match pieces.head? with
    | some piece => piece.text == "#n" || piece.text.startsWith "#n\n"
    | none => false
  let (draft, openings) ← (joined pieces).foldlM (fun ((draft, openings) : Draft × List (Nat × String)) piece =>
    match (Read.commands extended (piece.text.length + 1) draft).run { rest := piece.text.toList } with
    | .ok (next, _) =>
      let added := next.blocks.filter fun b => draft.script.commands.size ≤ b.1
      .ok (next, added.map (fun (block, read) => (block, piece.opening read)) ++ openings)
    | .error fault => match fault.read with
      | some read => .error (piece.place read ++ fault.text, 1)
      | none => .error (fault.text, 4)) (({}, []) : Draft × List (Nat × String))
  match draft.blocks with
  | (block, _) :: _ => throw ((openings.lookup block).getD "" ++ "unmatched \x60\x7b'", 1)
  | [] => pure ()
  match missingLabel? draft.script with
  | some label => throw ("can't find label for jump to \x60" ++ label ++ "'", 4)
  | none => pure ()
  return { draft.script with isQuiet }

end BatchRunner.Machine.Tool.Edit
