import BatchRunner.Machine.Shell.Source

/-!
# Words

A word may hold quoted text, parameters, arithmetic and the output of other scripts. What a character means
depends on what it stands in.
-/

namespace BatchRunner.Machine.Shell

/-- Whether a character may start a name. -/
def isNameStart (c : Char) : Bool := c.isAlpha || c == '_'

/-- Whether a character may stand in a name. -/
def isNameChar (c : Char) : Bool := c.isAlphanum || c == '_'

/-- Whether a text is a name. -/
def isName (s : String) : Bool :=
  match s.toList with
  | c :: cs => isNameStart c && cs.all isNameChar
  | [] => false

/-- Whether a character is a parameter of its own. -/
def isSpecial (c : Char) : Bool := "@*#?-$!".toList.contains c || c.isDigit

/-- Whether a character ends a word. -/
def isMeta (c : Char) : Bool := " \t\n;&|<>()".toList.contains c

/-- What the pieces of a word stand in. -/
inductive Within where
  /-- Nothing; they end in front of a character that ends a word. -/
  | word
  /-- Double quotes. -/
  | quotes
  /-- The braces of a parameter, which may stand in quotes themselves. -/
  | braces (quoted : Bool)
  /-- An arithmetic expression, so many parentheses deep. -/
  | sum (depth : Nat)
  /-- A text for a redirection; they end where it ends. -/
  | document
  deriving DecidableEq, Repr

namespace Within

/-- Whether what is read counts as quoted. -/
def isQuoted : Within → Bool
  | word => false
  | braces quoted => quoted
  | _ => true

/-- Whether a backslash takes away the meaning of a character, and not only stands in front of it. -/
def escapes (within : Within) (c : Char) : Bool :=
  !within.isQuoted || c == '\\' || c == '\x60' || c == '$' ||
    match within with
    | document => false
    | braces _ => c == '"' || c == '\x7d'
    | _ => c == '"'

/-- What is wrong if the script ends here, unless nothing is. -/
def misprint? : Within → Option String
  | word => none
  | document => none
  | quotes => some "Unterminated quoted string"
  | braces true => some "Unterminated quoted string"
  | braces false => some "Missing '\x7d'"
  | sum _ => some "Missing '))'"

end Within

/-- The pieces of a word so far, last first, and the characters of the one that is being read, last first. -/
structure Pieces where
  parts : List Part
  quoted : Bool
  chars : List Char

namespace Pieces

/-- No pieces. -/
def none : Pieces := ⟨[], false, []⟩

/-- Ends the piece that is being read. -/
def close (pieces : Pieces) : List Part :=
  if pieces.chars.isEmpty then pieces.parts
  else .text pieces.quoted (String.ofList pieces.chars.reverse) :: pieces.parts

/-- Adds a character. -/
def addChar (pieces : Pieces) (quoted : Bool) (c : Char) : Pieces :=
  if pieces.quoted == quoted then { pieces with chars := c :: pieces.chars }
  else ⟨pieces.close, quoted, [c]⟩

/-- Adds a piece. -/
def add (pieces : Pieces) (part : Part) : Pieces := ⟨part :: pieces.close, pieces.quoted, []⟩

/-- Adds a text in quotes. Quotes leave a mark even if nothing stands in them, but for quotes that hold all
arguments and nothing else. -/
def addQuoted (pieces : Pieces) (inner : Word) : Pieces :=
  match inner with
  | [.parameter true "@" .value []] => ⟨inner ++ pieces.close, pieces.quoted, []⟩
  | _ => ⟨inner.reverse ++ .text true "" :: pieces.close, pieces.quoted, []⟩

/-- The pieces in order. -/
def toWord (pieces : Pieces) : Word := pieces.close.reverse

end Pieces

open Reading

/-- The characters up to a closing single quote. -/
def singleQuoted : Nat → List Char → Reading String
  | 0, _ => refuse "Unterminated quoted string"
  | fuel + 1, taken => do
    match ← raw with
    | none => refuse "Unterminated quoted string"
    | some '\'' => return String.ofList taken.reverse
    | some c => singleQuoted fuel (c :: taken)

/-- The script between backquotes, less the backslashes that protect characters in it. -/
def backquoted (quoted : Bool) : Nat → List Char → Reading String
  | 0, _ => refuse "EOF in backquote substitution"
  | fuel + 1, taken => do
    match ← next with
    | none => refuse "EOF in backquote substitution"
    | some '\x60' => return String.ofList taken.reverse
    | some '\\' => do
      match ← raw with
      | none => refuse "EOF in backquote substitution"
      | some c =>
        if c == '\\' || c == '\x60' || c == '$' || (quoted && c == '"') then backquoted quoted fuel (c :: taken)
        else backquoted quoted fuel (c :: '\\' :: taken)
    | some c => backquoted quoted fuel (c :: taken)

/-- Checks a script that stands in another one. -/
def checkApart (script : Reading Unit) (text : String) (line : Nat) : Reading Unit := do
  let source := Source.ofText text line 0 (← get).aliases
  match StateT.run script source with
  | .ok _ => return ()
  | .error misprint => throw misprint

/-- The script up to the parenthesis that closes it. -/
def enclosed (script : Reading Unit) : Reading String := do
  let source ← get
  set { source with held := none, awaited := [] }
  script
  let behind ← get
  let length := source.chars.length - behind.chars.length
  set { behind with held := source.held, awaited := source.awaited, documents := source.documents }
  return String.ofList (source.chars.take (length - 1))

/-- What is done with a parameter, from behind its name; nothing if it follows no rule. -/
def use : Reading (Option Use) := do
  match ← next with
  | some '\x7d' => return some .value
  | some '-' => return some (.default false)
  | some '=' => return some (.assign false)
  | some '?' => return some (.demand false)
  | some '+' => return some (.alternative false)
  | some '#' => return some (.trim true (← take '#'))
  | some '%' => return some (.trim false (← take '%'))
  | some ':' => do
    match ← next with
    | some '-' => return some (.default true)
    | some '=' => return some (.assign true)
    | some '?' => return some (.demand true)
    | some '+' => return some (.alternative true)
    | _ => return none
  | _ => return none

/-- The name of a parameter in braces; nothing if there is none. -/
def parameterName : Reading (Option String) := do
  match ← peek with
  | none => return none
  | some c =>
    if isNameStart c then return some (← run isNameChar (← bound) [])
    else if c.isDigit then return some (← run Char.isDigit (← bound) [])
    else if isSpecial c then
      skip
      return some c.toString
    else return none

/-- The name of a parameter whose length is asked for, from behind the mark that asks, with the brace that
closes it; nothing if the mark is itself the parameter. -/
def measured : Reading (Option (Option String)) := do
  match ← peek with
  | none => return none
  | some c =>
    if isNameChar c then
      let name ← run (if c.isDigit then Char.isDigit else isNameChar) (← bound) []
      return some (if ← take '\x7d' then some name else none)
    else
      let source ← get
      skip
      if c != '\x7d' && (← take '\x7d') then return some (if isSpecial c then some c.toString else none)
      set source
      return none

/-- The pieces of a word up to where it ends. `script` reads another script up to the parenthesis that closes
it; a word that is to be taken as it stands is `bare`. The fuel bounds the number of characters. -/
def pieces (script : Reading Unit) (bare : Bool) : Nat → Within → Pieces → Reading Word
  | 0, _, _ => refuse "Unterminated quoted string"
  | fuel + 1, within, done => do
    let quoted := within.isQuoted
    let more := pieces script bare fuel within
    match ← peek with
    | none => match within.misprint? with
      | some text => refuse text
      | none => return done.toWord
    | some c =>
      if within = .word && isMeta c then return done.toWord
      skip
      match c with
      | '\\' => do
        match ← raw with
        | none => more (done.addChar true '\\')
        | some e =>
          if within.escapes e then more (done.addChar true e)
          else more ((done.addChar true '\\').addChar true e)
      | '"' => match within with
        | .quotes => return done.toWord
        | .document => more (done.addChar true c)
        | .sum _ => more done
        | _ => do
          let inner ← pieces script bare fuel .quotes .none
          more (done.addQuoted inner)
      | '\'' =>
        if quoted then more (done.addChar true c)
        else do
          let inner ← singleQuoted (← bound) []
          more (done.add (.text true inner))
      | '\x7d' => match within with
        | .braces _ => return done.toWord
        | _ => more (done.addChar quoted c)
      | '(' => match within with
        | .sum depth => pieces script bare fuel (.sum (depth + 1)) (done.addChar true c)
        | _ => more (done.addChar quoted c)
      | ')' => match within with
        | .sum (depth + 1) => pieces script bare fuel (.sum depth) (done.addChar true c)
        | .sum 0 => do
          if ← take ')' then return done.toWord
          else more (done.addChar true c)
        | _ => more (done.addChar quoted c)
      | '\x60' =>
        if bare then more (done.addChar quoted c)
        else do
          let line := (← get).line
          let text ← backquoted quoted (← bound) []
          checkApart script (text ++ "\n)") line
          more (done.add (.script quoted text line))
      | '$' =>
        if bare then more (done.addChar quoted c)
        else do
          match ← peek with
          | some '(' => do
            skip
            if ← take '(' then
              let expression ← pieces script bare fuel (.sum 0) .none
              more (done.add (.sum quoted expression))
            else
              let line := (← get).line
              let text ← enclosed script
              more (done.add (.script quoted text line))
          | some '\x7b' => do
            skip
            let finish (name : Option String) : Reading Word := do
              let rule ← use
              match rule, name with
              | some .value, some name => more (done.add (.parameter quoted name .value []))
              | some .value, none => more (done.add .invalid)
              | some (.trim front longest), some name => do
                let word ← pieces script bare fuel (.braces false) .none
                more (done.add (.parameter quoted name (.trim front longest) word))
              | some rule, some name => do
                let word ← pieces script bare fuel (.braces quoted) .none
                more (done.add (.parameter quoted name rule word))
              | _, _ => do
                let _ ← pieces script bare fuel (.braces quoted) .none
                more (done.add .invalid)
            if ← take '#' then
              match ← measured with
              | some (some name) => more (done.add (.parameter quoted name .length []))
              | some none => do
                let _ ← pieces script bare fuel (.braces quoted) .none
                more (done.add .invalid)
              | none => finish (some "#")
            else finish (← parameterName)
          | some d =>
            if isNameStart d then
              let name ← run isNameChar (← bound) []
              more (done.add (.parameter quoted name .value []))
            else if isSpecial d then
              skip
              more (done.add (.parameter quoted d.toString .value []))
            else more (done.addChar quoted c)
          | none => more (done.addChar quoted c)
      | c => more (done.addChar quoted c)

/-- The text of a word if no part of it is quoted or expanded. -/
def plain? : Word → Option String
  | [.text false chars] => some chars
  | _ => none

/-- The text of a word without its quotes. -/
def bareText (word : Word) : String :=
  String.join (word.map fun
    | .text _ chars => chars
    | _ => "")

end BatchRunner.Machine.Shell
