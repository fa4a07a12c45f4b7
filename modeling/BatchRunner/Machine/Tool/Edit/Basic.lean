import BatchRunner.Text.Regex

/-!
# Editing scripts

The commands of an editing script, the lines for which they are meant, and what they do to a text: replacing matches
and single characters, and showing characters that cannot be seen.
-/

namespace BatchRunner.Machine.Tool.Edit

/-- A regular expression and how it is matched. -/
structure Pattern where
  regex : Text.Regex
  anyCase : Bool
  manyLines : Bool
  deriving Inhabited

/-- The lines that are chosen by a pattern: by one that is given, or by the one that was used last. -/
abbrev PatternChoice := Option Pattern

/-- Which lines a command starts with. -/
inductive Address where
  | line (n : Nat)
  /-- A line, and each that follows at a distance. -/
  | every (first distance : Nat)
  | last
  | pattern (p : PatternChoice)
  deriving Inhabited

/-- Where a run of lines ends. -/
inductive RunEnd where
  | line (n : Nat)
  | every (first distance : Nat)
  | last
  | pattern (p : PatternChoice)
  /-- So many lines further on. -/
  | further (n : Nat)
  /-- The next line with a number that a number divides. -/
  | multiple (n : Nat)
  deriving Inhabited

/-- The lines for which a command is meant. -/
structure Chosen where
  first : Option Address := none
  runEnd : Option RunEnd := none
  negated : Bool := false
  deriving Inhabited

/-- How letters are changed in what replaces a match. -/
inductive LetterCase where
  | upper
  | lower
  deriving DecidableEq, Repr, Inhabited

/-- A part of what replaces a match. -/
inductive Part where
  | text (s : String)
  /-- What a group took; the group zero is the match. -/
  | group (number : Nat)
  /-- Changes the letters that follow, or leaves them alone from here on. -/
  | change (letters : Option LetterCase)
  /-- Changes the next letter. -/
  | changeNext (letters : LetterCase)
  deriving Inhabited

/-- What a substitution replaces, and by what. -/
structure Substitution where
  pattern : PatternChoice
  parts : List Part
  /-- The first match that is replaced. -/
  start : Nat
  everywhere : Bool
  prints : Bool
  output : Option String
  deriving Inhabited

/-- When a jump takes place. -/
inductive JumpWhen where
  | always
  | replaced
  | notReplaced
  deriving DecidableEq, Repr, Inhabited

/-- What a command does. -/
inductive Action where
  /-- Goes on with the commands up to a place, or behind that place if the lines are not meant. -/
  | block (behind : Nat)
  | nothing
  | append (text : String)
  | insert (text : String)
  | change (text : String)
  | jump (condition : JumpWhen) (label : String)
  | delete
  | deleteFirst
  | number
  | name
  | get
  | getAppended
  | hold
  | holdAppended
  | exchange
  | reveal (width : Option Nat)
  | next
  | nextAppended
  | print
  | printFirst
  | quit (status : Nat)
  | quitSilently (status : Nat)
  | readFile (path : String)
  | readLine (path : String)
  | substitute (s : Substitution)
  | write (path : String)
  | writeFirst (path : String)
  | replaceChars (pairs : List (Char × Char))
  | empty
  deriving Inhabited

/-- A command and the lines for which it is meant. -/
structure Command where
  chosen : Chosen
  action : Action
  deriving Inhabited

/-- A script: its commands and the places of its labels. -/
structure Script where
  commands : Array Command := #[]
  labels : List (String × Nat) := []
  /-- Whether it starts with the line that keeps lines from being printed. -/
  isQuiet : Bool := false
  deriving Inhabited

/-! ## Replacing -/

/-- Changes the letters of a text. -/
def LetterCase.apply (letters : LetterCase) (c : Char) : Char :=
  match letters with
  | upper => c.toUpper
  | lower => c.toLower

/-- How the letters of what follows are changed: all of them, and the next one. -/
structure Letters where
  all : Option LetterCase := none
  next : Option LetterCase := none

/-- A text with its letters changed. -/
def Letters.apply (letters : Letters) (cs : List Char) : List Char :=
  let all (c : Char) : Char := match letters.all with
    | some l => l.apply c
    | none => c
  match cs, letters.next with
  | c :: cs, some l => l.apply c :: cs.map all
  | cs, _ => cs.map all

/-- What replaces a match. -/
def expand (subject : Array Char) (m : Text.Regex.Match) : List Part → Letters → List Char
  | [], _ => []
  | part :: parts, letters =>
    let piece (cs : List Char) : List Char :=
      letters.apply cs ++ expand subject m parts (if cs.isEmpty then letters else { letters with next := none })
    match part with
    | .text s => piece s.toList
    | .group 0 => piece (subject.extract m.first m.last).toList
    | .group n => match m.groups.lookup n with
      | some (first, last) => piece (subject.extract first last).toList
      | none => piece []
    | .change all => expand subject m parts { letters with all := all }
    | .changeNext l => expand subject m parts { letters with next := some l }

/-- A text in which matches are replaced, from a place on, and whether there was one to replace; it is known how many
matches there were before, and where the last of them ended. The fuel bounds the number of matches. -/
def replaceFrom (p : Pattern) (s : Substitution) (subject : Text.Regex.Subject) :
    Nat → Nat → Nat → Option Nat → List Char × Bool
  | 0, start, _, _ => ((subject.chars.extract start subject.chars.size).toList, false)
  | fuel + 1, start, count, lastEnd => match p.regex.find subject start with
    | none => ((subject.chars.extract start subject.chars.size).toList, false)
    | some m =>
      let front := (subject.chars.extract start m.first).toList
      let taken := (subject.chars.extract m.first m.last).toList
      let isEmpty := m.first = m.last
      let touches := isEmpty && lastEnd = some m.first
      let count := if touches then count else count + 1
      let replaced := !touches && s.start ≤ count
      let here := if replaced then expand subject.chars m s.parts {} else taken
      let beyond := if isEmpty then (subject.chars.extract m.last (m.last + 1)).toList else []
      let behind := if isEmpty then m.last + 1 else m.last
      if replaced && !s.everywhere then
        (front ++ here ++ (subject.chars.extract m.last subject.chars.size).toList, true)
      else if subject.chars.size < behind then (front ++ here, replaced)
      else
        let (rest, more) := replaceFrom p s subject fuel behind count (some m.last)
        (front ++ here ++ beyond ++ rest, replaced || more)

/-- A text in which matches are replaced; nothing if there are none to replace. -/
def Substitution.apply (s : Substitution) (p : Pattern) (text : String) : Option String :=
  let subject : Text.Regex.Subject :=
    { chars := text.toList.toArray, anyCase := p.anyCase, manyLines := p.manyLines }
  match replaceFrom p s subject (text.length + 2) 0 0 none with
  | (cs, true) => some (String.ofList cs)
  | _ => none

/-- Whether a pattern matches somewhere in a text. -/
def Pattern.matches (p : Pattern) (text : String) : Bool :=
  (p.regex.find { chars := text.toList.toArray, anyCase := p.anyCase, manyLines := p.manyLines } 0).isSome

/-! ## Showing -/

/-- A character as it is shown. -/
def shownChar (c : Char) : List Char :=
  match c.toNat with
  | 7 => ['\\', 'a']
  | 8 => ['\\', 'b']
  | 9 => ['\\', 't']
  | 10 => ['\\', 'n']
  | 11 => ['\\', 'v']
  | 12 => ['\\', 'f']
  | 13 => ['\\', 'r']
  | 92 => ['\\', '\\']
  | n =>
    if 32 ≤ n && n < 127 then [c]
    else
      let digits := Nat.toDigits 8 n
      '\\' :: (List.replicate (3 - digits.length) '0' ++ digits)

/-- Puts shown characters into lines of a width, if there is one. -/
def shownLines (width : Nat) : List (List Char) → Nat → List Char
  | [], _ => ['$']
  | piece :: pieces, column =>
    if 0 < width && width < column + piece.length + 1 then
      '\\' :: '\n' :: piece ++ shownLines width pieces piece.length
    else piece ++ shownLines width pieces (column + piece.length)

/-- A text as it is shown. -/
def shownText (width : Nat) (text : String) : String :=
  String.ofList (shownLines width (text.toList.map shownChar) 0) ++ "\n"

/-- The part of a text up to its first line end; nothing if it has none. -/
def firstLine? (lineEnd : Char) (text : String) : Option (String × String) :=
  let cs := text.toList
  let front := cs.takeWhile (· != lineEnd)
  match cs.drop front.length with
  | [] => none
  | _ :: rest => some (String.ofList front, String.ofList rest)

end BatchRunner.Machine.Tool.Edit
