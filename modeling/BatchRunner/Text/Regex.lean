import BatchRunner.Text.Scan

/-!
# Regular expressions

Regular expressions over characters, with groups and what they took: which places in a text an expression can lead
to, and the match that starts first and, of those, is the longest. They are written in two forms: in the basic form a
backslash makes a bracket or a sign special, and in the extended form it takes that from it.
-/

namespace BatchRunner.Text

/-- What one character can be. -/
inductive CharSet where
  | one (c : Char)
  | range (first last : Char)
  /-- The characters of a class that has a name. -/
  | kind (name : String)
  deriving DecidableEq, Repr, Inhabited

namespace CharSet

/-- Whether a character is in the class with a name. -/
def isOfKind (name : String) (c : Char) : Bool :=
  let n := c.toNat
  match name with
  | "alpha" => c.isAlpha
  | "digit" => c.isDigit
  | "alnum" => c.isAlphanum
  | "upper" => c.isUpper
  | "lower" => c.isLower
  | "space" => n == 32 || (9 ≤ n && n ≤ 13)
  | "blank" => n == 32 || n == 9
  | "punct" => 33 ≤ n && n ≤ 126 && !c.isAlphanum
  | "print" => 32 ≤ n && n ≤ 126
  | "graph" => 33 ≤ n && n ≤ 126
  | "cntrl" => n < 32 || n == 127
  | "xdigit" => (hexValue? c).isSome
  | "word" => c.isAlphanum || c == '_'
  | _ => false

/-- The names of classes that may stand in brackets. -/
def kinds : List String := [
  "alpha", "digit", "alnum", "upper", "lower", "space", "blank", "punct", "print", "graph", "cntrl", "xdigit"]

/-- Whether a character is in a set. -/
def has : CharSet → Char → Bool
  | one d, c => c == d
  | range first last, c => first ≤ c && c ≤ last
  | kind name, c => isOfKind name c

end CharSet

/-- A place between characters. -/
inductive Boundary where
  | lineStart
  | lineEnd
  | textStart
  | textEnd
  | wordStart
  | wordEnd
  | wordEdge
  | noWordEdge
  deriving DecidableEq, Repr, Inhabited

/-- A regular expression. -/
inductive Regex where
  | empty
  /-- A character that is in one of some sets, or in none of them. -/
  | set (outside : Bool) (sets : List CharSet)
  | boundary (place : Boundary)
  | seq (first second : Regex)
  | either (first second : Regex)
  /-- At least so often, and not more often than a bound, if there is one. -/
  | repeated (body : Regex) (least : Nat) (most : Option Nat)
  | group (number : Nat) (body : Regex)
  /-- What a group took. -/
  | again (number : Nat)
  deriving Inhabited, Repr

namespace Regex

/-! ## Matching -/

/-- A text in which matches are sought, and how: whether letters match in either case, and whether the ends of lines
within the text count as such. -/
structure Subject where
  chars : Array Char
  anyCase : Bool := false
  manyLines : Bool := false

/-- How far a match has come, and what the groups took so far, the last one first. -/
structure Place where
  offset : Nat
  groups : List (Nat × Nat × Nat) := []
  deriving DecidableEq, Repr, Inhabited

namespace Subject

/-- The character at a position. -/
def char? (s : Subject) (i : Nat) : Option Char := s.chars[i]?

/-- The character in front of a position. -/
def before? (s : Subject) (i : Nat) : Option Char := if i = 0 then none else s.char? (i - 1)

/-- Whether a character is part of a word. -/
def isWord (c : Option Char) : Bool := c.any (CharSet.isOfKind "word")

/-- Whether a position is a place of a kind. -/
def isAt (s : Subject) (i : Nat) : Boundary → Bool
  | .lineStart => i = 0 || (s.manyLines && s.before? i == some '\n')
  | .lineEnd => i = s.chars.size || (s.manyLines && s.char? i == some '\n')
  | .textStart => i = 0
  | .textEnd => i = s.chars.size
  | .wordStart => !isWord (s.before? i) && isWord (s.char? i)
  | .wordEnd => isWord (s.before? i) && !isWord (s.char? i)
  | .wordEdge => isWord (s.before? i) != isWord (s.char? i)
  | .noWordEdge => isWord (s.before? i) == isWord (s.char? i)

/-- Whether a character is in one of some sets, in either case if that is how matches are sought. -/
def isIn (s : Subject) (sets : List CharSet) (c : Char) : Bool :=
  sets.any fun set => set.has c || (s.anyCase && (set.has c.toLower || set.has c.toUpper))

/-- Whether two characters are the same as matches are sought. -/
def same (s : Subject) (a b : Char) : Bool := a == b || (s.anyCase && a.toLower == b.toLower)

end Subject

/-- The places that repetition leads to, the longest way first; a repetition of nothing goes no further. The fuel
bounds the number of repetitions. -/
def repeatFrom (once : Place → List Place) (least : Nat) (most : Option Nat) : Nat → Nat → Place → List Place
  | 0, _, p => [p]
  | fuel + 1, count, p =>
    let mayGoOn := most.all (count < ·)
    let more := if !mayGoOn then [] else
      ((once p).filter fun q => q.offset != p.offset || count < least).flatMap (repeatFrom once least most fuel (count + 1))
    if least ≤ count then more ++ [p] else more

/-- The places that an expression leads to. -/
def placesFrom (s : Subject) : Regex → Place → List Place
  | empty, p => [p]
  | set outside sets, p => match s.char? p.offset with
    | some c => if s.isIn sets c != outside then [{ p with offset := p.offset + 1 }] else []
    | none => []
  | boundary place, p => if s.isAt p.offset place then [p] else []
  | seq first second, p => (placesFrom s first p).flatMap (placesFrom s second)
  | either first second, p => placesFrom s first p ++ placesFrom s second p
  | repeated body least most, p =>
    (repeatFrom (placesFrom s body) least most (s.chars.size + least + 2) 0 p).eraseDups
  | group number body, p =>
    (placesFrom s body p).map fun q => { q with groups := (number, p.offset, q.offset) :: q.groups }
  | again number, p => match p.groups.lookup number with
    | none => []
    | some (first, last) =>
      let taken := s.chars.extract first last
      let here := s.chars.extract p.offset (p.offset + taken.size)
      if here.size = taken.size && (taken.toList.zip here.toList).all fun (a, b) => s.same a b then
        [{ p with offset := p.offset + taken.size }]
      else []

/-- A match: where it starts and ends, and what the groups took. -/
structure Match where
  first : Nat
  last : Nat
  groups : List (Nat × Nat × Nat)
  deriving DecidableEq, Repr, Inhabited

/-- The longest match that starts at a position, of those that are allowed to start and end where they do. -/
def matchAt (r : Regex) (s : Subject) (allowed : Nat → Nat → Bool) (i : Nat) : Option Match :=
  (placesFrom s r { offset := i }).foldl (fun best p =>
    if allowed i p.offset && best.all fun (m : Match) => m.last < p.offset then some ⟨i, p.offset, p.groups⟩
    else best) none

/-- The first match that is allowed, from a position on. The fuel bounds the number of positions. -/
def matchFrom (r : Regex) (s : Subject) (allowed : Nat → Nat → Bool) : Nat → Nat → Option Match
  | 0, _ => none
  | fuel + 1, i =>
    if s.chars.size < i then none
    else match matchAt r s allowed i with
      | some m => some m
      | none => matchFrom r s allowed fuel (i + 1)

/-- The first match from a position on that is allowed. -/
def findWhere (r : Regex) (s : Subject) (allowed : Nat → Nat → Bool) (start : Nat) : Option Match :=
  matchFrom r s allowed (s.chars.size + 2) start

/-- The first match from a position on. -/
def find (r : Regex) (s : Subject) (start : Nat) : Option Match := findWhere r s (fun _ _ => true) start

/-! ## Reading -/

/-- The forms of writing. -/
inductive Form where
  | basic
  | extended
  /-- Every character stands for itself. -/
  | fixed
  deriving DecidableEq, Repr, Inhabited

/-- What is wrong with the text of an expression. -/
inductive Fault where
  | unmatchedBracket
  | emptyBracket
  | className
  | collation
  | rangeEnd
  /-- The name of a class stands alone in brackets, as if they belonged to it. -/
  | classAlone
  | unmatchedBrace
  | badBounds
  | tooBig
  | unmatchedOpening
  | unmatchedClosing
  /-- A sign that repeats what is in front of it, with nothing there. -/
  | nothingRepeated (sign : Char)
  | backReference
  | trailingBackslash
  deriving DecidableEq, Repr, Inhabited

/-- The sentence for what is wrong. -/
def Fault.message : Fault → String
  | unmatchedBracket => "Unmatched [, [^, [:, [., or [="
  | emptyBracket => "Invalid regular expression"
  | className => "Invalid character class name"
  | collation => "Invalid collation character"
  | rangeEnd => "Invalid range end"
  | classAlone => "character class syntax is [[:space:]], not [:space:]"
  | unmatchedBrace => "Unmatched \\\x7b"
  | badBounds => "Invalid content of \\\x7b\\\x7d"
  | tooBig => "Regular expression too big"
  | unmatchedOpening => "Unmatched ( or \\("
  | unmatchedClosing => "Unmatched ) or \\)"
  | nothingRepeated _ => "Invalid preceding regular expression"
  | backReference => "Invalid back reference"
  | trailingBackslash => "Trailing backslash"

/-- A character in brackets that has brackets of its own, with the kind of mark that they have inside. -/
def readNamed (mark : Char) (rest : List Char) : Except Fault (Char × List Char) :=
  let name := rest.takeWhile (· != mark)
  match name, rest.drop name.length with
  | [c], _ :: ']' :: behind => .ok (c, behind)
  | _, _ :: ']' :: _ => .error .collation
  | _, _ => .error .unmatchedBracket

/-- The members of a set in brackets, behind its opening; the fuel bounds their number. -/
def readSets : Nat → Bool → List Char → List CharSet → Except Fault (List CharSet × List Char)
  | 0, _, _, _ => .error .unmatchedBracket
  | fuel + 1, first, cs, done => match cs with
    | [] => .error (if first then .emptyBracket else .unmatchedBracket)
    | ']' :: rest => if first then member fuel ']' rest done else .ok (done.reverse, rest)
    | '[' :: ':' :: rest =>
      let name := rest.takeWhile (· != ':')
      match rest.drop name.length with
      | ':' :: ']' :: rest =>
        if CharSet.kinds.contains (String.ofList name) then
          readSets fuel false rest (.kind (String.ofList name) :: done)
        else .error .className
      | _ => .error .unmatchedBracket
    | '[' :: '.' :: rest => named fuel '.' rest done
    | '[' :: '=' :: rest => named fuel '=' rest done
    | c :: rest => member fuel c rest done
where
  /-- A member that starts with a character. -/
  member (fuel : Nat) (c : Char) (rest : List Char) (done : List CharSet) :
      Except Fault (List CharSet × List Char) :=
    match rest with
    | '-' :: last :: behind =>
      if last == ']' then readSets fuel false rest (.one c :: done)
      else if last < c then .error .rangeEnd
      else readSets fuel false behind (.range c last :: done)
    | _ => readSets fuel false rest (.one c :: done)
  /-- A member in brackets of its own. -/
  named (fuel : Nat) (mark : Char) (rest : List Char) (done : List CharSet) :
      Except Fault (List CharSet × List Char) :=
    match readNamed mark rest with
    | .error fault => .error fault
    | .ok (c, behind) => member fuel c behind done

/-- Whether what stands in brackets is the name of a class, with its colons. -/
def isClassAlone (inside : List Char) : Bool :=
  3 ≤ inside.length && inside.head? == some ':' && inside.getLast? == some ':' && !inside.contains '['

/-- A set in brackets, behind the opening one. -/
def readSet (cs : List Char) : Except Fault (Regex × List Char) := do
  let (outside, inner) := match cs with
    | '^' :: rest => (true, rest)
    | cs => (false, cs)
  let (sets, rest) ← readSets (inner.length + 1) true inner []
  if isClassAlone (inner.take (inner.length - rest.length - 1)) then throw .classAlone
  return (.set outside sets, rest)

/-- The bounds of a repetition, behind the opening brace; what is behind them. -/
def readBounds (form : Form) (cs : List Char) : Except Fault (Nat × Option Nat × List Char) :=
  let (lowDigits, behind) := someDigits digitValue? cs
  let low := if lowDigits.isEmpty then 0 else numeral 10 lowDigits
  let (high, behind, isRange) := match behind with
    | ',' :: rest =>
      let (digits, rest) := someDigits digitValue? rest
      (if digits.isEmpty then none else some (numeral 10 digits), rest, true)
    | rest => (some low, rest, false)
  let closed : Option (List Char) := match form, behind with
    | .basic, '\\' :: '\x7d' :: rest => some rest
    | .extended, '\x7d' :: rest => some rest
    | _, _ => none
  match closed with
  | none => .error (if behind.isEmpty then .unmatchedBrace else .badBounds)
  | some rest =>
    if (!isRange && lowDigits.isEmpty) || high.any (· < low) then .error .badBounds
    else if 32767 < low || high.any (32767 < ·) then .error .tooBig
    else .ok (low, high, rest)

/-- The signs of an expression. -/
inductive Sign where
  | opening
  | closing
  | bar
  | repetition (least : Nat) (most : Option Nat)
  | place (boundary : Boundary)
  | item (r : Regex)
  | back (number : Nat)

/-- What a character behind a backslash stands for in both forms. -/
def escapeOf (c : Char) : Sign :=
  match c with
  | 'w' => .item (.set false [.kind "word"])
  | 'W' => .item (.set true [.kind "word"])
  | 's' => .item (.set false [.kind "space"])
  | 'S' => .item (.set true [.kind "space"])
  | 'b' => .place .wordEdge
  | 'B' => .place .noWordEdge
  | '<' => .place .wordStart
  | '>' => .place .wordEnd
  | '\x60' => .place .textStart
  | '\'' => .place .textEnd
  | c => .item (.set false [.one c])

/-- How an expression is read: its form, and whether a repetition that has nothing to repeat, bounds that are none
and a closing bracket too many are refused or taken for what they can be. -/
structure Style where
  form : Form
  strict : Bool
  deriving DecidableEq, Repr, Inhabited

/-- A repetition in the extended form; where an expression may begin, it has nothing to repeat. -/
def extendedRepetition (style : Style) (atStart : Bool) (sign : Char) (least : Nat) (most : Option Nat)
    (rest : List Char) : Except Fault (Option (Sign × List Char)) :=
  if !atStart then .ok (some (.repetition least most, rest))
  else if style.strict then .error (.nothingRepeated sign)
  else .ok (some (.item .empty, rest))

/-- The next sign; whether it stands where an expression may begin. -/
def nextSign (style : Style) (atStart : Bool) (cs : List Char) : Except Fault (Option (Sign × List Char)) :=
  let item (c : Char) (rest : List Char) : Except Fault (Option (Sign × List Char)) :=
    .ok (some (.item (.set false [.one c]), rest))
  let sign (s : Sign) (rest : List Char) : Except Fault (Option (Sign × List Char)) := .ok (some (s, rest))
  let bounds (rest : List Char) : Except Fault (Option (Sign × List Char)) := do
    let (least, most, rest) ← readBounds style.form rest
    return some (.repetition least most, rest)
  match style.form, cs with
  | _, [] => .ok none
  | .fixed, c :: rest => item c rest
  | _, '.' :: rest => sign (.item (.set true [.one '\x00'])) rest
  | _, '[' :: rest => do
    let (r, rest) ← readSet rest
    return some (.item r, rest)
  | .extended, '*' :: rest => extendedRepetition style atStart '*' 0 none rest
  | .extended, '+' :: rest => extendedRepetition style atStart '+' 1 none rest
  | .extended, '?' :: rest => extendedRepetition style atStart '?' 0 (some 1) rest
  | .extended, '\x7b' :: rest =>
    if atStart then
      if style.strict then .error (.nothingRepeated '\x7b')
      else match bounds rest with
        | .ok (some (_, rest)) => sign (.item .empty) rest
        | _ => item '\x7b' rest
    else match bounds rest with
      | .error .tooBig => .error .tooBig
      | .error fault => if style.strict || isBounded rest then .error fault else item '\x7b' rest
      | .ok found => .ok found
  | .extended, '^' :: rest => sign (.place .lineStart) rest
  | .extended, '$' :: rest => sign (.place .lineEnd) rest
  | .extended, '(' :: rest => sign .opening rest
  | .extended, ')' :: rest => sign .closing rest
  | .extended, '|' :: rest => sign .bar rest
  | .basic, '*' :: rest => if atStart then item '*' rest else sign (.repetition 0 none) rest
  | .basic, '^' :: rest => if atStart then sign (.place .lineStart) rest else item '^' rest
  | .basic, '$' :: rest =>
    let isLast := match rest with
      | [] => true
      | '\\' :: ')' :: _ => true
      | '\\' :: '|' :: _ => true
      | _ => false
    if isLast then sign (.place .lineEnd) rest else item '$' rest
  | _, ['\\'] => .error .trailingBackslash
  | .basic, '\\' :: '(' :: rest => sign .opening rest
  | .basic, '\\' :: ')' :: rest => sign .closing rest
  | .basic, '\\' :: '|' :: rest => sign .bar rest
  | .basic, '\\' :: '+' :: rest => if atStart then item '+' rest else sign (.repetition 1 none) rest
  | .basic, '\\' :: '?' :: rest => if atStart then item '?' rest else sign (.repetition 0 (some 1)) rest
  | .basic, '\\' :: '\x7b' :: rest =>
    if !atStart then bounds rest
    else if style.strict then .error (.nothingRepeated '\x7b')
    else item '\x7b' rest
  | _, '\\' :: c :: rest => match digitValue? c with
    | some n => if n = 0 then item c rest else sign (.back n) rest
    | none => sign (escapeOf c) rest
  | _, c :: rest => item c rest
where
  /-- Whether bounds have the form of such, even if they make no sense. -/
  isBounded (cs : List Char) : Bool :=
    let behind := (someDigits digitValue? cs).2
    let behind := match behind with
      | ',' :: rest => (someDigits digitValue? rest).2
      | rest => rest
    behind.length < cs.length && behind.head? == some '\x7d'

/-- What has been read of a group: the ways that are complete, the one that is being read, and its last item, to which a
repetition belongs. -/
structure Reading where
  ways : List Regex := []
  way : Regex := .empty
  last : Option Regex := none
  number : Nat := 0
  isStart : Bool := true
  /-- Whether the last item is repeated already. -/
  isRepeated : Bool := false

namespace Reading

/-- The way that is being read, with its last item. -/
def whole (r : Reading) : Regex :=
  match r.last with
  | some last => .seq r.way last
  | none => r.way

/-- Adds an item. -/
def add (r : Reading) (item : Regex) : Reading :=
  { r with way := r.whole, last := some item, isStart := false, isRepeated := false }

/-- Adds a place between characters, to which no repetition belongs. -/
def mark (r : Reading) (place : Boundary) : Reading :=
  { r with way := .seq r.whole (.boundary place), last := none, isStart := true, isRepeated := false }

/-- Repeats the last item. -/
def again (r : Reading) (least : Nat) (most : Option Nat) : Reading :=
  { r with last := some (.repeated (r.last.getD .empty) least most), isRepeated := true }

/-- Starts another way. -/
def another (r : Reading) : Reading :=
  { r with ways := r.whole :: r.ways, way := .empty, last := none, isStart := true, isRepeated := false }

/-- All ways together. -/
def all (r : Reading) : Regex := r.ways.foldl (fun rest way => .either way rest) r.whole

end Reading

/-- Whether a repetition behind a repetition is refused: in the basic form, unless it is one of those that need a
backslash and have no bounds. -/
def Style.refusesAgain (style : Style) (cs : List Char) : Bool :=
  style.strict && style.form == .basic && match cs with
    | '*' :: _ => true
    | '\\' :: '\x7b' :: _ => true
    | _ => false

/-- Reads signs up to the end, with the groups that are open, the innermost first. The fuel bounds the number of
signs. -/
def readSigns (style : Style) : Nat → Nat → List Char → Reading → List Reading → Except Fault Regex
  | 0, _, _, r, _ => .ok r.all
  | fuel + 1, opened, cs, r, outer => do
    if r.isRepeated && style.refusesAgain cs then throw (.nothingRepeated '*')
    match ← nextSign style r.isStart cs with
    | none => if outer.isEmpty then return r.all else throw .unmatchedOpening
    | some (sign, rest) => match sign with
      | .item .empty => readSigns style fuel opened rest r outer
      | .item item => readSigns style fuel opened rest (r.add item) outer
      | .place place => readSigns style fuel opened rest (r.mark place) outer
      | .repetition least most => readSigns style fuel opened rest (r.again least most) outer
      | .bar => readSigns style fuel opened rest r.another outer
      | .back n =>
        if opened < n then throw .backReference else readSigns style fuel opened rest (r.add (.again n)) outer
      | .opening => readSigns style fuel (opened + 1) rest { number := opened + 1 } (r :: outer)
      | .closing => match outer with
        | o :: outer => readSigns style fuel opened rest (o.add (.group r.number r.all)) outer
        | [] =>
          if style.form == .extended && !style.strict then readSigns style fuel opened rest (r.add (.set false [.one ')'])) outer
          else throw .unmatchedClosing

/-- Reads an expression in a style. -/
def ofText (style : Style) (text : String) : Except Fault Regex :=
  readSigns style (text.length + 1) 0 text.toList {} []

end Regex

end BatchRunner.Text
