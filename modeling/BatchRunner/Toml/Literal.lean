import BatchRunner.Text.Scan
import BatchRunner.Decimal.Layout

/-!
# TOML literals

Blanks, comments, keys, strings, numbers and points in time: everything in a TOML document that holds no
other value.
-/

namespace BatchRunner.Toml

open BatchRunner.Text

/-- Drops spaces and tabs. -/
def skipBlanks : List Char → List Char
  | ' ' :: cs => skipBlanks cs
  | '\t' :: cs => skipBlanks cs
  | cs => cs

/-- The characters behind a line end, which is a line feed with or without a carriage return. -/
def newline : List Char → Option (List Char)
  | '\n' :: cs => some cs
  | '\r' :: '\n' :: cs => some cs
  | _ => none

/-- Whether a character may stand in a comment or a string without an escape: all but the control
characters, less the tab. -/
def isVisible (c : Char) : Bool :=
  c == '\t' || (0x20 ≤ c.toNat && c.toNat != 0x7F)

/-- Drops the rest of a line that is a comment, up to the line end. -/
def skipComment : List Char → List Char
  | [] => []
  | c :: cs => if isVisible c then skipComment cs else c :: cs

/-- Drops blanks and a comment. -/
def skipTrailer (cs : List Char) : List Char :=
  match skipBlanks cs with
  | '#' :: rest => skipComment rest
  | rest => rest

/-- What follows the last thing on a line: blanks, a comment, and the line end or the end of the text. -/
def endOfLine (cs : List Char) : Option (List Char) :=
  match skipTrailer cs with
  | [] => some []
  | rest => newline rest

/-- Drops blanks, comments and line ends; the fuel is the number of lines that may be dropped. -/
def skipLines : Nat → List Char → List Char
  | 0, cs => skipTrailer cs
  | fuel + 1, cs => match newline (skipTrailer cs) with
    | some rest => skipLines fuel rest
    | none => skipTrailer cs

/-- Drops blanks and line ends; used behind a backslash that ends a line. -/
def skipWhite : List Char → List Char
  | ' ' :: cs => skipWhite cs
  | '\t' :: cs => skipWhite cs
  | '\n' :: cs => skipWhite cs
  | '\r' :: '\n' :: cs => skipWhite cs
  | cs => cs

/-! ## Strings -/

/-- The character with a number, unless the number is a surrogate or too large. -/
def character? (n : Nat) : Option Char :=
  if n < 0xD800 ∨ (0xDFFF < n ∧ n < 0x110000) then some (Char.ofNat n) else none

/-- The character that an escape stands for; the characters are those behind the backslash. -/
def escape : Reader Char
  | 'b' :: cs => some ('\x08', cs)
  | 't' :: cs => some ('\t', cs)
  | 'n' :: cs => some ('\n', cs)
  | 'f' :: cs => some ('\x0c', cs)
  | 'r' :: cs => some ('\r', cs)
  | '"' :: cs => some ('"', cs)
  | '\\' :: cs => some ('\\', cs)
  | 'u' :: cs => do
    let (ds, rest) ← exactDigits hexValue? 4 cs
    some (← character? (numeral 16 ds), rest)
  | 'U' :: cs => do
    let (ds, rest) ← exactDigits hexValue? 8 cs
    some (← character? (numeral 16 ds), rest)
  | _ => none

/-- The rest of a one-line string with escapes. The fuel bounds the number of characters. -/
def basicRest : Nat → Reader (List Char)
  | _, '"' :: cs => some ([], cs)
  | fuel + 1, '\\' :: cs => do
    let (c, rest) ← escape cs
    let (text, rest) ← basicRest fuel rest
    some (c :: text, rest)
  | fuel + 1, c :: cs =>
    if isVisible c then do
      let (text, rest) ← basicRest fuel cs
      some (c :: text, rest)
    else none
  | _, _ => none

/-- The rest of a one-line string without escapes. -/
def literalRest : Reader (List Char)
  | '\'' :: cs => some ([], cs)
  | c :: cs =>
    if isVisible c then do
      let (text, rest) ← literalRest cs
      some (c :: text, rest)
    else none
  | [] => none

/-- The end of a string that is closed by three marks; up to two more marks in front of them belong to the
text. -/
def closing (mark : Char) (cs : List Char) : Option (List Char × List Char) :=
  match literal [mark, mark, mark, mark, mark] cs with
  | some rest => some ([mark, mark], rest)
  | none => match literal [mark, mark, mark, mark] cs with
    | some rest => some ([mark], rest)
    | none => match literal [mark, mark, mark] cs with
      | some rest => some ([], rest)
      | none => none

/-- The rest of a string of several lines. Line ends are read as line feeds. Where `escapes` is set, a
backslash starts an escape or, at the end of a line, drops the white space up to the next text. -/
def multilineRest (escapes : Bool) (mark : Char) : Nat → Reader (List Char)
  | 0, _ => none
  | fuel + 1, cs =>
    match closing mark cs with
    | some done => some done
    | none => match cs with
      | [] => none
      | c :: rest =>
        if escapes && c == '\\' then
          match newline (skipBlanks rest) with
          | some behind => multilineRest escapes mark fuel (skipWhite behind)
          | none => do
            let (c, rest) ← escape rest
            let (text, rest) ← multilineRest escapes mark fuel rest
            some (c :: text, rest)
        else match newline cs with
          | some behind => do
            let (text, rest) ← multilineRest escapes mark fuel behind
            some ('\n' :: text, rest)
          | none =>
            if isVisible c then do
              let (text, rest) ← multilineRest escapes mark fuel rest
              some (c :: text, rest)
            else none

/-- Drops the line end that may follow the opening of a string of several lines. -/
def dropFirstNewline (cs : List Char) : List Char := (newline cs).getD cs

/-- A one-line string, as keys may be. -/
def lineString : Reader String
  | '"' :: cs => do
    let (text, rest) ← basicRest cs.length cs
    some (String.ofList text, rest)
  | '\'' :: cs => do
    let (text, rest) ← literalRest cs
    some (String.ofList text, rest)
  | _ => none

/-- A string of any kind. -/
def string (cs : List Char) : Option (String × List Char) :=
  match cs with
  | '"' :: '"' :: '"' :: rest => do
    let (text, rest) ← multilineRest true '"' (rest.length + 1) (dropFirstNewline rest)
    some (String.ofList text, rest)
  | '\'' :: '\'' :: '\'' :: rest => do
    let (text, rest) ← multilineRest false '\'' (rest.length + 1) (dropFirstNewline rest)
    some (String.ofList text, rest)
  | _ => lineString cs

/-! ## Keys -/

/-- Whether a character may stand in a key without quotes. -/
def isKeyChar (c : Char) : Bool :=
  ('a' ≤ c && c ≤ 'z') || ('A' ≤ c && c ≤ 'Z') || ('0' ≤ c && c ≤ '9') || c == '-' || c == '_'

/-- One part of a key. -/
def simpleKey (cs : List Char) : Option (String × List Char) :=
  match cs.takeWhile isKeyChar with
  | [] => lineString cs
  | bare => some (String.ofList bare, cs.dropWhile isKeyChar)

/-- The parts of a key, with the blanks around each. -/
def keyParts : Nat → Reader (List String)
  | 0, _ => none
  | fuel + 1, cs => do
    let (part, rest) ← simpleKey (skipBlanks cs)
    match skipBlanks rest with
    | '.' :: rest => do
      let (parts, rest) ← keyParts fuel rest
      some (part :: parts, rest)
    | rest => some ([part], rest)

/-- How deep keys and values may be nested. -/
def depthLimit : Nat := 80

/-- A key of one or more parts joined by points. -/
def key (cs : List Char) : Option (List String × List Char) := keyParts (depthLimit - 1) cs

/-! ## Numbers -/

/-- The digits that follow a digit; single underscores may stand between digits. -/
def moreDigits (value? : Char → Option Nat) : Nat → Reader (List Nat)
  | 0, cs => some ([], cs)
  | fuel + 1, '_' :: c :: cs => do
    let d ← value? c
    let (ds, rest) ← moreDigits value? fuel cs
    some (d :: ds, rest)
  | fuel + 1, c :: cs => match value? c with
    | none => if c = '_' then none else some ([], c :: cs)
    | some d => do
      let (ds, rest) ← moreDigits value? fuel cs
      some (d :: ds, rest)
  | _ + 1, [] => some ([], [])

/-- One or more digits with underscores between them. -/
def digitRun (value? : Char → Option Nat) : Reader (List Nat)
  | [] => none
  | c :: cs => do
    let d ← value? c
    let (ds, rest) ← moreDigits value? cs.length cs
    some (d :: ds, rest)

/-- The digits of a decimal integer: a zero alone, or digits that start with another one. -/
def decimalDigits : Reader (List Nat)
  | '0' :: cs => some ([0], cs)
  | cs => digitRun digitValue? cs

/-- A sign, of which the plus may be left out. -/
def sign : List Char → Bool × List Char
  | '+' :: cs => (false, cs)
  | '-' :: cs => (true, cs)
  | cs => (false, cs)

/-- Digits in a base that a mark announces. -/
def markedInteger : Reader Nat
  | '0' :: 'x' :: cs => do
    let (ds, rest) ← digitRun hexValue? cs
    some (numeral 16 ds, rest)
  | '0' :: 'o' :: cs => do
    let (ds, rest) ← digitRun (fun c => (digitValue? c).filter (· < 8)) cs
    some (numeral 8 ds, rest)
  | '0' :: 'b' :: cs => do
    let (ds, rest) ← digitRun (fun c => (digitValue? c).filter (· < 2)) cs
    some (numeral 2 ds, rest)
  | _ => none

/-- Whether an integer fits 64 bits, one of them for its sign. -/
def inRange (n : Int) : Bool := -0x8000000000000000 ≤ n && n < 0x8000000000000000

/-- An integer. -/
def integer (cs : List Char) : Option (Int × List Char) :=
  match markedInteger cs with
  | some (n, rest) => if inRange n then some (n, rest) else none
  | none => do
    let (negative, digits) := sign cs
    let (ds, rest) ← decimalDigits digits
    let n : Int := if negative then -(numeral 10 ds : Int) else numeral 10 ds
    if inRange n then some (n, rest) else none

/-- An exponent. -/
def exponent : Reader Int
  | c :: cs =>
    if c = 'e' ∨ c = 'E' then do
      let (negative, digits) := sign cs
      let (ds, rest) ← digitRun digitValue? digits
      some (if negative then -(numeral 10 ds : Int) else numeral 10 ds, rest)
    else none
  | [] => none

/-- A fraction or an exponent or both, as digits behind the point and a power of ten. -/
def floatTail : Reader (List Nat × Int)
  | '.' :: cs => do
    let (fraction, rest) ← digitRun digitValue? cs
    match exponent rest with
    | some (power, rest) => some ((fraction, power), rest)
    | none => some ((fraction, 0), rest)
  | cs => do
    let (power, rest) ← exponent cs
    some (([], power), rest)

/-- The written form in which a float is reported. -/
def shown (negative : Bool) (x : Float) : String :=
  Decimal.Layout.plain.write (if negative then -x else x)

/-- A number with a fraction or an exponent, infinity, or no number at all. A positive number beyond the
range of doubles is refused; a negative one is read as infinite. -/
def float (cs : List Char) : Option (String × List Char) :=
  let (negative, unsigned) := sign cs
  match literal "inf".toList unsigned with
  | some rest => some (shown negative (1.0 / 0.0), rest)
  | none => match literal "nan".toList unsigned with
    | some rest => some ("NaN", rest)
    | none => do
      let (whole, rest) ← decimalDigits unsigned
      let ((fraction, power), rest) ← floatTail rest
      let x := Decimal.nearestFloat (numeral 10 (whole ++ fraction)) (power - fraction.length)
      if x.isInf && !negative then none else some (shown negative x, rest)

/-! ## Points in time -/

/-- Two digits whose number is at most `greatest`. -/
def twoDigits (greatest : Nat) (cs : List Char) : Option (Nat × List Char) := do
  let (ds, rest) ← exactDigits digitValue? 2 cs
  if numeral 10 ds ≤ greatest then some (numeral 10 ds, rest) else none

/-- Whether a year has a leap day. -/
def isLeapYear (year : Nat) : Bool := year % 4 == 0 && (year % 100 != 0 || year % 400 == 0)

/-- The number of days of a month. -/
def daysOfMonth (year month : Nat) : Nat :=
  if month = 2 then (if isLeapYear year then 29 else 28)
  else if month = 4 ∨ month = 6 ∨ month = 9 ∨ month = 11 then 30
  else 31

/-- A day of the calendar. -/
def date (cs : List Char) : Option (List Char) := do
  let (yearDigits, rest) ← exactDigits digitValue? 4 cs
  let (month, rest) ← twoDigits 12 (← literal ['-'] rest)
  let (day, rest) ← twoDigits 31 (← literal ['-'] rest)
  if month = 0 ∨ day = 0 ∨ daysOfMonth (numeral 10 yearDigits) month < day then none else some rest

/-- A time of day. A leap second is allowed. -/
def timeOfDay (cs : List Char) : Option (List Char) := do
  let (_, rest) ← twoDigits 23 cs
  let (_, rest) ← twoDigits 59 (← literal [':'] rest)
  let (_, rest) ← twoDigits 60 (← literal [':'] rest)
  match rest with
  | '.' :: more => match someDigits digitValue? more with
    | ([], _) => some rest
    | (_, rest) => some rest
  | _ => some rest

/-- An offset from universal time, if there is one. -/
def offset (cs : List Char) : List Char :=
  match cs with
  | 'Z' :: rest => rest
  | 'z' :: rest => rest
  | c :: rest =>
    if c = '+' ∨ c = '-' then
      let read := do
        let (_, rest) ← twoDigits 23 rest
        let (_, rest) ← twoDigits 59 (← literal [':'] rest)
        some rest
      read.getD cs
    else cs
  | [] => []

/-- A date, a time, or both. -/
def moment (cs : List Char) : Option (List Char) :=
  match date cs with
  | none => timeOfDay cs
  | some rest => match rest with
    | c :: more =>
      if c = 'T' ∨ c = 't' ∨ c = ' ' then
        match timeOfDay more with
        | some behind => some (offset behind)
        | none => some rest
      else some rest
    | [] => some []

end BatchRunner.Toml
