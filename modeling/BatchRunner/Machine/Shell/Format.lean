import BatchRunner.Decimal.Numeral
import BatchRunner.Machine.Shell.Arithmetic
import BatchRunner.Text.Scan

/-!
# Formatted output

What the commands `printf` and `echo` write. Numbers are written exactly: a fraction is rounded once, to the
nearest, and a tie goes to the even digit.
-/

namespace BatchRunner.Machine.Shell.Format

open BatchRunner.Text

/-- The character of a byte. -/
def byte (n : Nat) : Char := Char.ofNat (n % 256)

/-- The value of an octal digit. -/
def octalValue? (c : Char) : Option Nat := (digitValue? c).filter (· < 8)

/-- The value of at most a number of octal digits at the front of the characters, and what is behind them. -/
def octal (count : Nat) (cs : List Char) : Nat × List Char :=
  let ds := (cs.take count).takeWhile fun c => (octalValue? c).isSome
  (numeral 8 (ds.filterMap octalValue?), cs.drop ds.length)

/-- The value of at most two hexadecimal digits at the front of the characters, and what is behind them. -/
def hexadecimal (cs : List Char) : Nat × List Char :=
  let ds := (cs.take 2).takeWhile fun c => (hexValue? c).isSome
  (numeral 16 (ds.filterMap hexValue?), cs.drop ds.length)

/-- The characters of an escape, from behind its backslash, and what is left. Only programs know hexadecimal
escapes. -/
def escape (isProgram : Bool) (cs : List Char) : List Char × List Char :=
  match cs with
  | [] => (['\\'], [])
  | c :: rest =>
    if (octalValue? c).isSome then
      let (n, rest) := octal 3 cs
      ([byte n], rest)
    else match c with
      | 'a' => ([byte 7], rest)
      | 'b' => ([byte 8], rest)
      | 'e' => ([byte 27], rest)
      | 'f' => ([byte 12], rest)
      | 'n' => (['\n'], rest)
      | 'r' => (['\r'], rest)
      | 't' => (['\t'], rest)
      | 'v' => ([byte 11], rest)
      | '\\' => (['\\'], rest)
      | '"' => if isProgram then (['"'], rest) else (['\\', '"'], rest)
      | 'x' =>
        let (n, behind) := hexadecimal rest
        if isProgram && behind.length < rest.length then ([byte n], behind) else (['\\', 'x'], rest)
      | c => (['\\', c], rest)

/-- A text with its escapes carried out. An octal number may have a zero in front of its three digits. A `\c` ends
all output, which the flag tells. The fuel bounds the number of characters. -/
def escaped (isProgram : Bool) : Nat → List Char → List Char × Bool
  | 0, _ => ([], false)
  | _ + 1, [] => ([], false)
  | fuel + 1, c :: rest =>
    if c != '\\' then
      let (more, ended) := escaped isProgram fuel rest
      (c :: more, ended)
    else match rest with
      | 'c' :: _ => ([], true)
      | '0' :: digits =>
        let (n, rest) := octal 3 digits
        let (more, ended) := escaped isProgram fuel rest
        (byte n :: more, ended)
      | rest =>
        let (front, rest) := escape isProgram rest
        let (more, ended) := escaped isProgram fuel rest
        (front ++ more, ended)

/-- A text with its escapes carried out, and whether all output is to end. -/
def withEscapes (isProgram : Bool) (s : String) : String × Bool :=
  let (cs, ended) := escaped isProgram (s.length + 1) s.toList
  (String.ofList cs, ended)

/-- How a conversion sets out its text. -/
structure Placement where
  left : Bool := false
  zero : Bool := false
  plus : Bool := false
  blank : Bool := false
  alternate : Bool := false
  width : Nat := 0
  precision : Option Nat := none

namespace Placement

/-- Characters filled up to the width. -/
def fill (p : Placement) (cs : List Char) : List Char :=
  let missing := p.width - cs.length
  if p.left then cs ++ List.replicate missing ' ' else List.replicate missing ' ' ++ cs

/-- A number with a mark in front of its digits, filled up to the width. -/
def number (p : Placement) (mark digits : List Char) (mayPad : Bool) : List Char :=
  let digits :=
    if p.zero && !p.left && mayPad then
      List.replicate (p.width - mark.length - digits.length) '0' ++ digits
    else digits
  p.fill (mark ++ digits)

/-- The sign in front of a number. -/
def sign (p : Placement) (negative : Bool) : List Char :=
  if negative then ['-'] else if p.plus then ['+'] else if p.blank then [' '] else []

/-- The digits of a whole number, as many as the precision asks for. -/
def wholeDigits (p : Placement) (base n : Nat) : List Char :=
  let digits := if n = 0 then [] else Nat.toDigits base n
  List.replicate (p.precision.getD 1 - digits.length) '0' ++ digits

/-- A whole number in decimal. -/
def signed (p : Placement) (n : Int) : List Char :=
  p.number (p.sign (n < 0)) (p.wholeDigits 10 n.natAbs) p.precision.isNone

/-- A whole number without a sign. -/
def unsigned (p : Placement) (conversion : Char) (n : Nat) : List Char :=
  let upper (cs : List Char) : List Char := if conversion == 'X' then cs.map Char.toUpper else cs
  match conversion with
  | 'o' =>
    let digits := p.wholeDigits 8 n
    let digits := if p.alternate && digits.head? != some '0' then '0' :: digits else digits
    p.number [] digits p.precision.isNone
  | 'u' => p.number [] (p.wholeDigits 10 n) p.precision.isNone
  | _ =>
    let mark := if p.alternate && n != 0 then upper ['0', 'x'] else []
    p.number mark (upper (p.wholeDigits 16 n)) p.precision.isNone

end Placement

/-! ## Fractions -/

open BatchRunner.Decimal (Ratio Parts)

/-- A fraction rounded to a whole number; a tie goes to the even one. -/
def roundEven (r : Ratio) : Nat :=
  let q := r.num / r.den
  let twice := 2 * (r.num % r.den)
  if twice < r.den then q
  else if r.den < twice then q + 1
  else q + q % 2

/-- Digits with a point in front of the last so many of them. -/
def withPoint (p : Placement) (places n : Nat) : List Char :=
  let digits := Nat.toDigits 10 n
  let digits := List.replicate (places + 1 - digits.length) '0' ++ digits
  let whole := digits.take (digits.length - places)
  if places = 0 then (if p.alternate then whole ++ ['.'] else whole)
  else whole ++ '.' :: digits.drop (digits.length - places)

/-- A fraction with so many places. -/
def fixed (p : Placement) (places : Nat) (r : Ratio) : List Char :=
  withPoint p places (roundEven (r.timesTenPow places))

/-- The digits of a fraction, one in front of the point, and the power of ten that they are multiplied by. -/
def scaled (places : Nat) (r : Ratio) : Nat × Int :=
  if r.num = 0 then (0, 0)
  else
    let leading := Decimal.leadingPlace r
    let n := roundEven (r.timesTenPow (places - leading))
    if Nat.pow 10 (places + 1) ≤ n then (n / 10, leading + 1) else (n, leading)

/-- A power of ten as it is written behind digits. -/
def powerText (power : Int) : List Char :=
  let digits := Nat.toDigits 10 power.natAbs
  'e' :: (if power < 0 then '-' else '+') :: List.replicate (2 - digits.length) '0' ++ digits

/-- A fraction with a power of ten. -/
def scientific (p : Placement) (places : Nat) (r : Ratio) : List Char :=
  let (n, power) := scaled places r
  withPoint p places n ++ powerText power

/-- Digits less the zeros behind a point. -/
def dropZeros (cs : List Char) : List Char :=
  if cs.contains '.' then
    let rest := cs.reverse.dropWhile (· == '0')
    (if rest.head? = some '.' then rest.tail else rest).reverse
  else cs

/-- A fraction in the shorter of both forms. -/
def general (p : Placement) (precision : Nat) (r : Ratio) : List Char :=
  let precision := max precision 1
  let (n, power) := scaled (precision - 1) r
  let strip (cs : List Char) : List Char := if p.alternate then cs else dropZeros cs
  if -4 ≤ power ∧ power < precision then strip (fixed p ((precision : Int) - 1 - power).toNat r)
  else strip (withPoint p (precision - 1) n) ++ powerText power

/-- A floating-point number. -/
def float (p : Placement) (conversion : Char) (x : Float) : List Char :=
  let lower := conversion.toLower
  let places := p.precision.getD 6
  let shape (r : Ratio) : List Char :=
    if lower == 'f' then fixed p places r
    else if lower == 'e' then scientific p places r
    else general p places r
  let write (negative : Bool) (cs : List Char) (mayPad : Bool) : List Char :=
    p.number (p.sign negative) (if conversion.isUpper then cs.map Char.toUpper else cs) mayPad
  match Parts.ofFloat x with
  | .notANumber => write false "nan".toList false
  | .infinite negative => write negative "inf".toList false
  | .zero negative => write negative (shape ⟨0, 1⟩) true
  | .finite negative value => write negative (shape (.timesTwoPow value.significand value.exponent)) true

/-! ## Arguments -/

/-- What is wrong with an argument or with the format. -/
inductive Fault where
  | notNumeric (text : String)
  | notComplete (text : String)
  | outOfRange (text : String)
  | invalidDirective (directive : String)
  | missingCharacter
  deriving Repr, Inhabited

/-- Blanks at the front of a number. -/
def isBlank (c : Char) : Bool := c == ' ' || (9 ≤ c.toNat && c.toNat ≤ 13)

/-- What comes of reading an argument as a number. -/
structure Read (α : Type) where
  value : α
  fault : Option Fault

/-- The fault of a text of which some characters were left unread. -/
def leftover (s : String) (nothing : Bool) (rest : List Char) : Option Fault :=
  if rest.isEmpty then none else some (if nothing then .notNumeric s else .notComplete s)

/-- The whole number that an argument writes; the character behind a quote stands for its code. -/
def whole (unsigned : Bool) (s : String) : Read Int :=
  match s.toList with
  | '\'' :: c :: _ => ⟨c.toNat, none⟩
  | '"' :: c :: _ => ⟨c.toNat, none⟩
  | all =>
    let cs := all.dropWhile isBlank
    let (negative, cs) := match cs with
      | '-' :: rest => (true, rest)
      | '+' :: rest => (false, rest)
      | rest => (false, rest)
    if (cs.head?.map Char.isDigit).getD false then
      let (n, rest) := Arithmetic.numberAt cs
      let high : Nat := if unsigned then UInt64.size - 1 else 9223372036854775807
      let low : Nat := if unsigned then UInt64.size - 1 else 9223372036854775808
      let size := if negative then min n low else min n high
      let value : Int := if negative then -(size : Int) else size
      ⟨value, if !rest.isEmpty then some (.notComplete s) else if size < n then some (.outOfRange s) else none⟩
    else ⟨0, leftover s true all⟩

/-- The floating-point number that an argument writes. -/
def fraction (s : String) : Read Float :=
  match s.toList with
  | '\'' :: c :: _ => ⟨Decimal.nearestFloat c.toNat 0, none⟩
  | '"' :: c :: _ => ⟨Decimal.nearestFloat c.toNat 0, none⟩
  | all =>
    let cs := all.dropWhile isBlank
    let (negative, cs) := match cs with
      | '-' :: rest => (true, rest)
      | '+' :: rest => (false, rest)
      | rest => (false, rest)
    let give (x : Float) (rest : List Char) : Read Float := ⟨if negative then -x else x, leftover s false rest⟩
    let lower := String.ofList (cs.map Char.toLower)
    if lower.startsWith "infinity" then give (1.0 / 0.0) (cs.drop 8)
    else if lower.startsWith "inf" then give (1.0 / 0.0) (cs.drop 3)
    else if lower.startsWith "nan" then ⟨0.0 / 0.0, leftover s false (cs.drop 3)⟩
    else match Decimal.floatAt? cs with
      | some (x, rest) => give x rest
      | none => ⟨0.0, leftover s true all⟩

/-! ## Formats -/

/-- Something that is written, or something that is wrong. -/
inductive Piece where
  | text (cs : List Char)
  | fault (fault : Fault)

/-- What one pass over a format comes to: its pieces, last first, the arguments that are left, whether one was
asked for, and whether all is to end. -/
structure Pass where
  pieces : List Piece
  left : List String
  consumed : Bool
  ended : Bool

/-- Adds pieces to a pass. -/
def Pass.add (pass : Pass) (text : List Char) (fault : Option Fault) : Pass :=
  { pass with pieces := .text text :: (fault.toList.map Piece.fault ++ pass.pieces) }

/-- The flags of a conversion. -/
def flags : Placement → List Char → Placement × List Char
  | p, '-' :: cs => flags { p with left := true } cs
  | p, '0' :: cs => flags { p with zero := true } cs
  | p, '+' :: cs => flags { p with plus := true } cs
  | p, ' ' :: cs => flags { p with blank := true } cs
  | p, '#' :: cs => flags { p with alternate := true } cs
  | p, cs => (p, cs)

/-- Takes the next argument. -/
def Pass.argument (pass : Pass) : Option String × Pass :=
  match pass.left with
  | [] => (none, { pass with consumed := true })
  | a :: left => (some a, { pass with left, consumed := true })

/-- A size in a conversion: digits, or a star for the next argument. -/
def size (pass : Pass) : List Char → Option Int × List Char × Pass
  | '*' :: rest =>
    let (a, pass) := pass.argument
    let read := whole false (a.getD "")
    (some read.value, rest, { pass with pieces := read.fault.toList.map Piece.fault ++ pass.pieces })
  | cs =>
    let (ds, rest) := someDigits digitValue? cs
    (if ds.isEmpty then none else some (numeral 10 ds), rest, pass)

/-- The placement of a conversion, from behind the percent sign. -/
def placement (pass : Pass) (cs : List Char) : Placement × List Char × Pass :=
  let (p, cs) := flags {} cs
  let (width, cs, pass) := size pass cs
  let p := match width with
    | some n => { p with width := n.natAbs, left := p.left || n < 0 }
    | none => p
  match cs with
  | '.' :: cs =>
    let (precision, cs, pass) := size pass cs
    let precision := precision.getD 0
    ({ p with precision := if precision < 0 then none else some precision.toNat }, cs, pass)
  | cs => (p, cs, pass)

/-- One pass over a format. The fuel bounds the number of characters. -/
def passOver (isProgram : Bool) : Nat → Pass → List Char → Pass
  | 0, pass, _ => pass
  | _ + 1, pass, [] => pass
  | fuel + 1, pass, '\\' :: rest =>
    if isProgram && rest.head? = some 'c' then { pass with ended := true }
    else
      let (text, rest) := escape isProgram rest
      passOver isProgram fuel (pass.add text none) rest
  | fuel + 1, pass, '%' :: '%' :: rest => passOver isProgram fuel (pass.add ['%'] none) rest
  | fuel + 1, pass, '%' :: cs =>
    let (p, rest, pass) := placement pass cs
    let cut (text : List Char) : List Char := match p.precision with
      | some n => text.take n
      | none => text
    match rest with
    | [] =>
      let fault := if isProgram then Fault.invalidDirective ("%" ++ String.ofList cs) else .missingCharacter
      { pass with pieces := .fault fault :: pass.pieces, ended := true }
    | conversion :: rest =>
      let (argument, after) := pass.argument
      let a := argument.getD ""
      let go (text : List Char) (fault : Option Fault) : Pass := passOver isProgram fuel (after.add text fault) rest
      if conversion == 's' then go (p.fill (cut a.toList)) none
      else if conversion == 'b' then
        let (text, ended) := withEscapes isProgram a
        let written := after.add (p.fill (cut text.toList)) none
        if ended then { written with ended := true } else passOver isProgram fuel written rest
      else if conversion == 'c' then
        if isProgram && a == "" then go (p.fill []) none
        else go (p.fill [a.toList.headD (byte 0)]) none
      else if conversion == 'd' || conversion == 'i' then
        let read := whole false a
        go (p.signed read.value) read.fault
      else if "ouxX".toList.contains conversion then
        let read := whole true a
        go (p.unsigned conversion (read.value % UInt64.size).toNat) read.fault
      else if "eEfFgG".toList.contains conversion then
        let read := fraction a
        go (float p conversion read.value) read.fault
      else if isProgram && conversion == 'q' then
        let plain := !a.isEmpty && a.toList.all fun c => c.isAlphanum || "_-./:@%+=,".toList.contains c
        go (p.fill (if plain then a.toList else (quoted a).toList)) none
      else
        let directive := "%" ++ String.ofList (cs.take (cs.length - rest.length))
        { pass with pieces := .fault (.invalidDirective directive) :: pass.pieces, ended := true }
  | fuel + 1, pass, c :: rest => passOver isProgram fuel (pass.add [c] none) rest

/-- Passes over a format until all arguments are used. The fuel bounds their number. -/
def passes (isProgram : Bool) (format : List Char) : Nat → List Piece → List String → List Piece × List String
  | 0, pieces, left => (pieces, left)
  | fuel + 1, pieces, left =>
    let pass := passOver isProgram (format.length + 1) ⟨pieces, left, false, false⟩ format
    if pass.ended || !pass.consumed || pass.left.isEmpty then (pass.pieces, if pass.ended then [] else pass.left)
    else passes isProgram format fuel pass.pieces pass.left

/-- What a format comes to with arguments, in order, and the arguments that it has no use for. -/
def format (isProgram : Bool) (text : String) (args : List String) : List Piece × List String :=
  let (pieces, left) := passes isProgram text.toList (args.length + 1) [] args
  (pieces.reverse, left)

/-! ## `echo` -/

/-- What the builtin `echo` writes, which always carries out escapes. -/
def echo (args : List String) : String :=
  let (newline, args) := match args with
    | "-n" :: rest => (false, rest)
    | args => (true, args)
  let (text, ended) := withEscapes false (" ".intercalate args)
  if ended || !newline then text else text ++ "\n"

/-- Whether an argument of the program `echo` holds options only. -/
def isEchoOption (a : String) : Bool :=
  match a.toList with
  | '-' :: c :: cs => (c :: cs).all fun c => c == 'n' || c == 'e' || c == 'E'
  | _ => false

/-- What the program `echo` writes, which carries out escapes if it is told to. -/
def programEcho (args : List String) : String :=
  let options := args.takeWhile isEchoOption
  let text := " ".intercalate (args.drop options.length)
  let letters := options.flatMap String.toList
  let escapes := match letters.reverse.find? fun c => c == 'e' || c == 'E' with
    | some 'e' => true
    | _ => false
  let (text, ended) := if escapes then withEscapes true text else (text, false)
  if ended || letters.contains 'n' then text else text ++ "\n"

end BatchRunner.Machine.Shell.Format
