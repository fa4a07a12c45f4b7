import BatchRunner.Machine.Tool.Rules.Token

/-!
# Values of a script

A value is a number or a text. A text that was read counts as a number as well if it looks like one; a value that was
never given counts as both nothing and zero.
-/

namespace BatchRunner.Machine.Tool.Rules

/-- A value. -/
inductive Value where
  | unset
  | number (x : Float)
  | text (s : String)
  /-- A text that was read. -/
  | found (s : String)
  deriving Inhabited

/-! ## Numbers in texts -/

/-- Whether a character is a blank. -/
def isSpace (c : Char) : Bool := c == ' ' || (9 ≤ c.toNat && c.toNat ≤ 13)

/-- The sign in front of a number, and what is behind it. -/
def signAt : List Char → Bool × List Char
  | '-' :: rest => (true, rest)
  | '+' :: rest => (false, rest)
  | rest => (false, rest)

/-- The number that a text begins with; zero if it begins with none. -/
def numberOf (s : String) : Float :=
  let (isNegative, cs) := signAt (s.toList.dropWhile isSpace)
  let x : Float := match cs with
    | '0' :: x :: digit :: rest =>
      if (x == 'x' || x == 'X') && (Text.hexValue? digit).isSome then
        (Text.numeral 16 (Text.someDigits Text.hexValue? (digit :: rest)).1).toFloat
      else plain cs
    | cs => plain cs
  if isNegative then -x else x
where
  /-- A number in decimal, or one that has a name. -/
  plain (cs : List Char) : Float :=
    match Decimal.floatAt? cs with
    | some (x, _) => x
    | none =>
      let name := String.ofList ((cs.take 3).map Char.toLower)
      if name == "inf" then 1.0 / 0.0 else if name == "nan" then 0.0 / 0.0 else 0.0

/-- Whether a text looks like a number: blanks around it do not count. -/
def looksLikeNumber (s : String) : Bool :=
  let (_, cs) := signAt (s.toList.dropWhile isSpace)
  match Decimal.floatAt? cs with
  | some (_, rest) => rest.all isSpace
  | none => false

/-! ## Formats -/

/-- The whole number that is nearest to a number in the direction of zero, within the range of 64 bits; one that is
not negative may need all of them. -/
def wholeOf (x : Float) : Int :=
  let highest : Int := 18446744073709551615
  let lowest : Int := -9223372036854775808
  match Decimal.Parts.ofFloat x with
  | .notANumber => lowest
  | .infinite isNegative => if isNegative then lowest else highest
  | .zero _ => 0
  | .finite isNegative value =>
    let r := Decimal.Ratio.timesTwoPow value.significand value.exponent
    let n : Int := (r.num / r.den : Nat)
    if isNegative then max (-n) lowest else min n highest

/-- Whether a number is whole. -/
def isWhole (x : Float) : Bool :=
  match Decimal.Parts.ofFloat x with
  | .zero _ => true
  | .finite _ value => let r := Decimal.Ratio.timesTwoPow value.significand value.exponent; r.num % r.den == 0
  | _ => false

/-- What the placement of a conversion is from behind the percent sign, and how many of the numbers in it are
arguments; those stand for sizes. -/
def placementAt (sizes : List Int) (cs : List Char) : Shell.Format.Placement × List Char × List Int :=
  let (p, cs) := Shell.Format.flags {} cs
  let (width, cs, sizes) := sizeAt sizes cs
  let p := match width with
    | some n => { p with width := n.natAbs, left := p.left || n < 0 }
    | none => p
  match cs with
  | '.' :: cs =>
    let (precision, cs, sizes) := sizeAt sizes cs
    let n := precision.getD 0
    ({ p with precision := if n < 0 then none else some n.toNat }, cs, sizes)
  | cs => (p, cs, sizes)
where
  /-- A size: digits, or a star for an argument. -/
  sizeAt (sizes : List Int) : List Char → Option Int × List Char × List Int
    | '*' :: rest => (some (sizes.headD 0), rest, sizes.drop 1)
    | cs =>
      let (ds, rest) := Text.someDigits Text.digitValue? cs
      (if ds.isEmpty then none else some (Text.numeral 10 ds : Int), rest, sizes)

/-- How many stars a conversion has in front of its letter. -/
def starsOf (cs : List Char) : Nat :=
  ((cs.takeWhile fun c => c.isDigit || "-+ #0.*".toList.contains c).filter (· == '*')).length

/-- A number in a format that has one conversion, for numbers. -/
def numberIn (format : String) (x : Float) : String :=
  go (format.length + 1) format.toList
where
  /-- The characters that are left. -/
  go : Nat → List Char → String
    | 0, _ => ""
    | _, [] => ""
    | fuel + 1, '%' :: '%' :: rest => "%" ++ go fuel rest
    | fuel + 1, '%' :: cs =>
      let (p, rest, _) := placementAt [] cs
      match rest with
      | c :: rest =>
        if c == 'd' || c == 'i' then String.ofList (p.signed (wholeOf x)) ++ go fuel rest
        else (if x.isNaN then "-nan" else String.ofList (Shell.Format.float p c x)) ++ go fuel rest
      | [] => "%" ++ String.ofList cs
    | fuel + 1, c :: rest => c.toString ++ go fuel rest

/-- A number as a text: one that is whole by its digits, and others in a format. -/
def numberText (format : String) (x : Float) : String :=
  let n := wholeOf x
  if isWhole x && Float.ofInt n == x then toString n
  else numberIn format x

namespace Value

/-- A value as a number. -/
def toNumber : Value → Float
  | unset => 0
  | number x => x
  | text s => numberOf s
  | found s => numberOf s

/-- A value as a text, with a format for numbers that are not whole. -/
def toText (format : String) : Value → String
  | unset => ""
  | number x => numberText format x
  | text s => s
  | found s => s

/-- Whether a value counts as a number in a comparison. -/
def isNumeric : Value → Bool
  | unset => true
  | number _ => true
  | text _ => false
  | found s => looksLikeNumber s

/-- Whether a value counts as true. -/
def isTrue : Value → Bool
  | unset => false
  | number x => x != 0
  | text s => !s.isEmpty
  | found s => if looksLikeNumber s then numberOf s != 0 else !s.isEmpty

/-- The number for whether something holds. -/
def ofBool (b : Bool) : Value := .number (if b then 1 else 0)

/-- Compares two values: as numbers if both count as such, and else as texts. -/
def compare (format : String) (how : Comparison) (a b : Value) : Bool :=
  if a.isNumeric && b.isNumeric then
    let x := a.toNumber
    let y := b.toNumber
    match how with
    | .less => x < y
    | .atMost => x ≤ y
    | .equal => x == y
    | .unequal => x != y
    | .more => y < x
    | .atLeast => y ≤ x
  else
    let x := a.toText format
    let y := b.toText format
    match how with
    | .less => x < y
    | .atMost => !(y < x)
    | .equal => x == y
    | .unequal => x != y
    | .more => y < x
    | .atLeast => !(x < y)

end Value

/-! ## Calculations -/

/-- The remainder of a division, with the sign of the number that is divided. -/
def remainder (x y : Float) : Float :=
  match Decimal.Parts.ofFloat x, Decimal.Parts.ofFloat y with
  | .finite isNegative a, .finite _ b =>
    let place := min a.exponent b.exponent
    let m := a.significand * Nat.pow 2 (a.exponent - place).toNat
    let n := b.significand * Nat.pow 2 (b.exponent - place).toNat
    let r := Float.scaleB (m % n).toFloat place
    if isNegative then -r else r
  | .zero _, .finite _ _ => x
  | .zero _, .infinite _ => x
  | .finite _ _, .infinite _ => x
  | _, _ => 0.0 / 0.0

/-- Combines two numbers. -/
def Operation.apply : Operation → Float → Float → Float
  | sum, x, y => x + y
  | difference, x, y => x - y
  | product, x, y => x * y
  | quotient, x, y => x / y
  | remainder, x, y => Rules.remainder x y
  | power, x, y => Float.pow x y

/-! ## Formatted output -/

/-- What comes of a format: the text, and whether arguments were missing behind it. -/
structure Formatted where
  text : String
  isShort : Bool := false

/-- Writes arguments in a format. The fuel bounds the number of characters. -/
def formatted (convert : String) : Nat → List Char → List Value → List String → Formatted
  | 0, _, _, done => ⟨String.join done.reverse, false⟩
  | _, [], _, done => ⟨String.join done.reverse, false⟩
  | fuel + 1, '%' :: '%' :: rest, args, done => formatted convert fuel rest args ("%" :: done)
  | fuel + 1, '%' :: cs, args, done =>
    let stars := starsOf cs
    if args.length < stars then ⟨String.join done.reverse, true⟩
    else
      let (p, behind, _) := placementAt ((args.take stars).map fun v => wholeOf v.toNumber) cs
      let behind := behind.dropWhile fun c => c == 'l' || c == 'h'
      match behind, args.drop stars with
      | _, [] => ⟨String.join done.reverse, true⟩
      | [], _ => ⟨String.join done.reverse ++ "%" ++ String.ofList cs, false⟩
      | c :: rest, value :: args =>
        let go (text : List Char) : Formatted := formatted convert fuel rest args (String.ofList text :: done)
        let cut (text : List Char) : List Char := match p.precision with
          | some n => text.take n
          | none => text
        if c == 'd' || c == 'i' then go (p.signed (wholeOf value.toNumber))
        else if "ouxX".toList.contains c then
          go (p.unsigned c (wholeOf value.toNumber % (UInt64.size : Int)).toNat)
        else if "eEfFgG".toList.contains c then go (Shell.Format.float p c value.toNumber)
        else if c == 's' then go (p.fill (cut (value.toText convert).toList))
        else if c == 'c' then
          let isCode := match value with
            | .number _ => true
            | .found s => looksLikeNumber s
            | _ => false
          let code : Char := if isCode then Shell.Format.byte (wholeOf value.toNumber % 256).toNat
            else (value.toText convert).toList.headD (Shell.Format.byte 0)
          go (p.fill [code])
        else formatted convert fuel rest args (("%" ++ c.toString) :: done)
  | fuel + 1, c :: rest, args, done =>
    let plain := rest.takeWhile (· != '%')
    formatted convert fuel (rest.drop plain.length) args (String.ofList (c :: plain) :: done)

end BatchRunner.Machine.Tool.Rules
