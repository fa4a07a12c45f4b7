/-!
# Shortest decimal digits

The fewest decimal digits that read back as a given binary floating-point number, and of those the nearest
to it. The work is done in exact whole-number arithmetic on the number's significand and exponent.
-/

namespace BatchRunner.Decimal

/-- A decimal number without a sign: `digits · 10 ^ exponent`. -/
structure Scaled where
  digits : Nat
  exponent : Int
  deriving DecidableEq, Repr, Inhabited

/-- A positive binary number `significand · 2 ^ exponent`, with whether the numbers below it lie twice as
close as those above. -/
structure Binary where
  significand : Nat
  exponent : Int
  closerBelow : Bool
  deriving DecidableEq, Repr

/-- A fraction of whole numbers. -/
structure Ratio where
  num : Nat
  den : Nat
  deriving DecidableEq, Repr

namespace Ratio

/-- `n · 2 ^ k`. -/
def timesTwoPow (n : Nat) (k : Int) : Ratio :=
  if 0 ≤ k then ⟨n * Nat.pow 2 k.toNat, 1⟩ else ⟨n, Nat.pow 2 (-k).toNat⟩

/-- `r · 10 ^ k`. -/
def timesTenPow (r : Ratio) (k : Int) : Ratio :=
  if 0 ≤ k then ⟨r.num * Nat.pow 10 k.toNat, r.den⟩ else ⟨r.num, r.den * Nat.pow 10 (-k).toNat⟩

/-- `a < b`. -/
def less (a b : Ratio) : Bool := a.num * b.den < b.num * a.den

/-- `a ≤ b`. -/
def atMost (a b : Ratio) : Bool := a.num * b.den ≤ b.num * a.den

end Ratio

/-- The number of decimal digits of a number; zero has none. -/
def digitCount (n : Nat) : Nat := if n = 0 then 0 else (Nat.toDigits 10 n).length

/-- The place of the leading digit of a positive fraction: the `p` with `10 ^ p ≤ r < 10 ^ (p + 1)`. -/
def leadingPlace (r : Ratio) : Int :=
  if r.den ≤ r.num then (digitCount (r.num / r.den) : Int) - 1
  else -(digitCount ((r.den + r.num - 1) / r.num - 1) : Int)

/-- The reals that round to a binary number: the two ends, and whether the ends belong to them. -/
structure Interval where
  low : Ratio
  high : Ratio
  closed : Bool

/-- Whether a fraction lies in an interval. -/
def Interval.contains (i : Interval) (r : Ratio) : Bool :=
  if i.closed then i.low.atMost r && r.atMost i.high else i.low.less r && r.less i.high

/-- The interval of a binary number; a number halfway between two goes to the even significand. -/
def Binary.interval (b : Binary) : Interval where
  low := .timesTwoPow (4 * b.significand - if b.closerBelow then 1 else 2) (b.exponent - 2)
  high := .timesTwoPow (4 * b.significand + 2) (b.exponent - 2)
  closed := b.significand % 2 == 0

/-- The point of the grid of multiples of `10 ^ place` that lies in the interval of a number nearest to the
number, if there is one. Only the number's two neighbours on the grid need a look. -/
def onGrid (b : Binary) (place : Int) : Option Nat :=
  let value := Ratio.timesTwoPow b.significand b.exponent
  let scaled := value.timesTenPow (-place)
  let below := scaled.num / scaled.den
  let inside (n : Nat) : Bool := b.interval.contains (Ratio.timesTenPow ⟨n, 1⟩ place)
  match inside below && below != 0, inside (below + 1) with
  | false, false => none
  | true, false => some below
  | false, true => some (below + 1)
  | true, true =>
    let past : Nat := 2 * (scaled.num % scaled.den)
    if past < scaled.den then some below
    else if scaled.den < past then some (below + 1)
    else some (below + below % 2)

/-- Drops zeros at the end of the digits. -/
def Scaled.trim (d : Scaled) : Scaled :=
  go 32 d
where
  /-- Drops at most `fuel` zeros. -/
  go : Nat → Scaled → Scaled
    | 0, d => d
    | fuel + 1, d =>
      if d.digits ≠ 0 ∧ d.digits % 10 = 0 then go fuel ⟨d.digits / 10, d.exponent + 1⟩ else d

/-- The first of the grids with `count`, `count + 1`, … digits that has a point for the number. -/
def search (b : Binary) (leading : Int) : Nat → Nat → Scaled
  | 0, _ => ⟨0, 0⟩
  | fuel + 1, count =>
    let place := leading - (count : Int) + 1
    match onGrid b place with
    | some n => Scaled.trim ⟨n, place⟩
    | none => search b leading fuel (count + 1)

/-- The fewest digits that read back as a positive binary number. Seventeen always do. -/
def Binary.shortest (b : Binary) : Scaled :=
  search b (leadingPlace (.timesTwoPow b.significand b.exponent)) 17 1

/-- A floating-point number as its sign and what it stands for. -/
inductive Parts where
  | notANumber
  | infinite (negative : Bool)
  | zero (negative : Bool)
  | finite (negative : Bool) (value : Binary)
  deriving Repr

/-- Takes a double apart. -/
def Parts.ofFloat (x : Float) : Parts :=
  let bits : Nat := x.toBits.toNat
  let negative := bits >>> 63 == 1
  let biased : Nat := (bits >>> 52) % 0x800
  let fraction : Nat := bits % 0x10000000000000
  if biased == 2047 then
    if fraction == 0 then .infinite negative else .notANumber
  else if biased == 0 then
    if fraction == 0 then .zero negative else .finite negative ⟨fraction, -1074, false⟩
  else .finite negative ⟨0x10000000000000 + fraction, (biased : Int) - 1075, fraction == 0 && biased != 1⟩

end BatchRunner.Decimal
