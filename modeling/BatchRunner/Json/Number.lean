import BatchRunner.Text.Scan
import BatchRunner.Decode.Node
import BatchRunner.Decimal.Layout

/-!
# JSON numbers

A number without fraction and exponent that fits 64 bits is whole; any other is a double. The double is not
always the nearest one: at most 64 bits of the digits are used, and they are scaled by one power of ten at a
time.
-/

namespace BatchRunner.Json

open BatchRunner.Text BatchRunner.Decode

/-- The greatest number whose digits are used. -/
def wordLimit : Nat := 0xFFFFFFFFFFFFFFFF

/-- The power `10 ^ n` as a double. -/
def tenPow (n : Nat) : Float := Decimal.nearestFloat 1 n

/-- Scales a double by a power of ten, or nothing if it grows beyond the range. The fuel bounds the number
of steps of `10 ^ 308`. -/
def scale : Nat → Float → Int → Option Float
  | 0, x, _ => some x
  | fuel + 1, x, power =>
    if power.natAbs ≤ 308 then
      if 0 ≤ power then
        let y := x * tenPow power.natAbs
        if y.isInf then none else some y
      else some (x / tenPow power.natAbs)
    else if x == 0.0 then some x
    else if 0 ≤ power then none
    else scale fuel (x / tenPow 308) (power + 308)

/-- The node of a double, or the sign that its text has no meaning. -/
def doubleNode (negative : Bool) (digits : Nat) (power : Int) : Node :=
  match scale 64 (Decimal.nearestFloat digits 0) power with
  | some x => .floating (Decimal.Layout.compact.write (if negative then -x else x))
  | none => .unreadable

/-- The digits of a whole part that fit a word, and the number of those that do not. -/
def leadingDigits : Nat → List Nat → Nat × Nat
  | n, [] => (n, 0)
  | n, d :: ds => if n * 10 + d ≤ wordLimit then leadingDigits (n * 10 + d) ds else (n, ds.length + 1)

/-- The digits of a fraction that are used behind those of the whole part, and their number. -/
def fractionDigits : Nat → List Nat → Nat × Nat
  | n, [] => (n, 0)
  | n, d :: ds =>
    if n * 10 + d ≤ wordLimit then
      let (m, count) := fractionDigits (n * 10 + d) ds
      (m, count + 1)
    else (n, 0)

/-- The exponents that are told apart from ever greater ones. -/
def exponentLimit : Nat := 0x7FFFFFFF

/-- The node of a number in parts. -/
def numberNode (negative : Bool) (whole : List Nat) (fraction : Option (List Nat))
    (power : Option (Bool × List Nat)) : Node :=
  let (digits, dropped) := leadingDigits 0 whole
  match fraction, power with
  | none, none =>
    if dropped ≠ 0 then doubleNode negative digits dropped
    else if negative then
      if digits = 0 ∨ 0x8000000000000000 < digits then doubleNode true digits 0 else .integer (-(digits : Int))
    else .integer digits
  | _, _ =>
    let (digits, places) := match fraction with
      | some ds => fractionDigits digits ds
      | none => (digits, 0)
    let start : Int := (dropped : Int) - places
    match power with
    | none => doubleNode negative digits start
    | some (down, ds) =>
      let n := numeral 10 ds
      if exponentLimit < n then
        if digits ≠ 0 ∧ !down then .unreadable
        else .floating (if negative then "-0.0" else "0.0")
      else doubleNode negative digits (if down then start - n else start + n)

/-- The node of a number and what is left behind it, or nothing if the text is no number. -/
def number (cs : List Char) : Option (Node × List Char) := do
  let (negative, cs) := match cs with
    | '-' :: rest => (true, rest)
    | cs => (false, cs)
  let (whole, rest) ← match cs with
    | '0' :: rest => match rest with
      | c :: _ => if (digitValue? c).isSome then none else some ([0], rest)
      | [] => some ([0], [])
    | cs => match someDigits digitValue? cs with
      | ([], _) => none
      | found => some found
  let (fraction, rest) ← match rest with
    | '.' :: more => match someDigits digitValue? more with
      | ([], _) => none
      | (ds, rest) => some (some ds, rest)
    | rest => some (none, rest)
  let (power, rest) ← match rest with
    | c :: more =>
      if c = 'e' ∨ c = 'E' then
        let (down, more) := match more with
          | '+' :: more => (false, more)
          | '-' :: more => (true, more)
          | more => (false, more)
        match someDigits digitValue? more with
        | ([], _) => none
        | (ds, rest) => some (some (down, ds), rest)
      else some (none, c :: more)
    | [] => some (none, [])
  some (numberNode negative whole fraction power, rest)

end BatchRunner.Json
