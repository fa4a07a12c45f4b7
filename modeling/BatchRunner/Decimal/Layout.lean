import BatchRunner.Decimal.Shortest

/-!
# Layouts of decimal numbers

How the digits of a floating-point number are set out: where positional notation gives way to an exponent,
and how the numbers are called that have no digits.
-/

namespace BatchRunner.Decimal

/-- The decisions that a way of writing numbers makes. A number is written positionally if the place of its
leading digit, counted so that the ones have place one, lies between `leastPlace` and `greatestPlace`; no
bounds mean always. A fraction of zero is always written. `plus` says whether an exponent that is not negative
has a sign. -/
structure Layout where
  leastPlace : Option Int
  greatestPlace : Option Int
  plus : Bool

/-- Always positional. -/
def Layout.plain : Layout := ⟨none, none, false⟩

/-- Positional from a hundred-thousandth up to sixteen places in front of the point; other exponents have a
sign. -/
def Layout.compact : Layout := ⟨some (-4), some 16, true⟩

/-- The digits of a decimal number set out around a point. -/
def positional (digits : List Char) (exponent : Int) : String :=
  let place : Int := digits.length + exponent
  if 0 ≤ exponent then
    String.ofList (digits ++ List.replicate exponent.toNat '0') ++ ".0"
  else if 0 < place then
    String.ofList (digits.take place.toNat) ++ "." ++ String.ofList (digits.drop place.toNat)
  else "0." ++ String.ofList (List.replicate (-place).toNat '0' ++ digits)

/-- The digits of a decimal number with a point behind the first and an exponent. -/
def scientific (plus : Bool) (digits : List Char) (exponent : Int) : String :=
  let place : Int := digits.length + exponent
  let mantissa := match digits with
    | [] => ""
    | [d] => d.toString
    | d :: rest => d.toString ++ "." ++ String.ofList rest
  mantissa ++ "e" ++ (if plus && 1 ≤ place then "+" else "") ++ toString (place - 1)

/-- A number without its sign. -/
def Layout.unsigned (layout : Layout) (d : Scaled) : String :=
  let digits := Nat.toDigits 10 d.digits
  let place : Int := digits.length + d.exponent
  let fits := layout.leastPlace.all (· ≤ place) && layout.greatestPlace.all (place ≤ ·)
  if fits then positional digits d.exponent else scientific layout.plus digits d.exponent

/-- The written form of a floating-point number. -/
def Layout.write (layout : Layout) (x : Float) : String :=
  let sign (negative : Bool) : String := if negative then "-" else ""
  match Parts.ofFloat x with
  | .notANumber => "NaN"
  | .infinite negative => sign negative ++ "inf"
  | .zero negative => sign negative ++ "0.0"
  | .finite negative value => sign negative ++ layout.unsigned value.shortest

/-- The double nearest to `digits · 10 ^ exponent`. Exponents far outside the range of doubles are cut off
before any power is taken. -/
def nearestFloat (digits : Nat) (exponent : Int) : Float :=
  if digits = 0 then 0.0
  else
    let place : Int := digitCount digits + exponent
    if place < -330 then 0.0
    else if 310 < place then 1.0 / 0.0
    else if 0 ≤ exponent then Float.ofScientific digits false exponent.toNat
    else Float.ofScientific digits true (-exponent).toNat

end BatchRunner.Decimal
