import BatchRunner.Decimal.Layout
import BatchRunner.Text.Scan

/-!
# Numerals

Numbers as they are written in decimal: digits, perhaps with a point among them, and a power of ten.
-/

namespace BatchRunner.Decimal

open BatchRunner.Text (digitValue? numeral someDigits)

/-- The power of ten behind the digits of a number, and what is behind it. -/
def powerAt (cs : List Char) : Int × List Char :=
  match cs with
  | e :: more =>
    if e == 'e' || e == 'E' then
      let (down, digits) := match more with
        | '-' :: ds => (true, ds)
        | '+' :: ds => (false, ds)
        | ds => (false, ds)
      let (ds, rest) := someDigits digitValue? digits
      if ds.isEmpty then (0, cs)
      else
        let n : Int := numeral 10 ds
        (if down then -n else n, rest)
    else (0, cs)
  | [] => (0, [])

/-- The floating-point number that is nearest to the one that the characters begin with, and what is behind it; nothing
if they begin with no digits. -/
def floatAt? (cs : List Char) : Option (Float × List Char) :=
  let (front, rest) := someDigits digitValue? cs
  let (back, rest) := match rest with
    | '.' :: rest => someDigits digitValue? rest
    | rest => ([], rest)
  if front.isEmpty && back.isEmpty then none
  else
    let (power, rest) := powerAt rest
    some (nearestFloat (numeral 10 (front ++ back)) (power - back.length), rest)

end BatchRunner.Decimal
