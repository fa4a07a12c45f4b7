/-!
# Reading from a list of characters

Small readers that both document formats share. A reader takes the characters that are left and gives back
what it read and what is left behind it.
-/

namespace BatchRunner.Text

/-- Reads something from the front of the characters, or refuses them. -/
abbrev Reader (α : Type) := List Char → Option (α × List Char)

/-- The decimal value of a digit. -/
def digitValue? (c : Char) : Option Nat :=
  if '0' ≤ c ∧ c ≤ '9' then some (c.toNat - '0'.toNat) else none

/-- The hexadecimal value of a digit, in either case. -/
def hexValue? (c : Char) : Option Nat :=
  if '0' ≤ c ∧ c ≤ '9' then some (c.toNat - '0'.toNat)
  else if 'a' ≤ c ∧ c ≤ 'f' then some (c.toNat - 'a'.toNat + 10)
  else if 'A' ≤ c ∧ c ≤ 'F' then some (c.toNat - 'A'.toNat + 10)
  else none

/-- The number that a list of digits writes in a base. -/
def numeral (base : Nat) (digits : List Nat) : Nat :=
  digits.foldl (fun n d => n * base + d) 0

/-- Exactly `count` digits. -/
def exactDigits (value? : Char → Option Nat) : Nat → Reader (List Nat)
  | 0, cs => some ([], cs)
  | _ + 1, [] => none
  | count + 1, c :: cs => do
    let d ← value? c
    let (ds, rest) ← exactDigits value? count cs
    some (d :: ds, rest)

/-- As many digits as there are. -/
def someDigits (value? : Char → Option Nat) : List Char → List Nat × List Char
  | [] => ([], [])
  | c :: cs => match value? c with
    | none => ([], c :: cs)
    | some d =>
      let (ds, rest) := someDigits value? cs
      (d :: ds, rest)

/-- The characters behind a fixed text. -/
def literal : List Char → List Char → Option (List Char)
  | [], cs => some cs
  | _ :: _, [] => none
  | p :: ps, c :: cs => if p = c then literal ps cs else none

end BatchRunner.Text
