import BatchRunner.Text.Scan
import BatchRunner.Decode.Basic

/-!
# Task identifiers

Every task has an identifier of 128 bits, written as 32 hexadecimal digits in five groups.
-/

namespace BatchRunner

/-- What tells a task from every other one. -/
structure TaskId where
  bits : BitVec 128
  deriving DecidableEq, Repr, Inhabited

namespace TaskId

open BatchRunner.Text

/-- The identifier with a number. -/
def ofNat (n : Nat) : TaskId := ⟨BitVec.ofNat 128 n⟩

/-- The 32 lower-case digits of an identifier. -/
def hexDigits (id : TaskId) : List Char :=
  let ds := Nat.toDigits 16 id.bits.toNat
  List.replicate (32 - ds.length) '0' ++ ds

/-- The digits in groups of eight, four, four, four and twelve with hyphens between them. -/
def hyphenated (id : TaskId) : String :=
  let ds := id.hexDigits
  let group (start count : Nat) : String := String.ofList ((ds.drop start).take count)
  "-".intercalate [group 0 8, group 8 4, group 12 4, group 16 4, group 20 12]

/-- The eight digits by which a task is named in a message. -/
def short (id : TaskId) : String := String.ofList (id.hexDigits.take 8)

/-- An identifier from 32 digits. -/
def ofDigits? (cs : List Char) : Option TaskId := do
  let (ds, rest) ← exactDigits hexValue? 32 cs
  if rest.isEmpty then some (ofNat (numeral 16 ds)) else none

/-- An identifier in five groups. -/
def ofGroups? (cs : List Char) : Option TaskId := do
  let (a, rest) ← exactDigits hexValue? 8 cs
  let (b, rest) ← exactDigits hexValue? 4 (← literal ['-'] rest)
  let (c, rest) ← exactDigits hexValue? 4 (← literal ['-'] rest)
  let (d, rest) ← exactDigits hexValue? 4 (← literal ['-'] rest)
  let (e, rest) ← exactDigits hexValue? 12 (← literal ['-'] rest)
  if rest.isEmpty then some (ofNat (numeral 16 (a ++ b ++ c ++ d ++ e))) else none

/-- What stands in front of the groups of an identifier that is written as a name. -/
def namespaceMark : String := "urn:uuid:"

/-- The characters behind the mark of a name, which may be of either case. -/
def behindMark? (cs : List Char) : Option (List Char) :=
  let size := namespaceMark.length
  if (cs.take size).map Char.toLower = namespaceMark.toList then some (cs.drop size) else none

/-- Reads an identifier: 32 digits, five groups, or five groups in braces or behind a mark. Letters may be of
either case. -/
def parse? (s : String) : Option TaskId :=
  let cs := s.toList
  match behindMark? cs with
  | some rest => ofGroups? rest
  | none => match cs with
    | '{' :: rest =>
      if rest.getLast? = some '}' then ofGroups? rest.dropLast else none
    | _ => (ofDigits? cs).orElse fun _ => ofGroups? cs

end TaskId

end BatchRunner
