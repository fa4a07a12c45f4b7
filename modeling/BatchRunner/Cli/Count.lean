import BatchRunner.Text.Scan

/-!
# Counts on the command line

A count is written in decimal digits, with or without a plus sign.
-/

namespace BatchRunner.Cli

/-- Why a text is no count. -/
inductive CountFault where
  | empty
  | invalidDigit
  | tooLarge
  deriving DecidableEq, Repr, Inhabited

/-- The text of a fault. -/
def CountFault.message : CountFault → String
  | empty => "cannot parse integer from empty string"
  | invalidDigit => "invalid digit found in string"
  | tooLarge => "number too large to fit in target type"

/-- The least number that is too large for a count. -/
def countLimit : Nat := UInt64.size

/-- Reads digits behind a number that was already read. The first digit that is none, or that makes the
number too large, decides what is wrong. -/
def readDigits (n : Nat) : List Char → Except CountFault Nat
  | [] => .ok n
  | c :: cs => match Text.digitValue? c with
    | none => .error .invalidDigit
    | some digit =>
      let n := n * 10 + digit
      if n < countLimit then readDigits n cs else .error .tooLarge

/-- Reads a count. -/
def readCount (text : String) : Except CountFault Nat :=
  match text.toList with
  | [] => .error .empty
  | ['+'] => .error .invalidDigit
  | '+' :: digits => readDigits 0 digits
  | digits => readDigits 0 digits

end BatchRunner.Cli
