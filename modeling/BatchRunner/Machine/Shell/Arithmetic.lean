import BatchRunner.Machine.Shell.Context
import BatchRunner.Text.Scan

/-!
# Arithmetic

Expressions over whole numbers of 64 bits with a sign, which wrap around. Variables in them are read as numbers
and may be assigned to.
-/

namespace BatchRunner.Machine.Shell.Arithmetic

open BatchRunner.Text

/-- A piece of an expression. -/
inductive Symbol where
  | number (n : Int)
  | name (name : String)
  | sign (sign : String)
  /-- A character that has no meaning. -/
  | other
  deriving DecidableEq, Repr, Inhabited

/-- The largest number. -/
def largest : Int := 9223372036854775807

/-- A number that wraps around. -/
def wrap (n : Int) : Int := Int.bmod n UInt64.size

/-- The number at the front of the characters, in the base that its first digits tell, and what is behind it. -/
def numberAt (cs : List Char) : Nat × List Char :=
  match cs with
  | '0' :: x :: d :: rest =>
    if (x == 'x' || x == 'X') && (hexValue? d).isSome then
      let (ds, rest) := someDigits hexValue? (d :: rest)
      (numeral 16 ds, rest)
    else
      let (ds, rest) := someDigits (fun c => (digitValue? c).filter (· < 8)) cs
      (numeral 8 ds, rest)
  | '0' :: _ =>
    let (ds, rest) := someDigits (fun c => (digitValue? c).filter (· < 8)) cs
    (numeral 8 ds, rest)
  | _ =>
    let (ds, rest) := someDigits digitValue? cs
    (numeral 10 ds, rest)

/-- The signs of the language, longer ones first. -/
def signs : List String := [
  "<<=", ">>=", "<=", ">=", "<<", ">>", "==", "!=", "&&", "||", "+=", "-=", "*=", "/=", "%=", "&=", "^=", "|=",
  "(", ")", "~", "?", ":", "*", "/", "%", "+", "-", "^", "<", ">", "|", "&", "!", "="]

/-- The pieces of an expression. The fuel bounds their number. -/
def symbols : Nat → List Char → List Symbol
  | 0, _ => []
  | _ + 1, [] => []
  | fuel + 1, c :: cs =>
    if c == ' ' || c == '\t' || c == '\n' then symbols fuel cs
    else if c.isDigit then
      let (n, rest) := numberAt (c :: cs)
      .number (min n largest) :: symbols fuel rest
    else if isNameStart c then
      .name (String.ofList (c :: cs.takeWhile isNameChar)) :: symbols fuel (cs.dropWhile isNameChar)
    else match signs.findSome? fun s => (literal s.toList (c :: cs)).map (s, ·) with
      | some (sign, rest) => .sign sign :: symbols fuel rest
      | none => .other :: symbols fuel cs

/-- Why an expression has no value. -/
inductive Failure where
  /-- The expression itself is at fault. -/
  | expression (text : String)
  /-- A variable is at fault. -/
  | variable (text : String)
  deriving Repr, Inhabited

/-- What evaluation goes on from. -/
structure Progress where
  symbols : List Symbol
  context : Context

/-- Evaluates a part of an expression. -/
abbrev Evaluation (α : Type) := StateT Progress (Except Failure) α

/-- The next piece, which stays. -/
def peek : Evaluation (Option Symbol) := return (← get).symbols.head?

/-- Drops a piece. -/
def skip : Evaluation Unit := modify fun p => { p with symbols := p.symbols.tail }

/-- Drops the next piece if it is a sign that is wanted. -/
def take (sign : String) : Evaluation Bool := do
  if (← peek) = some (.sign sign) then
    skip
    return true
  else return false

/-- The number that a text writes, with a sign and blanks around it; nothing if it writes none. -/
def number? (s : String) : Option Int :=
  let blank (c : Char) : Bool := c == ' ' || (9 ≤ c.toNat && c.toNat ≤ 13)
  let cs := s.toList.dropWhile blank
  let (negative, cs) := match cs with
    | '-' :: rest => (true, rest)
    | '+' :: rest => (false, rest)
    | rest => (false, rest)
  match cs with
  | [] => if s.toList.all blank then some 0 else none
  | c :: _ =>
    if !c.isDigit then none
    else
      let (n, rest) := numberAt cs
      let n : Int := if negative then -(min n (largest.toNat + 1) : Nat) else min (n : Int) largest
      if rest.all blank then some n else none

/-- The value of a variable as a number. -/
def valueOf (name : String) : Evaluation Int := do
  let text := ((← get).context.value? name).getD ""
  match number? text with
  | some n => return n
  | none => throw (.variable ("Illegal number: " ++ text))

/-- Assigns a number to a variable. -/
def store (name : String) (n : Int) : Evaluation Int := do
  let p ← get
  match p.context.assign name (toString n) with
  | .ok context =>
    set { p with context }
    return n
  | .error text => throw (.variable text)

/-- One for what holds and zero for what does not. -/
def truth (b : Bool) : Int := if b then 1 else 0

/-- How far a number is shifted. -/
def shiftOf (n : Int) : Nat := (n % 64).toNat

/-- The value of an operation on two numbers. -/
def apply (sign : String) (a b : Int) : Evaluation Int :=
  let bits (f : BitVec 64 → BitVec 64 → BitVec 64) : Int := (f (BitVec.ofInt 64 a) (BitVec.ofInt 64 b)).toInt
  match sign with
  | "*" => return wrap (a * b)
  | "/" => if b = 0 then throw (.expression "division by zero") else return wrap (Int.tdiv a b)
  | "%" => if b = 0 then throw (.expression "division by zero") else return wrap (Int.tmod a b)
  | "+" => return wrap (a + b)
  | "-" => return wrap (a - b)
  | "<<" => return wrap (a * (Nat.pow 2 (shiftOf b) : Nat))
  | ">>" => return Int.fdiv a (Nat.pow 2 (shiftOf b) : Nat)
  | "<" => return truth (a < b)
  | "<=" => return truth (a ≤ b)
  | ">" => return truth (a > b)
  | ">=" => return truth (a ≥ b)
  | "==" => return truth (a == b)
  | "!=" => return truth (a != b)
  | "&" => return bits (· &&& ·)
  | "^" => return bits (· ^^^ ·)
  | _ => return bits (· ||| ·)

/-- How loosely an operation on two numbers binds, if a sign stands for one. -/
def looseness? (sign : String) : Option Nat :=
  [("*", 0), ("/", 0), ("%", 0), ("+", 1), ("-", 1), ("<<", 2), (">>", 2), ("<", 3), ("<=", 3), (">", 3),
    (">=", 3), ("==", 4), ("!=", 4), ("&", 5), ("^", 6), ("|", 7)].lookup sign

/-- What a part of an expression may be. -/
inductive Level where
  | assignment
  | condition
  | either
  | both
  /-- Operations that bind no looser than a number says. -/
  | operation (looseness : Nat)
  | primary

/-- The operation that a sign of assignment does first, if it does any. -/
def assigned? (sign : String) : Option String :=
  ["*", "/", "%", "+", "-", "<<", ">>", "&", "^", "|"].find? fun op => op ++ "=" == sign

variable (part : Level → Bool → Evaluation Int)

/-- The operations of one looseness, from behind the first number, left to right. The fuel bounds their
number. -/
def operations (looseness : Nat) (skipped : Bool) : Nat → Int → Evaluation Int
  | 0, a => return a
  | fuel + 1, a => do
    match ← peek with
    | some (.sign sign) =>
      if looseness? sign = some looseness then
        skip
        let b ← part (if looseness = 0 then .primary else .operation (looseness - 1)) skipped
        let result ← if skipped then pure b else apply sign a b
        operations looseness skipped fuel result
      else return a
    | _ => return a

/-- The value of a part of an expression, given that of the parts in it; what is `skipped` changes nothing. -/
def evaluatePart : Level → Bool → Evaluation Int
  | .assignment, skipped => do
    match (← get).symbols with
    | .name name :: .sign sign :: _ =>
      if sign = "=" || (assigned? sign).isSome then
        skip
        skip
        let result ← part .assignment skipped
        if skipped then return result
        match assigned? sign with
        | some op => do store name (← apply op (← valueOf name) result)
        | none => store name result
      else part .condition skipped
    | _ => part .condition skipped
  | .condition, skipped => do
    let a ← part .either skipped
    if ← take "?" then
      let b ← part .assignment (skipped || a == 0)
      if !(← take ":") then throw (.expression "expecting ':'")
      let c ← part .condition (skipped || a != 0)
      return if a != 0 then b else c
    else return a
  | .either, skipped => do
    let a ← part .both skipped
    if ← take "||" then
      let b ← part .either (skipped || a != 0)
      return truth (a != 0 || b != 0)
    else return a
  | .both, skipped => do
    let a ← part (.operation 7) skipped
    if ← take "&&" then
      let b ← part .both (skipped || a == 0)
      return truth (a != 0 && b != 0)
    else return a
  | .operation looseness, skipped => do
    let a ← part (if looseness = 0 then .primary else .operation (looseness - 1)) skipped
    operations part looseness skipped ((← get).symbols.length + 1) a
  | .primary, skipped => do
    let s ← peek
    skip
    match s with
    | some (.number n) => return n
    | some (.name name) => if skipped then return 0 else valueOf name
    | some (.sign "(") => do
      let result ← part .assignment skipped
      if ← take ")" then return result else throw (.expression "expecting ')'")
    | some (.sign "+") => part .primary skipped
    | some (.sign "-") => return wrap (-(← part .primary skipped))
    | some (.sign "!") => return truth ((← part .primary skipped) == 0)
    | some (.sign "~") => return wrap (-(← part .primary skipped) - 1)
    | _ => throw (.expression "expecting primary")

/-- The value of a part of an expression whose parts stand in one another up to a depth. -/
def partTo : Nat → Level → Bool → Evaluation Int
  | 0, _, _ => throw (.expression "expecting primary")
  | depth + 1, level, skipped => evaluatePart (partTo depth) level skipped

/-- The value of an expression, and the context after its assignments; or what the shell says of it. -/
def evaluate (context : Context) (text : String) : Except String (Int × Context) :=
  let pieces := symbols (text.length + 1) text.toList
  let all : Evaluation Int := do
    let n ← partTo (12 * pieces.length + 12) .assignment false
    if (← peek).isSome then throw (.expression "expecting EOF")
    return n
  match StateT.run all ⟨pieces, context⟩ with
  | .ok (n, p) => .ok (n, p.context)
  | .error (.expression cause) => .error ("arithmetic expression: " ++ cause ++ ": \"" ++ text ++ "\"")
  | .error (.variable cause) => .error cause

end BatchRunner.Machine.Shell.Arithmetic
