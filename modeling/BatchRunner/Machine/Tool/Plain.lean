import BatchRunner.Machine.Shell.Condition
import BatchRunner.Machine.Shell.Format
import BatchRunner.Machine.Tool.Call

/-!
# Programs that answer from their arguments

`echo`, `printf`, `test`, `seq`, `expr`, `basename` and others that read nothing.
-/

namespace BatchRunner.Machine.Tool

/-- `echo` writes its arguments. -/
def echo (call : Call) : Plan := call.answer (Shell.Format.programEcho call.args) 0

/-- What is said of an argument that `printf` cannot use. -/
def printfFault : Shell.Format.Fault → String
  | .notNumeric text => quote text ++ ": expected a numeric value"
  | .notComplete text => quote text ++ ": value not completely converted"
  | .outOfRange text => quote text ++ ": Numerical result out of range"
  | .invalidDirective directive => directive ++ ": invalid conversion specification"
  | .missingCharacter => "missing format character"

/-- Writes the pieces of a format. -/
def writePieces (call : Call) : List Shell.Format.Piece → Nat → Plan
  | [], status => .done status
  | .text cs :: pieces, status => call.say (String.ofList cs) (writePieces call pieces status)
  | .fault fault :: pieces, _ => call.warn (printfFault fault) (writePieces call pieces 1)

/-- `printf` writes its arguments by a format. -/
def printf (call : Call) : Plan :=
  match call.args with
  | [] => call.misuse "missing operand" 1
  | "--" :: [] => call.misuse "missing operand" 1
  | first :: rest =>
    let (format, args) := match first, rest with
      | "--", format :: args => (format, args)
      | format, args => (format, args)
    let (pieces, left) := Shell.Format.format true format args
    let warned : Plan := match left with
      | [] => writePieces call pieces 0
      | extra :: _ =>
        if pieces.all fun
            | .text _ => true
            | .fault _ => false then
          let text := String.join (pieces.map fun
            | .text cs => String.ofList cs
            | .fault _ => "")
          call.say text
            (call.warn ("warning: ignoring excess arguments, starting with " ++ quote extra) (.done 0))
        else writePieces call pieces 0
    warned

/-- `test` decides a condition; under the name of a bracket it wants the other one at the end. -/
def test (isBracket : Bool) (call : Call) : Plan :=
  let closed := call.args.getLast? = some "]"
  if isBracket && !closed then call.fail "missing ']'" 2
  else
    let words := if isBracket then call.args.dropLast else call.args
    .withFiles fun space _ =>
      (space.tree, match Shell.Condition.decideProgram space.tree space.cwd words with
        | .ok b => .done (Shell.Condition.status b)
        | .error cause => call.fail cause.programText 2)

/-- The nanoseconds that an argument of `sleep` writes, in seconds with a fraction or another unit. -/
def sleepTime? (s : String) : Option Nat :=
  let (whole, rest) := Text.someDigits Text.digitValue? s.toList
  let (fraction, rest) := match rest with
    | '.' :: rest => Text.someDigits Text.digitValue? rest
    | rest => ([], rest)
  let scale : Option Nat := match rest with
    | [] => some 1
    | ['s'] => some 1
    | ['m'] => some 60
    | ['h'] => some 3600
    | ['d'] => some 86400
    | _ => none
  let nanos := (fraction ++ List.replicate 9 0).take 9
  if s = "infinity" || s = "inf" then some 1000000000000000000
  else if whole.isEmpty && fraction.isEmpty then none
  else scale.map ((Text.numeral 10 whole * 1000000000 + Text.numeral 10 nanos) * ·)

/-- `sleep` waits for the sum of some times. -/
def sleep (call : Call) : Plan :=
  call.read {} 1 fun said =>
  if said.operands.isEmpty then call.missingOperand 1
  else
    let bad := said.operands.filter fun a => (sleepTime? a).isNone
    if bad.isEmpty then .sleep ((said.operands.filterMap sleepTime?).foldl (· + ·) 0) (.done 0)
    else bad.foldr (fun a plan => call.warn ("invalid time interval " ++ quote a) plan)
      (.complain call.advice (.done 1))

/-- `pwd` names the working directory. -/
def pwd (call : Call) : Plan :=
  call.read { flags := "LP", long := [("logical", 'L'), ("physical", 'P')] } 1 fun said =>
  .withFiles fun space _ => (space.tree,
    let answer := call.answer (Text.octets (Files.render space.cwd) ++ "\n") 0
    if said.operands.isEmpty then answer else call.warn "ignoring non-option arguments" answer)

/-! ## Names of files -/

/-- A path less the slashes at its end, unless it holds nothing else. -/
def dropSlashes (path : String) : String :=
  let cs := (path.toList.reverse.dropWhile (· == '/')).reverse
  if cs.isEmpty && !path.isEmpty then "/" else String.ofList cs

/-- The last name of a path. -/
def lastName (path : String) : String :=
  let path := dropSlashes path
  if path = "/" then path else ((path.splitOn "/").getLast?).getD path

/-- A path less its last name. -/
def parentName (path : String) : String :=
  let path := dropSlashes path
  if path = "/" then path
  else
    let front := (path.toList.reverse.dropWhile (· != '/'))
    if front.isEmpty then "." else dropSlashes (String.ofList front.reverse)

/-- A name less an ending, unless it is nothing else. -/
def dropEnding (name ending : String) : String :=
  if ending != "" && name.endsWith ending && name.length != ending.length then
    String.ofList (name.toList.take (name.length - ending.length))
  else name

/-- `basename` writes the last names of paths. -/
def basename (call : Call) : Plan :=
  call.read { inFront := true, flags := "az", valued := "s", long := [("multiple", 'a'), ("suffix", 's'),
    ("zero", 'z')] } 1 fun said =>
  if said.operands.isEmpty then call.missingOperand 1
  else if said.has 'a' || said.has 's' then
    let ending := (said.value? 's').getD ""
    call.answer (unlines (said.operands.map fun p => dropEnding (lastName p) ending)) 0
  else match said.operands with
    | [path] => call.answer (lastName path ++ "\n") 0
    | [path, ending] => call.answer (dropEnding (lastName path) ending ++ "\n") 0
    | _ :: _ :: extra :: _ => call.extraOperand extra 1
    | [] => .done 1

/-- `dirname` writes paths less their last names. -/
def dirname (call : Call) : Plan :=
  call.read { flags := "z" } 1 fun said =>
  if said.operands.isEmpty then call.missingOperand 1
  else call.answer (unlines (said.operands.map parentName)) 0

/-! ## `seq` -/

/-- A decimal number: its digits as a whole number, and how many of them stand behind the point. -/
structure Fixed where
  units : Int
  places : Nat

/-- The decimal number that a text writes. -/
def fixed? (s : String) : Option Fixed :=
  let (negative, cs) := match s.toList with
    | '-' :: rest => (true, rest)
    | '+' :: rest => (false, rest)
    | rest => (false, rest)
  let (whole, rest) := Text.someDigits Text.digitValue? cs
  let (fraction, rest) := match rest with
    | '.' :: rest => Text.someDigits Text.digitValue? rest
    | rest => ([], rest)
  if (whole.isEmpty && fraction.isEmpty) || !rest.isEmpty then none
  else
    let n : Int := Text.numeral 10 (whole ++ fraction)
    some ⟨if negative then -n else n, fraction.length⟩

/-- A decimal number with more places. -/
def Fixed.atPlaces (x : Fixed) (places : Nat) : Int := x.units * (Nat.pow 10 (places - x.places) : Nat)

/-- A number of units as a decimal number. -/
def showFixed (places : Nat) (n : Int) : String :=
  let digits := Nat.toDigits 10 n.natAbs
  let digits := List.replicate (places + 1 - digits.length) '0' ++ digits
  let whole := digits.take (digits.length - places)
  let text := if places = 0 then whole else whole ++ '.' :: digits.drop (digits.length - places)
  (if n < 0 then "-" else "") ++ String.ofList text

/-- A number filled up with zeros behind its sign. -/
def zeroFilled (width : Nat) (s : String) : String :=
  let zeros := String.ofList (List.replicate (width - s.length) '0')
  match s.toList with
  | '-' :: rest => "-" ++ zeros ++ String.ofList rest
  | _ => zeros ++ s

/-- `seq` counts from one number to another. -/
def seq (call : Call) : Plan :=
  -- A negative number is no option.
  let isNumber (a : String) : Bool := (fixed? a).isSome
  let options := call.args.takeWhile fun a => !isNumber a
  let numbers := call.args.drop options.length
  let parsed := readArguments { inFront := true, flags := "w", valued := "sf", long := [("equal-width", 'w'),
    ("separator", 's'), ("format", 'f')] } options {}
  match parsed with
  | .error text => call.misuse text 1
  | .ok said =>
    let operands := said.operands ++ numbers
    match operands.find? fun a => !isNumber a with
    | some bad => call.misuse ("invalid floating point argument: " ++ quote bad) 1
    | none =>
      let values := operands.filterMap fixed?
      let run (first step last : Fixed) : Plan :=
        let places := max first.places step.places
        let all := max places last.places
        let (a, d, z) := (first.atPlaces all, step.atPlaces all, last.atPlaces all)
        if d = 0 then call.misuse ("invalid Zero increment value: " ++ quote (operands[1]?.getD "")) 1
        else
          let count := if 0 < d then (z - a) / d + 1 else (a - z) / (-d) + 1
          let scale : Int := (Nat.pow 10 (all - places) : Nat)
          let texts := (List.range count.toNat).map fun (i : Nat) => showFixed places ((a + d * (i : Int)) / scale)
          let width := (texts.map String.length).foldl max 0
          let texts := if said.has 'w' then texts.map (zeroFilled width) else texts
          let separator := (said.value? 's').getD "\n"
          if texts.isEmpty then .done 0 else call.answer (separator.intercalate texts ++ "\n") 0
      match values with
      | [last] => run ⟨1, 0⟩ ⟨1, 0⟩ last
      | [first, last] => run first ⟨1, 0⟩ last
      | [first, step, last] => run first step last
      | [] => call.missingOperand 1
      | _ => call.extraOperand (operands[3]?.getD "") 1

end BatchRunner.Machine.Tool
