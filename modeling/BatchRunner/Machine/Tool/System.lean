import BatchRunner.Machine.Tool.Plain
import BatchRunner.Text.Regex

/-!
# Programs that know the machine, and `expr`

`expr` computes with its arguments; `id`, `whoami`, `uname` and others tell who runs a program, and on what.
-/

namespace BatchRunner.Machine.Tool

/-! ## `expr` -/

namespace Expr

/-- What is wrong with an expression. -/
inductive Cause where
  | missingOperand
  | missingAfter (word : String)
  | unexpected (word : String)
  | unclosed (word : String)
  | notNumber
  | divisionByZero
  | badPattern (sentence : String)

/-- The words for what is wrong. -/
def Cause.text : Cause → String
  | missingOperand => "missing operand"
  | missingAfter word => "syntax error: missing argument after " ++ quote word
  | unexpected word => "syntax error: unexpected argument " ++ quote word
  | unclosed word => "syntax error: expecting ')' after " ++ quote word
  | notNumber => "non-integer argument"
  | divisionByZero => "division by zero"
  | badPattern sentence => sentence

/-- The whole number that a word writes. -/
def integer? (s : String) : Option Int :=
  match s.toList with
  | '-' :: cs => if cs.isEmpty || !cs.all Char.isDigit then none
    else some (-(Text.numeral 10 (cs.filterMap Text.digitValue?) : Nat))
  | cs => if cs.isEmpty || !cs.all Char.isDigit then none
    else some (Text.numeral 10 (cs.filterMap Text.digitValue?) : Nat)

/-- Whether a word counts as false: it is empty, or writes zero. -/
def isNull (s : String) : Bool :=
  let digits := match s.toList with
    | '-' :: cs => cs
    | cs => cs
  s == "" || (!digits.isEmpty && digits.all (· == '0'))

/-- What `:` gives: what the first group takes, or else how much is matched from the front. -/
def matched (text pattern : String) : Except Cause String :=
  match Text.Regex.ofText ⟨.basic, false⟩ pattern with
  | .error fault => .error (.badPattern fault.message)
  | .ok regex =>
    let subject : Text.Regex.Subject := { chars := text.toList.toArray }
    let hasGroup := (pattern.splitOn "\\(").length != 1
    match regex.matchAt subject (fun _ _ => true) 0 with
    | none => .ok (if hasGroup then "" else "0")
    | some m =>
      if hasGroup then match m.groups.lookup 1 with
        | some (first, last) => .ok (String.ofList (subject.chars.extract first last).toList)
        | none => .ok ""
      else .ok (toString m.last)

/-- An operation on numbers. -/
def arithmetic (a b : String) (f : Int → Int → Except Cause Int) : Except Cause String :=
  match integer? a, integer? b with
  | some a, some b => (f a b).map toString
  | _, _ => .error .notNumber

/-- A comparison: of numbers if both are such, or else of texts. -/
def compared (a operator b : String) : String :=
  let order : Ordering := match integer? a, integer? b with
    | some a, some b => compare a b
    | _, _ => if a == b then .eq else if a < b then .lt else .gt
  let holds : Bool := match operator with
    | "<" => order == .lt
    | "<=" => order != .gt
    | ">" => order == .gt
    | ">=" => order != .lt
    | "!=" => order != .eq
    | _ => order == Ordering.eq
  if holds = true then "1" else "0"

/-- The operators, from those that bind least. -/
def operators : List (List String) := [
  ["|"], ["&"], ["<", "<=", "=", "==", "!=", ">=", ">"], ["+", "-"], ["*", "/", "%"], [":"]]

/-- The result of an operator. -/
def apply (a operator b : String) : Except Cause String :=
  match operator with
  | "|" => .ok (if !isNull a then a else if !isNull b then b else "0")
  | "&" => .ok (if isNull a || isNull b then "0" else a)
  | "+" => arithmetic a b fun a b => .ok (a + b)
  | "-" => arithmetic a b fun a b => .ok (a - b)
  | "*" => arithmetic a b fun a b => .ok (a * b)
  | "/" => arithmetic a b fun a b => if b = 0 then .error .divisionByZero else .ok (Int.tdiv a b)
  | "%" => arithmetic a b fun a b => if b = 0 then .error .divisionByZero else .ok (Int.tmod a b)
  | ":" => matched a b
  | operator => .ok (compared a operator b)

/-- What is evaluated: operators from a level on. -/
abbrev Level := List (List String)

/-- Evaluates from the words that are left: the result, the words behind it, and the last word in front of those. -/
abbrev Evaluate := Level → List String → String → Except Cause (String × List String × String)

/-- The words as they stand: text that may stand anywhere, a function, or an expression in brackets. -/
def primary (inner : Evaluate) (words : List String) (last : String) : Except Cause (String × List String × String) :=
  let argument (words : List String) (last : String) : Except Cause (String × List String × String) :=
    inner [] words last
  match words with
  | [] => .error (.missingAfter last)
  | "+" :: word :: rest => .ok (word, rest, word)
  | "(" :: rest => do
    let (value, rest, last) ← inner operators rest "("
    match rest with
    | ")" :: rest => return (value, rest, ")")
    | word :: _ => .error (.unexpected word)
    | [] => .error (.unclosed last)
  | ")" :: _ => .error (.unexpected ")")
  | "length" :: rest => do
    let (a, rest, last) ← argument rest "length"
    return (toString a.length, rest, last)
  | "match" :: rest => do
    let (a, rest, last) ← argument rest "match"
    let (b, rest, last) ← argument rest last
    return (← matched a b, rest, last)
  | "index" :: rest => do
    let (a, rest, last) ← argument rest "index"
    let (b, rest, last) ← argument rest last
    let position := ((a.toList.takeWhile fun c => !b.toList.contains c).length + 1)
    return (toString (if a.length < position then 0 else position), rest, last)
  | "substr" :: rest => do
    let (a, rest, last) ← argument rest "substr"
    let (b, rest, last) ← argument rest last
    let (c, rest, last) ← argument rest last
    let value := match integer? b, integer? c with
      | some start, some count =>
        if start < 1 || count < 1 then ""
        else String.ofList ((a.toList.drop (start.toNat - 1)).take count.toNat)
      | _, _ => ""
    return (value, rest, last)
  | word :: rest => .ok (word, rest, word)

/-- Operators of one level, from the left. The fuel bounds their number. -/
def chain (inner : Evaluate) (level : List String) (more : Level) :
    Nat → String × List String × String → Except Cause (String × List String × String)
  | 0, done => .ok done
  | fuel + 1, (a, words, last) => match words with
    | operator :: rest =>
      if level.contains operator then do
        let (b, rest, last) ← inner more rest operator
        chain inner level more fuel (← apply a operator b, rest, last)
      else .ok (a, words, last)
    | [] => .ok (a, words, last)

/-- Evaluates expressions that stand in one another up to a depth. -/
def evaluateTo : Nat → Evaluate
  | 0, _, _, last => .error (.missingAfter last)
  | depth + 1, level, words, last => match level with
    | [] => primary (evaluateTo depth) words last
    | operators :: more => do
      let first ← evaluateTo depth more words last
      chain (evaluateTo depth) operators more words.length first

/-- The value of an expression. -/
def evaluate (words : List String) : Except Cause String := do
  if words.isEmpty then throw .missingOperand
  let (value, rest, _) ← evaluateTo (8 * (words.length + 1)) operators words ""
  match rest with
  | [] => return value
  | word :: _ => throw (.unexpected word)

end Expr

/-- `expr` writes the value of an expression. -/
def expr (call : Call) : Plan :=
  let words := match call.args with
    | "--" :: rest => rest
    | args => args
  match Expr.evaluate words with
  | .ok value => call.answer (value ++ "\n") (if Expr.isNull value then 1 else 0)
  | .error .missingOperand => call.misuse "missing operand" 2
  | .error cause => call.fail cause.text 2

/-! ## Who and where -/

/-- `id` tells who runs a program. -/
def userIds (call : Call) : Plan :=
  call.read { flags := "ugnGrz", long := [("user", 'u'), ("group", 'g'), ("name", 'n'), ("groups", 'G'),
    ("real", 'r')] } 1 fun said =>
  match said.operands.find? (· != "root") with
  | some name => call.fail (quote name ++ ": no such user") 1
  | none =>
    if said.has 'u' || said.has 'g' || said.has 'G' then call.answer (if said.has 'n' then "root\n" else "0\n") 0
    else if said.has 'n' then call.fail "cannot print only names or real IDs in default format" 1
    else call.answer "uid=0(root) gid=0(root) groups=0(root)\n" 0

/-- `groups` tells to which groups users belong. -/
def groups (call : Call) : Plan :=
  call.read {} 1 fun said =>
  let bad := said.operands.filter (· != "root")
  let shown := if said.operands.isEmpty then ["root"]
    else (said.operands.filter (· == "root")).map fun name => name ++ " : root"
  bad.foldr (fun name plan => call.warn (quote name ++ ": no such user") plan)
    (call.answer (unlines shown) (if bad.isEmpty then 0 else 1))

/-- `whoami` tells the name of the user. -/
def whoami (call : Call) : Plan :=
  match call.args with
  | [] => call.answer "root\n" 0
  | extra :: _ => call.extraOperand extra 1

/-- `uname` tells about the machine. -/
def uname (call : Call) : Plan :=
  call.read { flags := "asnrvmpio", long := [("all", 'a'), ("kernel-name", 's'), ("nodename", 'n'),
    ("kernel-release", 'r'), ("kernel-version", 'v'), ("machine", 'm'), ("operating-system", 'o')] } 1 fun said =>
  let facts := [('s', "Linux"), ('n', "localhost"), ('r', "6.1.0"), ('v', "#1 SMP"), ('m', "x86_64"), ('o', "GNU/Linux")]
  let wanted (letter : Char) : Bool := said.has 'a' || said.has letter || (said.options.isEmpty && letter == 's')
  match said.operands with
  | extra :: _ => call.extraOperand extra 1
  | [] => call.answer (" ".intercalate ((facts.filter fun f => wanted f.1).map (·.2)) ++ "\n") 0

/-- A program that writes one line, whatever its arguments are. -/
def fixedLine (line : String) (status : Nat) (call : Call) : Plan := call.answer (line ++ "\n") status

/-! ## `date` -/

/-- A moment, as a calendar and a clock show it. -/
structure Moment where
  year : Int
  month : Nat
  day : Nat
  /-- The day of the week, from Sunday on. -/
  weekday : Nat
  dayOfYear : Nat
  /-- The seconds since the epoch, and those since midnight. -/
  seconds : Int
  ofDay : Nat
  deriving Repr, Inhabited

/-- The days from the epoch to the first of March in a year. -/
def daysToMarch (year : Int) : Int :=
  365 * year + Int.fdiv year 4 - Int.fdiv year 100 + Int.fdiv year 400 - 719468

/-- The moment a number of seconds behind the epoch. The year that begins in March is found among the neighbours of
an estimate. -/
def Moment.ofSeconds (seconds : Int) : Moment :=
  let days := Int.fdiv seconds 86400
  let guess := Int.fdiv ((days + 719468) * 400) 146097
  let year := if days < daysToMarch guess then guess - 1
    else if daysToMarch (guess + 1) ≤ days then guess + 1 else guess
  let behind := (days - daysToMarch year).toNat
  let shifted := (5 * behind + 2) / 153
  let month := if shifted < 10 then shifted + 3 else shifted - 9
  let calendarYear := if month ≤ 2 then year + 1 else year
  -- January has 31 days and February ends the year that begins in March.
  let january := daysToMarch (calendarYear - 1) + 306
  { year := calendarYear, month, day := behind - (153 * shifted + 2) / 5 + 1
    weekday := ((days + 4) % 7).toNat, dayOfYear := (days - january).toNat + 1
    seconds, ofDay := (seconds - days * 86400).toNat }

/-- The names of the months. -/
def monthNames : List String := ["January", "February", "March", "April", "May", "June", "July", "August", "September",
  "October", "November", "December"]

/-- The names of the days of a week. -/
def dayNames : List String := ["Sunday", "Monday", "Tuesday", "Wednesday", "Thursday", "Friday", "Saturday"]

/-- A number in a column. -/
def inColumn (fill : Char) (width n : Nat) : String :=
  let digits := toString n
  String.ofList (List.replicate (width - digits.length) fill) ++ digits

namespace Moment

/-- The time on a clock. -/
def clock (m : Moment) : String :=
  inColumn '0' 2 (m.ofDay / 3600) ++ ":" ++ inColumn '0' 2 (m.ofDay / 60 % 60) ++ ":" ++ inColumn '0' 2 (m.ofDay % 60)

/-- The day, from the year on. -/
def date (m : Moment) : String :=
  toString m.year ++ "-" ++ inColumn '0' 2 m.month ++ "-" ++ inColumn '0' 2 m.day

/-- The name of the month. -/
def monthName (m : Moment) : String := (monthNames[m.month - 1]?).getD ""

/-- The name of the day. -/
def dayName (m : Moment) : String := (dayNames[m.weekday]?).getD ""

/-- The first three letters of a name. -/
def short (name : String) : String := String.ofList (name.toList.take 3)

/-- What a letter behind a percent sign stands for. -/
def field (m : Moment) : Char → String
  | 'Y' => toString m.year
  | 'y' => inColumn '0' 2 (m.year % 100).toNat
  | 'C' => toString (Int.fdiv m.year 100)
  | 'm' => inColumn '0' 2 m.month
  | 'd' => inColumn '0' 2 m.day
  | 'e' => inColumn ' ' 2 m.day
  | 'H' => inColumn '0' 2 (m.ofDay / 3600)
  | 'I' => inColumn '0' 2 ((m.ofDay / 3600 + 11) % 12 + 1)
  | 'M' => inColumn '0' 2 (m.ofDay / 60 % 60)
  | 'S' => inColumn '0' 2 (m.ofDay % 60)
  | 'N' => "000000000"
  | 'p' => if m.ofDay < 43200 then "AM" else "PM"
  | 's' => toString m.seconds
  | 'j' => inColumn '0' 3 m.dayOfYear
  | 'u' => toString (if m.weekday = 0 then 7 else m.weekday)
  | 'w' => toString m.weekday
  | 'a' => short m.dayName
  | 'A' => m.dayName
  | 'b' => short m.monthName
  | 'h' => short m.monthName
  | 'B' => m.monthName
  | 'F' => m.date
  | 'T' => m.clock
  | 'R' => inColumn '0' 2 (m.ofDay / 3600) ++ ":" ++ inColumn '0' 2 (m.ofDay / 60 % 60)
  | 'D' => inColumn '0' 2 m.month ++ "/" ++ inColumn '0' 2 m.day ++ "/" ++ inColumn '0' 2 (m.year % 100).toNat
  | 'Z' => "UTC"
  | 'z' => "+0000"
  | 'n' => "\n"
  | 't' => "\t"
  | '%' => "%"
  | c => "%" ++ c.toString

/-- A text in which letters behind percent signs stand for parts of the moment. -/
def render (m : Moment) : List Char → String
  | '%' :: '-' :: c :: rest =>
    let digits := (m.field c).toList.dropWhile fun d => d == '0' || d == ' '
    (if digits.isEmpty then "0" else String.ofList digits) ++ render m rest
  | '%' :: c :: rest => m.field c ++ render m rest
  | c :: rest => c.toString ++ render m rest
  | [] => ""

end Moment

/-- The moment at which a machine is thought to run: no answer may depend on when it does. -/
def nominalSeconds : Int := 1700000000

/-- `date` writes the moment, or one that is given in seconds. -/
def date (call : Call) : Plan :=
  call.read { flags := "uR", valued := "d", attached := "I", long := [("utc", 'u'), ("date", 'd'),
    ("iso-8601", 'I')] } 1 fun said =>
  let write (seconds : Int) : Plan :=
    let m := Moment.ofSeconds seconds
    let format : Except String String := match said.operands with
      | [] => .ok (if said.has 'I' then "%F" else if said.has 'R' then "%a, %d %b %Y %T %z" else "%a %b %e %T %Z %Y")
      | [operand] => match operand.toList with
        | '+' :: format => .ok (String.ofList format)
        | _ => .error ("invalid date " ++ quote operand)
      | _ :: extra :: _ => .error ("extra operand " ++ quote extra)
    match format with
    | .ok format => call.answer (m.render format.toList ++ "\n") 0
    | .error text => call.fail text 1
  match said.value? 'd' with
  | none => write nominalSeconds
  | some text => match text.toList with
    | '@' :: digits => match Expr.integer? (String.ofList digits) with
      | some n => write n
      | none => call.fail ("invalid date " ++ quote text) 1
    | _ => if text == "now" || text == "today" then write nominalSeconds else call.fail ("invalid date " ++ quote text) 1

end BatchRunner.Machine.Tool
