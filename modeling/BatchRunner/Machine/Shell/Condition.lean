import BatchRunner.Text.Octets
import BatchRunner.Text.Scan
import BatchRunner.Files.Tree

/-!
# Conditions

What the command `test` decides about files, texts and numbers. The builtin command reads a condition by what its
words can be; the program of that name first looks at how many words there are.
-/

namespace BatchRunner.Machine.Shell.Condition

/-- What is wrong with a condition. -/
inductive Cause where
  /-- A word is left over, or is not the operator that is needed there. -/
  | unexpected (word : String)
  | argumentExpected (operator : String)
  | unclosed
  | noNumber (text : String)
  | noBinary (word : String)
  | noUnary (word : String)
  | missingAfter (word : String)
  deriving DecidableEq, Repr, Inhabited

/-- What the builtin command says. -/
def Cause.text : Cause → String
  | unexpected word => word ++ ": unexpected operator"
  | argumentExpected operator => operator ++ ": argument expected"
  | unclosed => "closing paren expected"
  | noNumber text => "Illegal number: " ++ text
  | noBinary word => word ++ ": unexpected operator"
  | noUnary word => word ++ ": unexpected operator"
  | missingAfter word => word ++ ": argument expected"

/-- What the program says. -/
def Cause.programText : Cause → String
  | unexpected word => "extra argument '" ++ word ++ "'"
  | argumentExpected operator => "missing argument after '" ++ operator ++ "'"
  | unclosed => "')' expected"
  | noNumber text => "invalid integer '" ++ text ++ "'"
  | noBinary word => "'" ++ word ++ "': binary operator expected"
  | noUnary word => "'" ++ word ++ "': unary operator expected"
  | missingAfter word => "missing argument after '" ++ word ++ "'"

/-- The operators on one word. -/
def unaryOperators : List String := [
  "-r", "-w", "-x", "-e", "-f", "-d", "-c", "-b", "-p", "-u", "-g", "-k", "-s", "-h", "-L", "-t", "-z", "-n",
  "-O", "-G", "-S"]

/-- The operators on two words. -/
def binaryOperators : List String :=
  ["=", "!=", "<", ">", "-eq", "-ne", "-ge", "-gt", "-le", "-lt", "-nt", "-ot", "-ef"]

/-- The number that a word writes in decimal digits, with a sign and blanks around it. -/
def number (s : String) : Except Cause Int :=
  let blank (c : Char) : Bool := c == ' ' || (9 ≤ c.toNat && c.toNat ≤ 13)
  let (negative, cs) := match s.toList.dropWhile blank with
    | '-' :: rest => (true, rest)
    | '+' :: rest => (false, rest)
    | rest => (false, rest)
  let (digits, rest) := Text.someDigits Text.digitValue? cs
  if digits.isEmpty || !rest.all blank then .error (.noNumber s)
  else .ok (if negative then -(Text.numeral 10 digits : Nat) else (Text.numeral 10 digits : Nat))

/-- A question about one word. -/
def unary (tree : Files.Tree) (cwd : Files.Path) (operator word : String) : Except Cause Bool :=
  let path := Text.ofOctets word
  let found := if Files.hasNul path then none else (Files.find tree cwd path).toOption
  let hasMode (bit : Nat) : Bool := match found with
    | some (.file mode _) => mode &&& bit != 0
    | _ => false
  match operator with
  | "-z" => .ok (word == "")
  | "-n" => .ok (word != "")
  | "-t" => (number word).map fun _ => false
  | "-e" => .ok found.isSome
  | "-r" => .ok (found.any tree.mayRead)
  | "-w" => .ok (found.any tree.mayWrite)
  | "-O" => .ok found.isSome
  | "-G" => .ok found.isSome
  | "-f" => .ok (match found with
    | some (.file _ _) => true
    | some (.tool _) => true
    | _ => false)
  | "-d" => .ok (found.any (·.isDirectory))
  | "-x" => .ok (found.any fun entry => entry.isDirectory || entry.isExecutable)
  | "-s" => .ok (match found with
    | some (.file _ content) => content.size != 0
    | some .directory => true
    | some (.tool _) => true
    | _ => false)
  | "-c" => .ok (match found with
    | some (.device _) => true
    | _ => false)
  | "-u" => .ok (hasMode 0o4000)
  | "-g" => .ok (hasMode 0o2000)
  | "-k" => .ok (hasMode 0o1000)
  | "-h" => .ok (isLink path)
  | "-L" => .ok (isLink path)
  | _ => .ok false
where
  /-- Whether a path names a link. -/
  isLink (path : String) : Bool :=
    match (Files.locate tree false cwd path).toOption.bind tree.at? with
    | some (.link _) => true
    | _ => false

/-- A question about two words. -/
def binary (tree : Files.Tree) (cwd : Files.Path) (left operator right : String) : Except Cause Bool := do
  let compare (f : Int → Int → Bool) : Except Cause Bool := do return f (← number left) (← number right)
  match operator with
  | "=" => return left == right
  | "!=" => return left != right
  | "<" => return left < right
  | ">" => return right < left
  | "-eq" => compare (· == ·)
  | "-ne" => compare (· != ·)
  | "-lt" => compare (· < ·)
  | "-le" => compare (· ≤ ·)
  | "-gt" => compare (· > ·)
  | "-ge" => compare (· ≥ ·)
  | "-ef" =>
    let place (word : String) : Option Files.Path := (Files.resolve tree cwd (Text.ofOctets word)).toOption
    return (place left).any fun p => (tree.at? p).isSome && place right == some p
  | _ => return false

/-- Whether the word at the front, which looks like an operator on one word, is a word to be asked about. -/
def isOperand : List String → Bool
  | [] => true
  | [_] => false
  | next :: _ => binaryOperators.contains next

/-- What the word at the front of some words is read as. -/
inductive Role where
  | nothing
  | operand
  | unary
  | binary
  | negation
  | both
  | either
  | opening
  | closing
  deriving DecidableEq, Repr

/-- What the word at the front is read as. -/
def role : List String → Role
  | [] => .nothing
  | word :: rest =>
    if word = "!" then .negation
    else if word = "-a" then .both
    else if word = "-o" then .either
    else if word = "(" then (if rest.isEmpty then .operand else .opening)
    else if word = ")" then .closing
    else if binaryOperators.contains word then .binary
    else if unaryOperators.contains word then (if isOperand rest then .operand else .unary)
    else .operand

/-- What a part of a condition may be. -/
inductive Level where
  | either
  | both
  | negated
  | primary

/-- Decides a part of a condition, and gives the words from its last one on. -/
abbrev Decide := Level → List String → Except Cause (Bool × List String)

variable (tree : Files.Tree) (cwd : Files.Path) (part : Decide)

/-- Parts joined by an operator. The fuel bounds their number. -/
def joined (inner : Level) (operator : Role) (combine : Bool → Bool → Bool) :
    Nat → Bool → List String → Except Cause (Bool × List String)
  | 0, result, words => .ok (result, words)
  | fuel + 1, result, words => do
    let (b, words) ← part inner words
    let result := combine result b
    if role words.tail = operator then joined inner operator combine fuel result (words.tail.drop 1)
    else return (result, words)

/-- Decides a part of a condition, given how its parts are decided. -/
def decidePart : Decide
  | .either, words => joined part .both .either (· || ·) (words.length + 1) false words
  | .both, words => joined part .negated .both (· && ·) (words.length + 1) true words
  | .negated, words =>
    if role words = .negation then do
      let (b, rest) ← part .negated (if words.tail.isEmpty then [] else words.tail)
      return (!b, if words.tail.isEmpty then words else rest)
    else part .primary words
  | .primary, words =>
    match role words, words with
    | .nothing, _ => .ok (false, words)
    | .opening, _ :: rest =>
      if role rest = .closing then .ok (false, rest)
      else do
        let (b, rest) ← part .either rest
        match rest.tail with
        | ")" :: _ => return (b, rest.tail)
        | _ => .error .unclosed
    | .unary, operator :: word :: rest => do return (← unary tree cwd operator word, word :: rest)
    | .unary, operator :: [] => .error (.argumentExpected operator)
    | _, word :: operator :: rest =>
      if role (operator :: rest) = .binary then
        match rest with
        | right :: _ => do return (← binary tree cwd word operator right, rest)
        | [] => .error (.argumentExpected operator)
      else .ok (word != "", words)
    | _, word :: [] => .ok (word != "", words)
    | _, [] => .ok (false, [])

/-- Decides a part of a condition up to a depth. -/
def decideTo : Nat → Decide
  | 0 => fun _ words => .ok (false, words)
  | depth + 1 => decidePart tree cwd (decideTo depth)

/-- Decides a condition all of whose words count. -/
def decideAll (words : List String) : Except Cause Bool := do
  let (b, rest) ← decideTo tree cwd (4 * words.length + 8) .either words
  match rest with
  | word :: _ :: _ => .error (.unexpected word)
  | _ => return b

/-- Decides the condition of the builtin command. The fuel bounds the number of negations in front. -/
def decideBuiltin : Nat → List String → Except Cause Bool
  | 0, _ => .ok false
  | fuel + 1, words =>
    if words.isEmpty then .ok false
    else
      let binaryInside := words.length = 3 && (words[1]?.any fun w => binaryOperators.contains w)
      if (words.length = 3 && !binaryInside) || words.length = 4 then
        if words.head? = some "(" && words.getLast? = some ")" then decideAll tree cwd (words.drop 1).dropLast
        else if words.head? = some "!" then (decideBuiltin fuel (words.drop 1)).map (!·)
        else decideAll tree cwd words
      else if binaryInside then
        match words with
        | [left, operator, right] => binary tree cwd left operator right
        | _ => decideAll tree cwd words
      else decideAll tree cwd words

/-- Decides the condition of the program. -/
def decideProgram (words : List String) : Except Cause Bool :=
  match words with
  | [] => .ok false
  | [a] => .ok (a != "")
  | [a, b] => two a b
  | [a, b, c] => three a b c
  | [a, b, c, d] =>
    if a = "!" then (three b c d).map (!·)
    else if a = "(" && d = ")" then two b c
    else decideAll tree cwd words
  | words => decideAll tree cwd words
where
  /-- A condition of two words. -/
  two (a b : String) : Except Cause Bool :=
    if a = "!" then .ok (b == "")
    else if a.startsWith "-" && a.length = 2 then
      if unaryOperators.contains a then unary tree cwd a b else .error (.noUnary a)
    else .error (.missingAfter b)
  /-- A condition of three words. -/
  three (a b c : String) : Except Cause Bool :=
    if binaryOperators.contains b || b = "==" then binary tree cwd a (if b = "==" then "=" else b) c
    else if a = "!" then (two b c).map (!·)
    else if a = "(" && c = ")" then .ok (b != "")
    else if b = "-a" then .ok (a != "" && c != "")
    else if b = "-o" then .ok (a != "" || c != "")
    else .error (.noBinary b)

/-- The status that stands for a decision. -/
def status : Bool → Nat
  | true => 0
  | false => 1

end BatchRunner.Machine.Shell.Condition
