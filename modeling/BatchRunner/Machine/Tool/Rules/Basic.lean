import BatchRunner.Text.Regex

/-!
# Scripts of rules

A script of rules says what is to be done about which records. An action is made of statements, and a statement of
expressions, in which names stand for values or for tables of values.
-/

namespace BatchRunner.Machine.Tool.Rules

/-- What two numbers are combined to. -/
inductive Operation where
  | sum
  | difference
  | product
  | quotient
  | remainder
  | power
  deriving DecidableEq, Repr, Inhabited

/-- How two values are compared. -/
inductive Comparison where
  | less
  | atMost
  | equal
  | unequal
  | more
  | atLeast
  deriving DecidableEq, Repr, Inhabited

/-- The functions that every script has. -/
inductive Builtin where
  | length
  | substr
  | index
  | split
  | sub
  | gsub
  | find
  | sprintf
  | sin
  | cos
  | atan2
  | exp
  | log
  | sqrt
  | int
  | rand
  | srand
  | tolower
  | toupper
  | system
  | close
  | fflush
  deriving DecidableEq, Repr, Inhabited

/-- The names of the functions that every script has, and how many arguments they take. -/
def builtins : List (String × Builtin × Nat × Nat) := [
  ("length", .length, 0, 1), ("substr", .substr, 2, 3), ("index", .index, 2, 2), ("split", .split, 2, 3),
  ("sub", .sub, 2, 3), ("gsub", .gsub, 2, 3), ("match", .find, 2, 2), ("sprintf", .sprintf, 1, 255),
  ("sin", .sin, 1, 1), ("cos", .cos, 1, 1), ("atan2", .atan2, 2, 2), ("exp", .exp, 1, 1), ("log", .log, 1, 1),
  ("sqrt", .sqrt, 1, 1), ("int", .int, 1, 1), ("rand", .rand, 0, 0), ("srand", .srand, 0, 1),
  ("tolower", .tolower, 1, 1), ("toupper", .toupper, 1, 1), ("system", .system, 1, 1), ("close", .close, 1, 1),
  ("fflush", .fflush, 0, 1)]

/-- Where a line is read from. -/
inductive LineSource where
  /-- The records of the script. -/
  | records
  | file
  | command
  deriving DecidableEq, Repr, Inhabited

/-- An expression. -/
inductive Expr where
  | number (x : Float)
  | text (s : String)
  /-- A regular expression, which by itself tells whether it matches in the record. -/
  | pattern (regex : Text.Regex)
  | name (name : String)
  | field (index : Expr)
  | element (table : String) (keys : List Expr)
  | assign (place value : Expr)
  | update (operation : Operation) (place value : Expr)
  /-- Changes a place by one, and is what the place held before or holds then. -/
  | bump (up before : Bool) (place : Expr)
  | choice (test yes no : Expr)
  | either (first second : Expr)
  | both (first second : Expr)
  | negation (e : Expr)
  | comparison (how : Comparison) (first second : Expr)
  | matching (wanted : Bool) (subject regex : Expr)
  | membership (keys : List Expr) (table : String)
  | joined (first second : Expr)
  | calculation (operation : Operation) (first second : Expr)
  | negative (e : Expr)
  | positive (e : Expr)
  | builtin (function : Builtin) (args : List Expr)
  | call (function : String) (args : List Expr)
  | readLine (source : LineSource) (origin : Option Expr) (place : Option Expr)
  /-- An expression in parentheses, or several. -/
  | group (items : List Expr)
  deriving Inhabited

/-- Whether an expression names a place for a value. -/
def Expr.isPlace : Expr → Bool
  | .name _ | .field _ | .element _ _ => true
  | _ => false

/-- Where output goes that does not go to standard output. -/
inductive OutputKind where
  | file
  | fileEnd
  | command
  deriving DecidableEq, Repr, Inhabited

/-- Where output goes. -/
structure Output where
  kind : OutputKind
  target : Expr
  deriving Inhabited

/-- A statement. -/
inductive Statement where
  | nothing
  | block (body : List Statement)
  | expression (e : Expr)
  | print (items : List Expr) (output : Option Output)
  | printf (items : List Expr) (output : Option Output)
  | choose (test : Expr) (yes : Statement) (no : Option Statement)
  | loop (test : Expr) (body : Statement)
  /-- A loop whose test comes behind its body. -/
  | loopAfter (body : Statement) (test : Expr)
  /-- A loop with something to do behind each run of its body. -/
  | count (test : Option Expr) (step body : Statement)
  | forEach (name table : String) (body : Statement)
  | leaveLoop
  | nextRound
  | nextRecord
  | nextFile
  | quit (status : Option Expr)
  | giveBack (value : Option Expr)
  /-- Takes away an element, or all of them. -/
  | delete (table : String) (keys : List Expr)
  deriving Inhabited

/-- When a rule applies. -/
inductive Condition where
  | atStart
  | atEnd
  | always
  | test (e : Expr)
  /-- From a record that passes the first test to one that passes the second. -/
  | run (first last : Expr)
  deriving Inhabited

/-- A rule. -/
structure Rule where
  condition : Condition
  body : List Statement
  deriving Inhabited

/-- A function that a script defines. -/
structure Function where
  params : List String
  body : List Statement
  deriving Inhabited

/-- A script of rules. -/
structure Script where
  rules : List Rule := []
  functions : List (String × Function) := []
  deriving Inhabited

end BatchRunner.Machine.Tool.Rules
