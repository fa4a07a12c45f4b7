import BatchRunner.Machine.Shell.Command

/-!
# Scripts that are being read

A script is read from front to back, one complete command at a time, so that what stands in front of a fault
has been run when the fault is met. The texts of redirections stand behind the line that asks for them.
-/

namespace BatchRunner.Machine.Shell

/-- What is wrong with a script, and on which line. -/
structure Misprint where
  text : String
  line : Nat
  deriving Repr, Inhabited

/-- The pieces that a script is divided into. -/
inductive Token where
  /-- A word, with its text if no part of it is quoted or expanded. -/
  | word (word : Word) (plain : Option String)
  | operator (name : String)
  | newline
  | finish
  /-- A word that opens, divides or closes a command. -/
  | keyword (name : String)
  /-- A redirection whose word is still to be read; of a text in the script, whether its tabs go. -/
  | redirect (fd : Nat) (kind : RedirectKind) (tabless : Bool)
  deriving Inhabited, Repr

/-- How a message calls a token. -/
def Token.describe : Token → String
  | word _ _ => "word"
  | operator name => "\"" ++ name ++ "\""
  | newline => "newline"
  | finish => "end of file"
  | keyword name => "\"" ++ name ++ "\""
  | redirect _ _ _ => "redirection"

/-- A text that a redirection waits for: its number, the line that ends it, whether tabs at the front of its
lines go, and whether it is taken as it stands. -/
structure Awaited where
  number : Nat
  ending : String
  tabless : Bool
  literal : Bool
  deriving Inhabited, Repr

/-- An alias that stands in the script in place of its name, until no more characters are left than stood
behind it. -/
structure ActiveAlias where
  name : String
  behind : Nat
  deriving Inhabited, Repr

/-- What is left of a script. -/
structure Source where
  chars : List Char
  line : Nat
  /-- A token that was read but not yet used. -/
  held : Option Token
  awaited : List Awaited
  /-- The texts that were read for redirections. -/
  documents : List (Nat × Word)
  nextDocument : Nat
  aliases : List (String × String)
  active : List ActiveAlias
  deriving Inhabited, Repr

namespace Source

/-- A script from its start. -/
def ofText (text : String) (line nextDocument : Nat) (aliases : List (String × String)) : Source where
  chars := text.toList
  line
  held := none
  awaited := []
  documents := []
  nextDocument
  aliases
  active := []

/-- Whether nothing is left, as far as it has been looked at. -/
def isDone (source : Source) : Bool :=
  match source.held with
  | some .finish => true
  | _ => false

end Source

/-- Reads something from a script. -/
abbrev Reading (α : Type) := StateT Source (Except Misprint) α

namespace Reading

/-- Refuses the script. -/
def refuse {α : Type} (text : String) : Reading α := do
  throw ⟨text, (← get).line⟩

/-- Drops line ends that a backslash takes away, and counts them. -/
def joinLines : List Char → Nat → List Char × Nat
  | '\\' :: '\n' :: rest, line => joinLines rest (line + 1)
  | chars, line => (chars, line)

/-- The next character, which stays; lines that a backslash joins are one. -/
def peek : Reading (Option Char) := do
  let source ← get
  let (chars, line) := joinLines source.chars source.line
  set { source with chars, line }
  return chars.head?

/-- Drops a character. -/
def skip : Reading Unit := modify fun source =>
  match source.chars with
  | '\n' :: rest => { source with chars := rest, line := source.line + 1 }
  | _ :: rest => { source with chars := rest }
  | [] => source

/-- The next character. -/
def next : Reading (Option Char) := do
  let c ← peek
  skip
  return c

/-- The next character as it stands, whatever follows it. -/
def raw : Reading (Option Char) := do
  let c := (← get).chars.head?
  skip
  return c

/-- How many steps reading the rest of the script can take. -/
def bound : Reading Nat := return (← get).chars.length + 2

/-- Drops the next character if it is the one that is wanted. -/
def take (wanted : Char) : Reading Bool := do
  if (← peek) = some wanted then
    skip
    return true
  else return false

/-- The next characters as long as they are of a kind. The fuel bounds their number. -/
def run (wanted : Char → Bool) : Nat → List Char → Reading String
  | 0, taken => return String.ofList taken.reverse
  | fuel + 1, taken => do
    match ← peek with
    | some c =>
      if wanted c then
        skip
        run wanted fuel (c :: taken)
      else return String.ofList taken.reverse
    | none => return String.ofList taken.reverse

end Reading

end BatchRunner.Machine.Shell
