import BatchRunner.Machine.Shell.Format
import BatchRunner.Machine.Tool.Rules.Basic

/-!
# Words and signs of a script

A script is taken apart into numbers, texts, names and signs. Whether a slash divides or starts a regular expression
is known only to who asks for the next of them.
-/

namespace BatchRunner.Machine.Tool.Rules

/-- A word or sign of a script. -/
inductive Token where
  | number (x : Float) (shown : String)
  | text (s : String) (shown : String)
  | name (name : String)
  /-- A name with a parenthesis right behind it. -/
  | called (name : String)
  | builtin (name : String) (function : Builtin) (least most : Nat)
  | keyword (name : String)
  | sign (s : String)
  | lineEnd
  | finish
  deriving Inhabited

/-- A token as a message shows it. -/
def Token.shown : Token → String
  | number _ shown => shown
  | text _ shown => shown
  | name s => s
  | called s => s
  | builtin s .. => s
  | keyword s => s
  | sign s => s
  | lineEnd => "end of line"
  | finish => "end of file"

/-- The words that have a meaning of their own. -/
def keywords : List String := [
  "BEGIN", "END", "function", "if", "else", "while", "do", "for", "in", "break", "continue", "next", "nextfile", "exit",
  "return", "delete", "print", "printf", "getline"]

/-- The signs, those that begin with others before them. -/
def signs : List String := [
  "^=", "+=", "-=", "*=", "/=", "%=", "==", "!=", "<=", ">=", "&&", "||", "++", "--", ">>", "!~", "\x7b", "\x7d", "(", ")",
  "[", "]", ";", ",", "+", "-", "*", "/", "%", "^", "!", ">", "<", "|", "?", ":", "~", "$", "="]

/-- What is wrong with a script, and in which line; and what else is found to be wrong because of that. -/
structure Misprint where
  line : Nat
  text : String
  /-- Whether a character has no place in scripts at all. -/
  isStrange : Bool := false
  more : List (Nat × String) := []
  deriving DecidableEq, Repr, Inhabited

namespace Misprint

/-- The messages about a misprint. -/
def messages (m : Misprint) : List String :=
  let place (line : Nat) : String := (if m.isStrange then "" else "line ") ++ toString line ++ ": "
  ((m.line, m.text) :: m.more).map fun (line, text) => place line ++ text

end Misprint

/-- Whether a name may begin with a character. -/
def isNameStart (c : Char) : Bool := c.isAlpha || c == '_'

/-- Whether a name may go on with a character. -/
def isNameChar (c : Char) : Bool := isNameStart c || c.isDigit

/-- A text with its escapes carried out. A backslash stays in front of a character that it does not change. The fuel
bounds the number of characters. -/
def unescaped : Nat → List Char → List Char
  | 0, _ => []
  | _, [] => []
  | fuel + 1, '\\' :: c :: rest =>
    if (Shell.Format.octalValue? c).isSome then
      let (n, rest) := Shell.Format.octal 3 (c :: rest)
      Shell.Format.byte n :: unescaped fuel rest
    else match c with
      | '"' => '"' :: unescaped fuel rest
      | '\\' => '\\' :: unescaped fuel rest
      | 'a' => '\x07' :: unescaped fuel rest
      | 'b' => '\x08' :: unescaped fuel rest
      | 'f' => '\x0c' :: unescaped fuel rest
      | 'n' => '\n' :: unescaped fuel rest
      | 'r' => '\r' :: unescaped fuel rest
      | 't' => '\t' :: unescaped fuel rest
      | 'v' => '\x0b' :: unescaped fuel rest
      | '\n' => unescaped fuel rest
      | c => '\\' :: c :: unescaped fuel rest
  | fuel + 1, c :: rest => c :: unescaped fuel rest

/-- A text with its escapes carried out. -/
def unescape (s : String) : String := String.ofList (unescaped (s.length + 1) s.toList)

/-- The characters of a text up to its closing quote, and what is behind that; nothing if the text does not end. -/
def quoted : List Char → List Char → Option (List Char × List Char)
  | [], _ => none
  | '"' :: rest, done => some (done.reverse, rest)
  | '\\' :: c :: rest, done => quoted rest (c :: '\\' :: done)
  | c :: rest, done => if c == '\n' then none else quoted rest (c :: done)

/-- The characters of a regular expression up to the slash that closes it, which may also stand in brackets, and what
is behind that; nothing if the expression does not end. -/
def slashed : Bool → List Char → List Char → Option (List Char × List Char)
  | _, [], _ => none
  | inSet, '\\' :: '/' :: rest, done => slashed inSet rest ('/' :: done)
  | inSet, '\\' :: c :: rest, done => if c == '\n' then none else slashed inSet rest (c :: '\\' :: done)
  | false, '/' :: rest, done => some (done.reverse, rest)
  | false, '[' :: '^' :: ']' :: rest, done => slashed true rest (']' :: '^' :: '[' :: done)
  | false, '[' :: ']' :: rest, done => slashed true rest (']' :: '[' :: done)
  | inSet, c :: rest, done =>
    if c == '\n' then none else slashed ((inSet && c != ']') || c == '[') rest (c :: done)

/-- What a regular expression says in the general form: escapes that stand for a character are carried out. -/
def generalForm : Nat → List Char → List Char
  | 0, _ => []
  | _, [] => []
  | fuel + 1, '\\' :: c :: rest =>
    if c.isDigit && (Shell.Format.octalValue? c).isSome then
      let (n, rest) := Shell.Format.octal 3 (c :: rest)
      protect (Shell.Format.byte n) ++ generalForm fuel rest
    else match c with
      | '"' => '"' :: generalForm fuel rest
      | '/' => '/' :: generalForm fuel rest
      | 'a' => '\x07' :: generalForm fuel rest
      | 'b' => '\x08' :: generalForm fuel rest
      | 'f' => '\x0c' :: generalForm fuel rest
      | 'n' => '\n' :: generalForm fuel rest
      | 'r' => '\r' :: generalForm fuel rest
      | 't' => '\t' :: generalForm fuel rest
      | 'v' => '\x0b' :: generalForm fuel rest
      | c =>
        if c.isAlphanum || "\x60'<>".toList.contains c then c :: generalForm fuel rest
        else '\\' :: c :: generalForm fuel rest
  | fuel + 1, c :: rest => c :: generalForm fuel rest
where
  /-- A character by itself. -/
  protect (c : Char) : List Char := if "\\.[]()*+?\x7b\x7d|^$".toList.contains c then ['\\', c] else [c]

/-- What a regular expression is that cannot be read. -/
def faultText : Text.Regex.Fault → String
  | .unmatchedOpening => "missing ')'"
  | .unmatchedBracket => "bad class -- [], [^] or ["
  | _ => "missing operand"

/-- Reads a regular expression. -/
def regexOf (source : String) : Except String Text.Regex :=
  let general := String.ofList (generalForm (source.length + 1) source.toList)
  let refuse (fault : Text.Regex.Fault) : Except String Text.Regex :=
    .error ("regular expression compile failed (" ++ faultText fault ++ ")\n" ++ source)
  match Text.Regex.ofText ⟨.extended, true⟩ general, Text.Regex.ofText ⟨.extended, false⟩ general with
  | .error (.nothingRepeated sign), _ => refuse (.nothingRepeated sign)
  | _, .error fault => refuse fault
  | _, .ok regex => .ok regex

end BatchRunner.Machine.Tool.Rules
