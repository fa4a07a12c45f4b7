/-!
# Shell commands

The commands of the shell that runs on a machine: simple commands with redirections, and what combines them.
All texts are octets, one character a byte.
-/

namespace BatchRunner.Machine.Shell

/-- What an expansion does with a parameter. A test takes an empty value for none if `orEmpty` is set. -/
inductive Use where
  /-- Its value. -/
  | value
  /-- Its length. -/
  | length
  /-- Its value, or a word if it is not set. -/
  | default (orEmpty : Bool)
  /-- Its value, or a word, which is then assigned to it, if it is not set. -/
  | assign (orEmpty : Bool)
  /-- Its value; a complaint if it is not set. -/
  | demand (orEmpty : Bool)
  /-- A word if it is set, else nothing. -/
  | alternative (orEmpty : Bool)
  /-- Its value less what a pattern matches at one of its ends. -/
  | trim (front longest : Bool)
  deriving DecidableEq, Repr, Inhabited

/-- A piece of a word. Pieces in quotes are not divided into fields. -/
inductive Part where
  | text (quoted : Bool) (chars : String)
  | parameter (quoted : Bool) (name : String) (use : Use) (word : List Part)
  /-- The output of a script, whose text starts on a line. -/
  | script (quoted : Bool) (text : String) (line : Nat)
  /-- The value of an arithmetic expression. -/
  | sum (quoted : Bool) (expression : List Part)
  /-- A parameter in braces that follows no rule. -/
  | invalid
  deriving Inhabited, Repr

/-- A word before its expansion. -/
abbrev Word := List Part

/-- What a redirection opens. -/
inductive RedirectKind where
  /-- A file for reading. -/
  | input
  /-- A file for writing, emptied first; `always` empties files that are to be kept, too. -/
  | output (always : Bool)
  /-- A file for writing at its end. -/
  | append
  /-- A file for reading and writing. -/
  | update
  /-- The descriptor that the word names, or none if the word is a hyphen. -/
  | duplicate
  /-- A text that stands in the script, by its number. -/
  | document (number : Nat)
  deriving DecidableEq, Repr, Inhabited

/-- A redirection of a descriptor. -/
structure Redirect where
  fd : Nat
  kind : RedirectKind
  target : Word
  deriving Inhabited, Repr

/-- A command. -/
inductive Command where
  | nothing
  | simple (line : Nat) (assignments : List (String × Word)) (words : List Word) (redirects : List Redirect)
  /-- A command in a process of its own. -/
  | subshell (line : Nat) (body : Command) (redirects : List Redirect)
  /-- A command with redirections of its own. -/
  | redirected (line : Nat) (body : Command) (redirects : List Redirect)
  | sequence (first second : Command)
  /-- The second command runs if the first succeeds. -/
  | both (first second : Command)
  /-- The second command runs if the first fails. -/
  | either (first second : Command)
  | negate (body : Command)
  /-- A command that is not waited for. -/
  | background (line : Nat) (body : Command) (redirects : List Redirect)
  /-- Commands in processes of their own, each reading what the one before it writes. -/
  | pipeline (background : Bool) (commands : List Command)
  /-- One of two commands, by the success of the first. -/
  | choose (test success : Command) (failure : Option Command)
  /-- Runs the body while the test succeeds, or while it fails if `untilSuccess` is set. -/
  | repeated (untilSuccess : Bool) (test body : Command)
  /-- Runs the body for each field of the words. -/
  | forEach (line : Nat) (name : String) (words : List Word) (body : Command)
  /-- Runs the command behind the first list of patterns that matches a word. -/
  | select (line : Nat) (word : Word) (choices : List (List Word × Command))
  /-- Gives a command a name. -/
  | define (line : Nat) (name : String) (body : Command)
  deriving Inhabited, Repr

end BatchRunner.Machine.Shell
