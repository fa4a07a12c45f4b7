/-!
# Options of a shell

The options that a shell is started with, or that the command `set` changes.
-/

namespace BatchRunner.Machine.Shell

/-- What the arguments of a shell say. -/
structure ShellCall where
  options : List Char := []
  /-- Whether a script is among the arguments. -/
  hasScript : Bool := false
  /-- Whether two hyphens have ended the options. -/
  ended : Bool := false
  rest : List String := []
  /-- Whether the names of the options are asked for, and in which form. -/
  asksNames : Option Bool := none

/-- The names of options, with the letters that stand for them. -/
def optionNames : List (String × Char) := [
  ("errexit", 'e'), ("noglob", 'f'), ("ignoreeof", 'I'), ("interactive", 'i'), ("monitor", 'm'), ("noexec", 'n'),
  ("stdin", 's'), ("xtrace", 'x'), ("verbose", 'v'), ("vi", 'V'), ("emacs", 'E'), ("noclobber", 'C'),
  ("allexport", 'a'), ("notify", 'b'), ("nounset", 'u'), ("privileged", 'p'), ("nolog", '.'), ("debug", ',')]

/-- Sets an option, or takes it away. -/
def setOption (options : List Char) (on : Bool) (letter : Char) : List Char :=
  let others := options.filter (· != letter)
  if on then letter :: others else others

/-- Reads the letters of one argument of a shell; the arguments behind it may hold the name of an option. -/
def readLetters (on atStart : Bool) : List Char → ShellCall → List String → Except String (ShellCall × List String)
  | [], call, rest => .ok (call, rest)
  | c :: cs, call, rest =>
    if c == 'c' && atStart then readLetters on atStart cs { call with hasScript := true } rest
    else if c == 'l' && atStart then readLetters on atStart cs call rest
    else if c == 'o' then match rest with
      | [] => readLetters on atStart cs { call with asksNames := some on } []
      | name :: rest => match optionNames.lookup name with
        | some letter => readLetters on atStart cs { call with options := setOption call.options on letter } rest
        | none => .error ("Illegal option -o " ++ name)
    else if optionNames.any (·.2 == c) then
      readLetters on atStart cs { call with options := setOption call.options on c } rest
    else .error ("Illegal option -" ++ c.toString)

/-- Reads the options of a shell. The fuel bounds the number of arguments. -/
def readOptions (atStart : Bool) : Nat → ShellCall → List String → Except String ShellCall
  | 0, call, args => .ok { call with rest := args }
  | fuel + 1, call, args =>
    match args with
    | [] => .ok { call with rest := [] }
    | a :: rest => match a.toList with
      | ['-'] => .ok { call with rest, options := call.options.filter fun c => c != 'x' && c != 'v' }
      | ['-', '-'] => .ok { call with rest, ended := true }
      | '-' :: letters => do
        let (call, rest) ← readLetters true atStart letters call rest
        readOptions atStart fuel call rest
      | '+' :: letters => do
        let (call, rest) ← readLetters false atStart letters call rest
        readOptions atStart fuel call rest
      | _ => .ok { call with rest := a :: rest }

end BatchRunner.Machine.Shell
