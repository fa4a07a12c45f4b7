import BatchRunner.Machine.Shell.Token

/-!
# The grammar of scripts

A script is a list of lines, and a line is a list of commands. The rules of the grammar call one another only
through one function that says what is wanted, so that its depth is the depth of the commands.
-/

namespace BatchRunner.Machine.Shell

open Reading

/-- What a rule of the grammar reads. -/
inductive Goal where
  /-- The commands of one line. -/
  | line
  /-- Commands up to a word or operator that closes them, of which there is at least one. -/
  | commands
  /-- Commands up to a word or operator that closes them, of which there may be none. -/
  | anyCommands
  /-- One command, in front of which tokens are looked at so. -/
  | command (looking : Looking)

/-- The rules of the grammar for what a rule needs in turn. -/
abbrev Rules := Goal → Reading Command

/-- Whether a token closes a list of commands. -/
def Token.isCloser : Token → Bool
  | keyword name => ["then", "else", "elif", "fi", "do", "done", "esac", "\x7d"].contains name
  | operator name => name == ")" || name == ";;"
  | finish => true
  | _ => false

/-- Whether two tokens are the same word or operator of the grammar. -/
def Token.same : Token → Token → Bool
  | keyword a, keyword b => a == b
  | operator a, operator b => a == b
  | newline, newline => true
  | finish, finish => true
  | _, _ => false

/-- Reads another script up to the parenthesis that closes it. -/
def Rules.script (rules : Rules) : Reading Unit := do
  let _ ← rules .anyCommands
  -- The rules leave the closing token held.
  let closing := (← get).held.getD .finish
  if closing.same (.operator ")") then modify fun source => { source with held := none }
  else unexpected closing (some (.operator ")"))

variable (rules : Rules)

/-- The next token. -/
def nextToken (looking : Looking) : Reading Token := token rules.script looking

/-- Reads a token that must come now. -/
def expect (wanted : Token) (looking : Looking) : Reading Unit := do
  let t ← nextToken rules looking
  if t.same wanted then return () else unexpected t (some wanted)

/-- A redirection that a token starts. -/
def redirectOf (fd : Nat) (kind : RedirectKind) (tabless : Bool) : Reading Redirect :=
  completeRedirect rules.script fd kind tabless

/-- The redirections behind a command. The fuel bounds their number. -/
def redirects : Nat → List Redirect → Reading (List Redirect)
  | 0, done => return done.reverse
  | fuel + 1, done => do
    match ← nextToken rules .atCommand with
    | .redirect fd kind tabless => do redirects fuel ((← redirectOf rules fd kind tabless) :: done)
    | t => do
      hold t
      return done.reverse

/-- A word that assigns to a variable: its name and the word behind the equals sign. -/
def assignment? : Word → Option (String × Word)
  | .text false chars :: more =>
    let name := chars.toList.takeWhile isNameChar
    match name, chars.toList.dropWhile isNameChar with
    | c :: _, '=' :: value =>
      if isNameStart c then
        some (String.ofList name, if value.isEmpty then more else .text false (String.ofList value) :: more)
      else none
    | _, _ => none
  | _ => none

/-- The builtin commands that are part of the language: their faults end the shell, and no function may have
their names. -/
def specialBuiltins : List String := [
  ".", ":", "break", "continue", "eval", "exec", "exit", "export", "local", "readonly", "return", "set", "shift",
  "times", "trap", "unset"]

/-- What a simple command has so far, last first. -/
structure Gathered where
  line : Nat
  assignments : List (String × Word) := []
  words : List Word := []
  redirects : List Redirect := []

/-- A simple command, or the definition of a function. The fuel bounds the number of its words. -/
def simple : Nat → Gathered → Reading Command
  | 0, _ => refuse "Unterminated quoted string"
  | fuel + 1, done => do
    let finish (t : Token) : Reading Command := do
      hold t
      return .simple done.line done.assignments.reverse done.words.reverse done.redirects.reverse
    match ← nextToken rules { aliases := done.words.isEmpty } with
    | .word word _ => do
      match if done.words.isEmpty then assignment? word else none with
      | some a => simple fuel { done with assignments := a :: done.assignments }
      | none => simple fuel { done with words := word :: done.words }
    | .redirect fd kind tabless => do
      let r ← redirectOf rules fd kind tabless
      simple fuel { done with redirects := r :: done.redirects }
    | .operator "(" =>
      match done.words, done.assignments, done.redirects with
      | [word], [], [] => do
        expect rules (.operator ")") {}
        match plain? word with
        | some name =>
          if isName name && !specialBuiltins.contains name then
            let line := (← get).line
            let body ← rules (.command .afterLines)
            return .define line name body
          else refuse "Bad function name"
        | none => refuse "Bad function name"
      | _, _, _ => finish (.operator "(")
    | t => finish t

/-- The commands behind a word of the grammar that must come now. -/
def commandsBehind (word : String) : Reading Command := do
  expect rules (.keyword word) .atCommand
  rules .commands

/-- A test and what depends on it. The fuel bounds the number of tests. -/
def conditional : Nat → Reading Command
  | 0 => refuse "Unterminated quoted string"
  | fuel + 1 => do
    let test ← rules .commands
    let success ← commandsBehind rules "then"
    match ← nextToken rules .atCommand with
    | .keyword "elif" => return .choose test success (some (← conditional fuel))
    | .keyword "else" => return .choose test success (some (← rules .commands))
    | t => do
      hold t
      return .choose test success none

/-- The words of a loop over fields. The fuel bounds their number. -/
def loopWords : Nat → List Word → Reading (List Word)
  | 0, done => return done.reverse
  | fuel + 1, done => do
    match ← nextToken rules {} with
    | .word word _ => loopWords fuel (word :: done)
    | .newline => do
      readAllAwaited rules.script
      return done.reverse
    | .operator ";" => return done.reverse
    | t => unexpected t none

/-- A loop over fields, from behind the word that opens it. -/
def fieldLoop (line : Nat) : Reading Command := do
  match ← nextToken rules {} with
  | .word _ (some name) => do
    if !isName name then refuse "Bad for loop variable"
    let words ← do
      match ← nextToken rules .afterLines with
      | .keyword "in" => loopWords rules (← bound) []
      | .operator ";" => pure [[.parameter true "@" .value []]]
      | t => do
        hold t
        pure [[.parameter true "@" .value []]]
    expect rules (.keyword "do") .afterLines
    return .forEach line name words (← rules .commands)
  | _ => refuse "Bad for loop variable"

/-- The word that a token is as a pattern, even if it could be one of the grammar. -/
def patternOf : Token → Word
  | .word word _ => word
  | .keyword name => [.text false name]
  | _ => []

/-- Patterns up to the parenthesis that closes them. The fuel bounds their number. -/
def patterns : Nat → Token → List Word → Reading (List Word)
  | 0, _, done => return done.reverse
  | fuel + 1, t, done => do
    let word := patternOf t
    match ← nextToken rules {} with
    | .operator "|" => do patterns fuel (← nextToken rules {}) (word :: done)
    | .operator ")" => return (word :: done).reverse
    | t => unexpected t (some (.operator ")"))

/-- Choices by pattern up to the word that closes them. The fuel bounds their number. -/
def choices : Nat → List (List Word × Command) → Reading (List (List Word × Command))
  | 0, done => return done.reverse
  | fuel + 1, done => do
    match ← nextToken rules .atKeyword with
    | .keyword "esac" => return done.reverse
    | t => do
      let t ← if t.same (.operator "(") then nextToken rules {} else pure t
      let words ← patterns rules (← bound) t []
      let body ← rules .anyCommands
      match ← nextToken rules .atKeyword with
      | .keyword "esac" => return ((words, body) :: done).reverse
      | .operator ";;" => choices fuel ((words, body) :: done)
      | t => unexpected t (some (.operator ";;"))

/-- A choice by pattern, from behind the word that opens it. -/
def selection (line : Nat) : Reading Command := do
  match ← nextToken rules {} with
  | .word word _ => do
    expect rules (.keyword "in") .afterLines
    return .select line word (← choices rules (← bound) [])
  | t => unexpected t (some (.word [] none))

/-- A command with the redirections behind it. -/
def withRedirects (line : Nat) (body : Command) : Reading Command := do
  let rs ← redirects rules (← bound) []
  return if rs.isEmpty then body else match body with
    | .subshell line inner _ => .subshell line inner rs
    | body => .redirected line body rs

/-- One command. -/
def one (looking : Looking) : Reading Command := do
  let line := (← get).line
  let closed (body : Command) (closing : Token) : Reading Command := do
    expect rules closing .atCommand
    withRedirects rules line body
  match ← nextToken rules looking with
  | .keyword "if" => do closed (← conditional rules (← bound)) (.keyword "fi")
  | .keyword "while" => do
    let test ← rules .commands
    closed (.repeated false test (← commandsBehind rules "do")) (.keyword "done")
  | .keyword "until" => do
    let test ← rules .commands
    closed (.repeated true test (← commandsBehind rules "do")) (.keyword "done")
  | .keyword "for" => do closed (← fieldLoop rules line) (.keyword "done")
  | .keyword "case" => do withRedirects rules line (← selection rules line)
  | .operator "(" => do closed (.subshell line (← rules .commands) []) (.operator ")")
  | .keyword "\x7b" => do closed (← rules .commands) (.keyword "\x7d")
  | .word word plain => do
    hold (.word word plain)
    simple rules (← bound) { line }
  | .redirect fd kind tabless => do
    hold (.redirect fd kind tabless)
    simple rules (← bound) { line }
  | t => unexpected t none

/-- The commands behind the first of a pipeline. The fuel bounds their number. -/
def pipeRest : Nat → List Command → Reading (List Command)
  | 0, done => return done.reverse
  | fuel + 1, done => do
    match ← nextToken rules {} with
    | .operator "|" => do pipeRest fuel ((← rules (.command .afterLines)) :: done)
    | t => do
      hold t
      return done.reverse

/-- Commands joined by pipes. -/
def pipeline (looking : Looking) : Reading Command := do
  let t ← nextToken rules looking
  let negated := t.same (.keyword "!")
  if !negated then hold t
  let first ← rules (.command (if negated then .atCommand else {}))
  let rest ← pipeRest rules (← bound) []
  let body := if rest.isEmpty then first else .pipeline false (first :: rest)
  return if negated then .negate body else body

/-- What follows the first pipeline of a chain. The fuel bounds the number of pipelines. -/
def chainRest : Nat → Command → Reading Command
  | 0, first => return first
  | fuel + 1, first => do
    match ← nextToken rules {} with
    | .operator "&&" => do chainRest fuel (.both first (← pipeline rules .afterLines))
    | .operator "||" => do chainRest fuel (.either first (← pipeline rules .afterLines))
    | t => do
      hold t
      return first

/-- Pipelines joined by their success or failure. -/
def chain (looking : Looking) : Reading Command := do
  chainRest rules (← bound) (← pipeline rules looking)

/-- A command that is not waited for. -/
def inBackground (line : Nat) : Command → Command
  | .pipeline _ commands => .pipeline true commands
  | .redirected line body redirects => .background line body redirects
  | body => .background line body []

/-- One command after another. -/
def andThen : Option Command → Command → Command
  | none, second => second
  | some first, second => .sequence first second

/-- Commands one after another. The fuel bounds their number. -/
def listing (goal : Goal) : Nat → Option Command → Reading Command
  | 0, done => return done.getD .nothing
  | fuel + 1, done => do
    let isLine := match goal with
      | .line => true
      | _ => false
    let mayEnd := !isLine && (done.isSome || match goal with
      | .anyCommands => true
      | _ => false)
    let t ← nextToken rules (if isLine then .atCommand else .afterLines)
    match t with
    | .newline => do
      readAllAwaited rules.script
      return done.getD .nothing
    | .finish => do
      readAllAwaited rules.script
      hold .finish
      return done.getD .nothing
    | t => do
      hold t
      if mayEnd && t.isCloser then return done.getD .nothing
      let line := (← get).line
      let next ← chain rules (if isLine then .atCommand else .afterLines)
      match ← nextToken rules {} with
      | .operator "&" => listing goal fuel (some (andThen done (inBackground line next)))
      | .operator ";" => listing goal fuel (some (andThen done next))
      | .newline => do
        hold .newline
        listing goal fuel (some (andThen done next))
      | .finish => do
        hold .finish
        listing goal fuel (some (andThen done next))
      | t => do
        if isLine then unexpected t none
        hold t
        return andThen done next

/-- What a rule reads, with the rules for what it needs in turn. -/
def readGoal : Rules
  | .command looking => one rules looking
  | goal => do listing rules goal (← bound) none

/-- The rules of the grammar for commands that stand in one another up to a depth. -/
def rulesTo : Nat → Rules
  | 0 => fun _ => refuse "Unterminated quoted string"
  | depth + 1 => readGoal (rulesTo depth)

/-- The next line of a script: its commands, and what is left of the script; nothing if it is at its end. -/
def nextLine (source : Source) : Except Misprint (Option Command × Source) := do
  if source.isDone then return (none, source)
  let depth := source.chars.length + 2
  let (command, rest) ← StateT.run (rulesTo depth .line) source
  match command with
  | .nothing => return (if rest.isDone then none else some .nothing, rest)
  | command => return (some command, rest)

end BatchRunner.Machine.Shell
