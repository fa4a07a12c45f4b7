import BatchRunner.Machine.Shell.Word

/-!
# Tokens of a script

A script is divided into words, operators and line ends. Which words are keywords and which stand for an alias
depends on where they are read.
-/

namespace BatchRunner.Machine.Shell

open Reading

/-- What is looked for when a token is read. -/
structure Looking where
  /-- Words of the grammar. -/
  keywords : Bool := false
  /-- Names that stand for other text. -/
  aliases : Bool := false
  /-- Line ends are passed over. -/
  newlines : Bool := false
  /-- A line that ends a text: nothing in it is expanded. -/
  ending : Bool := false
  deriving Inhabited

namespace Looking

/-- At the start of a command. -/
def atCommand : Looking := { keywords := true, aliases := true }

/-- At the start of a command that may stand on a later line. -/
def afterLines : Looking := { keywords := true, aliases := true, newlines := true }

/-- At a word that must be of the grammar, on this line or a later one. -/
def atKeyword : Looking := { keywords := true, newlines := true }

end Looking

/-- The words of the grammar. -/
def keywords : List String := [
  "!", "case", "do", "done", "elif", "else", "esac", "fi", "for", "if", "in", "then", "until", "while",
  "\x7b", "\x7d"]

/-! ## Texts for redirections -/

/-- Whether a line, last character first, ends in a backslash that joins it to the next. -/
def joinsNext (reversed : List Char) : Bool := (reversed.takeWhile (· == '\\')).length % 2 == 1

/-- The characters of a line, last first, and those behind its end; `ended` says whether it has an end. -/
def splitLine : List Char → List Char → List Char × Bool × List Char
  | taken, [] => (taken, false, [])
  | taken, '\n' :: rest => (taken, true, rest)
  | taken, c :: rest => splitLine (c :: taken) rest

/-- The text up to the line that ends it, last character first, the characters behind that line, and the number
of lines. `joined` says that the line goes on from the one before it. The fuel bounds the number of lines. -/
def awaitedText (wanted : Awaited) : Nat → Bool → List Char → List Char → Nat → List Char × List Char × Nat
  | 0, _, text, chars, lines => (text, chars, lines)
  | fuel + 1, joined, text, chars, lines =>
    if chars.isEmpty then (text, [], lines)
    else
      let chars := if wanted.tabless && !joined then chars.dropWhile (· == '\t') else chars
      let (line, ended, rest) := splitLine [] chars
      let lines := if ended then lines + 1 else lines
      if !joined && String.ofList line.reverse == wanted.ending then (text, rest, lines)
      else
        let text := if ended then '\n' :: (line ++ text) else line ++ text
        awaitedText wanted fuel (!wanted.literal && ended && joinsNext line) text rest lines

/-- Reads a text that a redirection waits for. -/
def readAwaited (script : Reading Unit) (wanted : Awaited) : Reading Unit := do
  let source ← get
  let (text, rest, lines) := awaitedText wanted (source.chars.length + 1) false [] source.chars 0
  let text := String.ofList text.reverse
  let word ←
    if wanted.literal then pure [.text true text]
    else
      let reading := pieces script false (text.length + 2) .document .none
      match StateT.run reading (Source.ofText text source.line 0 source.aliases) with
      | .ok (word, _) => pure word
      | .error misprint => throw misprint
  set { source with
    chars := rest
    line := source.line + lines
    documents := (wanted.number, word) :: source.documents }

/-- Reads all texts that redirections wait for. -/
def readAllAwaited (script : Reading Unit) : Reading Unit := do
  let awaited := (← get).awaited
  modify fun source => { source with awaited := [] }
  awaited.forM (readAwaited script)

/-! ## Tokens -/

/-- Passes over blanks and over a remark. The fuel bounds the number of characters. -/
def skipBlanks : Nat → Reading Unit
  | 0 => return ()
  | fuel + 1 => do
    match ← peek with
    | some c =>
      if c == ' ' || c == '\t' then
        skip
        skipBlanks fuel
      else if c == '#' then
        modify fun source => { source with chars := source.chars.dropWhile (· != '\n') }
      else return ()
    | none => return ()

/-- A redirection, from its sign on. -/
def redirection (fd : Option Nat) : Reading Token := do
  let fdOr (other : Nat) : Nat := fd.getD other
  if ← take '>' then
    if ← take '>' then return .redirect (fdOr 1) .append false
    if ← take '|' then return .redirect (fdOr 1) (.output true) false
    if ← take '&' then return .redirect (fdOr 1) .duplicate false
    return .redirect (fdOr 1) (.output false) false
  else
    skip
    if ← take '<' then return .redirect (fdOr 0) (.document 0) (← take '-')
    if ← take '&' then return .redirect (fdOr 0) .duplicate false
    if ← take '>' then return .redirect (fdOr 0) .update false
    return .redirect (fdOr 0) .input false

/-- The next token of the characters. -/
def freshToken (script : Reading Unit) (looking : Looking) : Reading Token := do
  skipBlanks (← bound)
  let twice (c : Char) : Reading Token := do
    skip
    if ← take c then return .operator (String.ofList [c, c]) else return .operator c.toString
  match ← peek with
  | none => return .finish
  | some '\n' => do
    skip
    return .newline
  | some '&' => twice '&'
  | some '|' => twice '|'
  | some ';' => twice ';'
  | some '(' => do
    skip
    return .operator "("
  | some ')' => do
    skip
    return .operator ")"
  | some c => do
    if c == '<' || c == '>' then redirection none
    else
      let word ← pieces script looking.ending (← bound) .word .none
      let behind ← peek
      match plain? word with
      | some text => match text.toList, behind with
        | [d], some b =>
          if d.isDigit && (b == '<' || b == '>') then redirection (some (d.toNat - '0'.toNat))
          else return .word word (some text)
        | _, _ => return .word word (some text)
      | none => return .word word (if word.isEmpty then some "" else none)

/-- The next token, held or fresh. -/
def anyToken (script : Reading Unit) (looking : Looking) : Reading Token := do
  match (← get).held with
  | some token => do
    modify fun source => { source with held := none }
    return token
  | none => freshToken script looking

/-- The next token that is no line end. The fuel bounds the number of lines. -/
def tokenAfterLines (script : Reading Unit) (looking : Looking) : Nat → Reading Token
  | 0 => return .finish
  | fuel + 1 => do
    match ← anyToken script looking with
    | .newline => do
      readAllAwaited script
      tokenAfterLines script looking fuel
    | token => return token

/-- Puts the text of an alias in front of the script, unless its name stands in that text itself. -/
def replaceAlias (name : String) : Reading Bool := do
  let source ← get
  if source.aliases.isEmpty then return false
  let left := source.chars.length
  let active := source.active.filter fun a => a.behind < left || (a.behind == left && a.name == name)
  match source.aliases.lookup name with
  | none => return false
  | some value =>
    if active.any (·.name == name) then return false
    set { source with
      chars := value.toList ++ source.chars
      active := ⟨name, left⟩ :: active }
    return true

/-- The next token. The fuel bounds the number of aliases in a row. -/
def tokenWith (script : Reading Unit) (looking : Looking) : Nat → Reading Token
  | 0 => return .finish
  | fuel + 1 => do
    let token ← if looking.newlines then tokenAfterLines script looking (← bound) else anyToken script looking
    match token with
    | .word _ (some text) =>
      if looking.keywords && keywords.contains text then return .keyword text
      else if looking.aliases then
        if ← replaceAlias text then tokenWith script looking fuel else return token
      else return token
    | token => return token

/-- The next token. -/
def token (script : Reading Unit) (looking : Looking) : Reading Token := tokenWith script looking 1000

/-- Puts a token back. -/
def hold (token : Token) : Reading Unit := modify fun source => { source with held := some token }

/-- Refuses a token. -/
def unexpected {α : Type} (token : Token) (wanted : Option Token) : Reading α :=
  match wanted with
  | some other => refuse (token.describe ++ " unexpected (expecting " ++ other.describe ++ ")")
  | none => refuse (token.describe ++ " unexpected")

/-- The redirection that a token starts, with the word that it needs. -/
def completeRedirect (script : Reading Unit) (fd : Nat) (kind : RedirectKind) (tabless : Bool) :
    Reading Redirect := do
  match kind with
  | .document _ => do
    match ← token script { ending := true } with
    | .word word _ => do
      let source ← get
      let number := source.nextDocument
      let awaited : Awaited :=
        { number, ending := bareText word, tabless, literal := word.any fun
            | .text quoted _ => quoted
            | _ => true }
      set { source with nextDocument := number + 1, awaited := source.awaited ++ [awaited] }
      return ⟨fd, .document number, []⟩
    | other => unexpected other none
  | kind => do
    match ← token script {} with
    | .word word _ => return ⟨fd, kind, word⟩
    | other => unexpected other none

end BatchRunner.Machine.Shell
