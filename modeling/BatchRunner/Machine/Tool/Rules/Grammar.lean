import BatchRunner.Machine.Tool.Rules.Token

/-!
# The grammar of scripts of rules

Expressions are read level by level, from the loosest to the tightest; a level calls the others only through one
function, so that its depth is the depth of the expression. What the grammar cannot tell, such as whether a function
exists, is looked at when the whole script has been read.
-/

namespace BatchRunner.Machine.Tool.Rules

/-- How far a script has been read. -/
structure Source where
  rest : List Char
  line : Nat := 1
  /-- A token that was looked at and is still to come, with the line in which it ends. -/
  held : Option (Token × Nat) := none
  /-- The functions that have been defined so far. -/
  functions : List (String × Function) := []
  /-- The functions that have been called, with the lines and the numbers of arguments. -/
  calls : List (String × Nat × Nat) := []
  /-- How many parentheses are open. -/
  parens : Nat := 0
  /-- How many braces are open. -/
  braces : Nat := 0
  deriving Inhabited

/-- Reads from a script. -/
abbrev Reading := StateT Source (Except Misprint)

namespace Reading

/-- Refuses the script for a misprint. -/
def reject {α : Type} (m : Misprint) : Reading α := fun _ => .error m

/-- Refuses the script. -/
def refuse {α : Type} (text : String) : Reading α := fun source => .error { line := source.line, text }

/-- Passes over blanks, comments and the ends of lines behind a backslash. The fuel bounds the number of characters. -/
def gap : Nat → List Char → Nat → List Char × Nat
  | 0, cs, line => (cs, line)
  | fuel + 1, cs, line => match cs with
    | '\\' :: '\n' :: rest => gap fuel rest (line + 1)
    | '\\' :: '\r' :: '\n' :: rest => gap fuel rest (line + 1)
    | c :: rest =>
      if c == ' ' || c == '\t' || c == '\r' then gap fuel rest line
      else if c == '#' then gap fuel (rest.dropWhile (· != '\n')) line
      else (cs, line)
    | [] => ([], line)

/-- What a name stands for in the grammar. -/
def named (name : String) (isCalled : Bool) : Token :=
  if keywords.contains name then .keyword name
  else match builtins.lookup name with
    | some (function, least, most) => .builtin name function least most
    | none => if isCalled then .called name else .name name

/-- The next token. -/
def fresh : Reading Token := do
  let source ← get
  let (cs, line) := gap (source.rest.length + 1) source.rest source.line
  let found (t : Token) (rest : List Char) : Reading Token := do
    set { source with rest, line }
    return t
  match cs with
  | [] => found .finish []
  | '\n' :: rest => do
    set { source with rest, line := line + 1 }
    return .lineEnd
  | '"' :: rest => match quoted rest [] with
    | some (cs, rest) => found (.text (String.ofList (unescaped (cs.length + 1) cs)) ("\"" ++ String.ofList cs ++ "\"")) rest
    | none => do
      set { source with rest, line }
      refuse ("runaway string constant \"" ++ String.ofList ((rest.takeWhile (· != '\n')).take 10) ++ " ...")
  | c :: rest =>
    if c.isDigit || (c == '.' && (rest.head?.map Char.isDigit).getD false) then
      match Decimal.floatAt? cs with
      | some (x, behind) => found (.number x (String.ofList (cs.take (cs.length - behind.length)))) behind
      | none => found .finish []
    else if isNameStart c then
      let name := cs.takeWhile isNameChar
      let behind := cs.drop name.length
      found (named (String.ofList name) (behind.head? == some '(')) behind
    else match signs.find? fun s => s.toList.isPrefixOf cs with
      | some s => found (.sign s) (cs.drop s.length)
      | none => reject { line, text := "unexpected character '" ++ c.toString ++ "'", isStrange := true }

/-- The next token, which is still to come. -/
def peek : Reading Token := do
  match (← get).held with
  | some (t, _) => return t
  | none =>
    let before := (← get).line
    let t ← fresh
    modify fun source => { source with held := some (t, source.line), line := if t matches .lineEnd then before else source.line }
    return t

/-- Passes over the token that was looked at. -/
def drop : Reading Unit := modify fun source =>
  match source.held with
  | some (t, line) =>
    let source := { source with held := none, line }
    match t with
    | .sign "(" => { source with parens := source.parens + 1 }
    | .sign ")" => { source with parens := source.parens - 1 }
    | .sign "\x7b" => { source with braces := source.braces + 1 }
    | .sign "\x7d" => { source with braces := source.braces - 1 }
    | _ => source
  | none => source

/-- Refuses the next token. A bracket that closes nothing is told first, and a block that is never closed last. -/
def unexpected {α : Type} : Reading α := do
  let t ← peek
  let source ← get
  let refuseWith (text : String) (more : List (Nat × String)) : Reading α :=
    reject { line := source.line, text, more }
  let closes := match t with
    | .finish | .lineEnd | .sign ";" | .sign "\x7d" => true
    | _ => false
  let isExtra := match t with
    | .sign s => (s == "\x7d" && source.braces = 0) || (s == ")" && source.parens = 0)
    | _ => false
  if isExtra then
    refuseWith ("extra '" ++ t.shown ++ "'") [(source.line, "syntax error at or near end of line")]
  else if 0 < source.parens && closes then refuseWith ("missing ) near " ++ t.shown) []
  else if 0 < source.braces && t matches .finish then refuseWith ("missing \x7d near " ++ t.shown) []
  else
    let count (c : Char) : Nat := source.rest.count c
    let atEnd := (source.held.elim source.line (·.2)) + count '\n'
    refuseWith ("syntax error at or near " ++ t.shown)
      (if source.braces = 0 || source.braces + count '\x7b' ≤ count '\x7d' || t matches .sign "\x7d" then []
      else [(atEnd, "missing \x7d near end of file")])

/-- Whether the next token is a sign, which is then passed over. -/
def accept (s : String) : Reading Bool := do
  match ← peek with
  | .sign t => if t == s then do drop; return true else return false
  | _ => return false

/-- Whether the next token is a word of the grammar, which is then passed over. -/
def acceptWord (name : String) : Reading Bool := do
  match ← peek with
  | .keyword t => if t == name then do drop; return true else return false
  | _ => return false

/-- Passes over a sign that must come now. -/
def expect (s : String) : Reading Unit := do
  if !(← accept s) then unexpected

/-- Passes over the ends of lines. The fuel bounds their number. -/
def lineEnds : Nat → Reading Unit
  | 0 => return
  | fuel + 1 => do
    if (← peek) matches .lineEnd then
      drop
      lineEnds fuel

/-- How many tokens may follow one another that are of no account. -/
def gapLimit : Nat := 100000

/-- Passes over the ends of lines. -/
def newlines : Reading Unit := lineEnds gapLimit

/-- Passes over the ends of lines and semicolons. The fuel bounds their number. -/
def separators : Nat → Reading Unit
  | 0 => return
  | fuel + 1 => do
    match ← peek with
    | .lineEnd => do drop; separators fuel
    | .sign ";" => do drop; separators fuel
    | _ => return

end Reading

open Reading

/-! ## Expressions -/

/-- How tightly the parts of an expression are bound. -/
inductive Level where
  | assignment
  | choice
  | either
  | both
  | membership
  | matching
  | comparison
  | joined
  | sum
  | product
  | sign
  | power
  | bump
  | atom
  deriving DecidableEq, Repr, Inhabited

/-- What the place of an expression does not allow unless it is in parentheses. -/
structure Bans where
  /-- The sign for more, which sends output to a file. -/
  more : Bool := false
  /-- The word for membership, which belongs to a loop. -/
  membership : Bool := false
  deriving Inhabited

/-- The signs of assignments that combine. -/
def updates : List (String × Operation) := [
  ("+=", .sum), ("-=", .difference), ("*=", .product), ("/=", .quotient), ("%=", .remainder), ("^=", .power)]

/-- The signs of comparisons. -/
def comparisons : List (String × Comparison) := [
  ("<", .less), ("<=", .atMost), ("==", .equal), ("!=", .unequal), (">", .more), (">=", .atLeast)]

/-- Whether an operand may begin with a token that joins what is in front of it with what follows. -/
def Token.startsOperand : Token → Bool
  | .number .. | .text .. | .name _ | .called _ | .builtin .. => true
  | .sign s => ["$", "!", "(", "-", "+", "++", "--"].contains s
  | _ => false

/-- Expressions that follow one another, each behind one of some signs; the left ones are combined first. The fuel
bounds their number. -/
def chain (operand : Reading Expr) (combine : String → Option (Expr → Expr → Expr)) : Nat → Expr → Reading Expr
  | 0, left => return left
  | fuel + 1, left => do
    match ← peek with
    | .sign s => match combine s with
      | some f => do
        drop
        if s == "&&" || s == "||" then newlines
        chain operand combine fuel (f left (← operand))
      | none => return left
    | _ => return left

/-- Expressions between commas up to a sign that closes them. The fuel bounds their number. -/
def listOf (item : Reading Expr) : Nat → List Expr → Reading (List Expr)
  | 0, done => return done.reverse
  | fuel + 1, done => do
    let done := (← item) :: done
    if ← accept "," then
      newlines
      listOf item fuel done
    else return done.reverse

/-- How many parts of a kind an expression has at most. -/
def partLimit : Nat := 100000

/-- A regular expression, of which the slash in front was read, with what it begins with. -/
def regexBehind (front : List Char) : Reading Expr := do
  let source ← get
  match slashed false source.rest front.reverse with
  | none => refuse ("runaway regular expression /" ++
      String.ofList ((front ++ source.rest.takeWhile (· != '\n')).take 10) ++ " ...")
  | some (cs, rest) =>
    set { source with rest }
    match regexOf (String.ofList cs) with
    | .ok regex => return .pattern regex
    | .error text => refuse text

/-- The sources of a line: nothing, or a file. -/
def lineOf (operand : Reading Expr) (command : Option Expr) : Reading Expr := do
  let place : Option Expr ← match ← peek with
    | .name _ | .sign "$" => some <$> operand
    | _ => pure none
  match command with
  | some command => return .readLine .command (some command) place
  | none =>
    if ← accept "<" then return .readLine .file (some (← operand)) place
    else return .readLine .records none place

/-- The parts of an expression that nothing can take apart. -/
def atom (expression : Bans → Level → Reading Expr) : Reading Expr := do
  let inner : Reading Expr := expression {} .assignment
  let list : Reading (List Expr) := do
    if ← accept ")" then return []
    let items ← listOf inner partLimit []
    expect ")"
    return items
  match ← peek with
  | .number x _ => do
    drop
    return .number x
  | .text s _ => do
    drop
    return .text s
  | .sign "/" => do
    drop
    regexBehind []
  | .sign "/=" => do
    drop
    regexBehind ['=']
  | .sign "$" => do
    drop
    match ← peek with
    | .sign "++" | .sign "--" => return .field (← expression {} .bump)
    | .sign "-" => do
      drop
      return .field (.negative (← expression {} .atom))
    | _ => return .field (← expression {} .atom)
  | .sign "(" => do
    drop
    let items ← list
    if items.isEmpty then unexpected
    return .group items
  | .name name => do
    drop
    if ← accept "[" then
      let keys ← listOf inner partLimit []
      expect "]"
      return .element name keys
    else if (← get).functions.any (·.1 == name) && (← peek) matches .sign "(" then
      let line := (← get).line
      expect "("
      let args ← list
      modify fun source => { source with calls := (name, line, args.length) :: source.calls }
      return .call name args
    else return .name name
  | .called name => do
    let line := (← get).line
    drop
    expect "("
    let args ← list
    modify fun source => { source with calls := (name, line, args.length) :: source.calls }
    return .call name args
  | .builtin name function least most => do
    drop
    let args ← if (← peek) matches .sign "(" then do
        drop
        list
      else if function == .length then pure []
      else unexpected
    if args.length < least || most < args.length then refuse ("wrong number of arguments in call to " ++ name)
    return .builtin function args
  | .keyword "getline" => do
    drop
    lineOf (expression {} .bump) none
  | _ => unexpected

/-- An expression that is bound at least as tightly as a level. The fuel bounds the depth. -/
def expression : Nat → Bans → Level → Reading Expr
  | 0, _, _ => refuse "syntax error"
  | fuel + 1, bans, level => do
    let inner (level : Level) : Reading Expr := expression fuel bans level
    match level with
    | .assignment => do
      let left ← inner .choice
      match ← peek with
      | .sign s =>
        if !left.isPlace then return left
        else if s == "=" then do
          drop
          return .assign left (← inner .assignment)
        else match updates.lookup s with
          | some operation => do
            drop
            return .update operation left (← inner .assignment)
          | none => return left
      | _ => return left
    | .choice => do
      let test ← inner .either
      if ← accept "?" then
        newlines
        let yes ← inner .assignment
        newlines
        expect ":"
        newlines
        return .choice test yes (← inner .assignment)
      else return test
    | .either => do chain (inner .both) (fun s => if s == "||" then some .either else none) partLimit (← inner .both)
    | .both => do
      chain (inner .membership) (fun s => if s == "&&" then some .both else none) partLimit (← inner .membership)
    | .membership => do
      let left ← inner .matching
      if bans.membership then return left
      if !(← acceptWord "in") then return left
      match ← peek with
      | .name table => do
        drop
        let keys := match left with
          | .group items => items
          | e => [e]
        return .membership keys table
      | _ => unexpected
    | .matching => do
      let combine (s : String) : Option (Expr → Expr → Expr) :=
        if s == "~" then some (.matching true) else if s == "!~" then some (.matching false) else none
      let left ← inner .comparison
      match ← peek with
      -- A text in the place of a regular expression is read as one now.
      | .sign s => if (combine s).isSome then chain (regexAt (inner .comparison)) combine partLimit left else return left
      | _ => return left
    | .comparison => do
      let combine (s : String) : Option (Expr → Expr → Expr) :=
        if s == ">" && bans.more then none else (comparisons.lookup s).map fun how => .comparison how
      let left ← inner .joined
      if bans.more && (← peek) matches .sign ">=" then refuse "syntax error at or near ="
      chain (inner .joined) combine partLimit left
    | .joined => do joinRest (inner .sum) partLimit (← inner .sum)
    | .sum => do
      let combine (s : String) : Option (Expr → Expr → Expr) :=
        if s == "+" then some (.calculation .sum) else if s == "-" then some (.calculation .difference) else none
      chain (inner .product) combine partLimit (← inner .product)
    | .product => do
      let combine (s : String) : Option (Expr → Expr → Expr) :=
        if s == "*" then some (.calculation .product) else if s == "/" then some (.calculation .quotient)
        else if s == "%" then some (.calculation .remainder) else none
      chain (inner .sign) combine partLimit (← inner .sign)
    | .sign => do
      if ← accept "!" then return .negation (← inner .sign)
      else if ← accept "-" then return .negative (← inner .sign)
      else if ← accept "+" then return .positive (← inner .sign)
      else inner .power
    | .power => do
      let left ← inner .bump
      if ← accept "^" then
        let right ← match ← peek with
          | .sign "-" | .sign "+" | .sign "!" => inner .sign
          | _ => inner .power
        return .calculation .power left right
      else return left
    | .bump => do
      match ← peek with
      | .sign "++" => do
        drop
        bumped true (← inner .bump)
      | .sign "--" => do
        drop
        bumped false (← inner .bump)
      | _ =>
        let e ← readFrom (inner .bump) partLimit (← atom (expression fuel))
        if e.isPlace then
          if ← accept "++" then return .bump true false e
          else if ← accept "--" then return .bump false false e
          else return e
        else return e
    | .atom => atom (expression fuel)
where
  /-- A place that is changed before it is used. -/
  bumped (up : Bool) (place : Expr) : Reading Expr :=
    if place.isPlace then return .bump up true place else unexpected
  /-- A regular expression, which a text may stand for. -/
  regexAt (operand : Reading Expr) : Reading Expr := do
    match ← operand with
    | .text s => match regexOf s with
      | .ok regex => return .pattern regex
      | .error text => refuse text
    | e => return e
  /-- Texts that follow one another are joined. -/
  joinRest (operand : Reading Expr) : Nat → Expr → Reading Expr
    | 0, left => return left
    | fuel + 1, left => do
      let t ← peek
      if t.startsOperand && !(t matches .sign "-" | .sign "+") then joinRest operand fuel (.joined left (← operand))
      else return left
  /-- A line may be read from each command. -/
  readFrom (operand : Reading Expr) : Nat → Expr → Reading Expr
    | 0, command => return command
    | fuel + 1, command => do
      match ← peek with
      | .sign "|" => do
        let before ← get
        drop
        if ← acceptWord "getline" then readFrom operand fuel (← lineOf operand (some command))
        else
          set before
          return command
      | _ => return command

/-- How deep expressions and statements may be. -/
def depthLimit : Nat := 100000

/-- An expression. -/
def expr (bans : Bans) : Reading Expr := expression depthLimit bans .assignment

/-! ## Statements -/

/-- What statements stand in. -/
structure Surroundings where
  inLoop : Bool := false
  inFunction : Bool := false
  /-- Whether there is a record to leave. -/
  hasRecord : Bool := true

/-- The end of a statement. -/
def statementEnd : Reading Unit := do
  match ← peek with
  | .lineEnd => do drop; newlines
  | .sign ";" => do drop; newlines
  | .sign "\x7d" => return
  | _ => unexpected

/-- Whether a statement ends at a token. -/
def Token.endsStatement : Token → Bool
  | .lineEnd | .finish | .sign ";" | .sign "\x7d" => true
  | _ => false

/-- What is written, and where to. -/
def outputOf : Reading (List Expr × Option Output) := do
  let t ← peek
  let isEmpty := t.endsStatement || t matches .sign ">" | .sign ">>" | .sign "|"
  let items ← if isEmpty then pure [] else listOf (expr { more := true }) partLimit []
  let items := match items with
    | [.group items] => items
    | items => items
  let kind : Option OutputKind ← do
    if ← accept ">" then pure (some .file)
    else if ← accept ">>" then pure (some .fileEnd)
    else if ← accept "|" then pure (some .command)
    else pure none
  match kind with
  | none => return (items, none)
  | some kind => return (items, some ⟨kind, ← expr { more := true }⟩)

/-- The head of a loop over the keys of a table, if there is one: its name and its table. -/
def tableLoop? : Reading (Option (String × String)) := do
  let before ← get
  match ← peek with
  | .name name => do
    drop
    if ← acceptWord "in" then
      match ← peek with
      | .name table => do
        drop
        if ← accept ")" then return some (name, table)
        set before
        return none
      | _ => do
        set before
        return none
    else
      set before
      return none
  | _ => return none

/-- A statement that is no loop, no choice and no block. -/
def simple (here : Surroundings) : Reading Statement := do
  match ← peek with
  | .keyword "print" => do
    drop
    let (items, output) ← outputOf
    return .print items output
  | .keyword "printf" => do
    drop
    let (items, output) ← outputOf
    if items.isEmpty then refuse "no arguments in call to printf"
    return .printf items output
  | .keyword "break" => do
    drop
    if !here.inLoop then refuse "break statement outside of loop"
    return .leaveLoop
  | .keyword "continue" => do
    drop
    if !here.inLoop then refuse "continue statement outside of loop"
    return .nextRound
  | .keyword "next" => do
    drop
    if !here.hasRecord then refuse "improper use of next"
    return .nextRecord
  | .keyword "nextfile" => do
    drop
    if !here.hasRecord then refuse "improper use of nextfile"
    return .nextFile
  | .keyword "exit" => do
    drop
    return .quit (← value?)
  | .keyword "return" => do
    drop
    if !here.inFunction then refuse "return outside function body"
    return .giveBack (← value?)
  | .keyword "delete" => do
    drop
    match ← peek with
    | .name table => do
      drop
      if ← accept "[" then
        let keys ← listOf (expr {}) partLimit []
        expect "]"
        return .delete table keys
      else return .delete table []
    | _ => unexpected
  | _ => return .expression (← expr {})
where
  /-- An expression, if there is one. -/
  value? : Reading (Option Expr) := do
    if (← peek).endsStatement then return none else some <$> expr {}

/-- A statement with its end. The fuel bounds the depth. -/
def statement : Nat → Surroundings → Reading Statement
  | 0, _ => refuse "syntax error"
  | fuel + 1, here => do
    let inLoop : Surroundings := { here with inLoop := true }
    let body : Reading Statement := do
      newlines
      if ← accept ";" then
        newlines
        return .nothing
      statement fuel inLoop
    match ← peek with
    | .sign "\x7b" => do
      drop
      let inner ← statementsOf (statement fuel here) partLimit []
      expect "\x7d"
      newlines
      return .block inner
    | .sign ";" => do
      drop
      newlines
      return .nothing
    | .keyword "if" => do
      drop
      expect "("
      let test ← expr {}
      expect ")"
      newlines
      let yes ← statement fuel here
      newlines
      if ← acceptWord "else" then
        newlines
        return .choose test yes (some (← statement fuel here))
      else return .choose test yes none
    | .keyword "while" => do
      drop
      expect "("
      let test ← expr {}
      expect ")"
      return .loop test (← body)
    | .keyword "do" => do
      drop
      newlines
      let inner ← statement fuel inLoop
      newlines
      if !(← acceptWord "while") then unexpected
      expect "("
      let test ← expr {}
      expect ")"
      statementEnd
      return .loopAfter inner test
    | .keyword "for" => do
      drop
      expect "("
      match ← tableLoop? with
      | some (name, table) => return .forEach name table (← body)
      | none =>
        let first ← if (← peek) matches .sign ";" then pure .nothing else simple here
        expect ";"
        newlines
        let test : Option Expr ← if (← peek) matches .sign ";" then pure none else some <$> expr {}
        expect ";"
        newlines
        let step ← if (← peek) matches .sign ")" then pure .nothing else simple here
        expect ")"
        return .block [first, .count test step (← body)]
    | _ => do
      let s ← simple here
      statementEnd
      return s
where
  /-- Statements up to a closing brace. The fuel bounds their number. -/
  statementsOf (one : Reading Statement) : Nat → List Statement → Reading (List Statement)
    | 0, done => return done.reverse
    | fuel + 1, done => do
      separators gapLimit
      match ← peek with
      | .sign "\x7d" => return done.reverse
      | _ => statementsOf one fuel ((← one) :: done)

/-- Statements in braces. -/
def block (here : Surroundings) : Reading (List Statement) := do
  match ← statement depthLimit here with
  | .block body => return body
  | other => return [other]

/-! ## Rules -/

/-- The parameters of a function. The fuel bounds their number. -/
def parameters : Nat → List String → Reading (List String)
  | 0, done => return done.reverse
  | fuel + 1, done => do
    match ← peek with
    | .name name => do
      drop
      if done.contains name then refuse (name ++ " is duplicated in argument list")
      if ← accept "," then
        newlines
        parameters fuel (name :: done)
      else return (name :: done).reverse
    | .sign ")" => if done.isEmpty then return [] else unexpected
    | _ => unexpected

/-- A function, behind the word that announces it. -/
def functionOf : Reading Unit := do
  let name ← match ← peek with
    | .name name => pure name
    | .called name => pure name
    | _ => unexpected
  drop
  if (← get).functions.any (·.1 == name) then refuse ("redefinition of " ++ name)
  expect "("
  let params ← parameters partLimit []
  expect ")"
  newlines
  -- The function may call itself.
  modify fun source => { source with functions := (name, ⟨params, []⟩) :: source.functions }
  if !((← peek) matches .sign "\x7b") then unexpected
  let body ← block { inFunction := true, hasRecord := false }
  modify fun source => { source with
    functions := (name, ⟨params, body⟩) :: source.functions.filter (·.1 != name) }

/-- A rule. -/
def rule : Reading Rule := do
  let withBody (condition : Condition) (here : Surroundings) : Reading Rule := do
    if !((← peek) matches .sign "\x7b") then unexpected
    return ⟨condition, ← block here⟩
  if ← acceptWord "BEGIN" then withBody .atStart { hasRecord := false }
  else if ← acceptWord "END" then withBody .atEnd { hasRecord := false }
  else if (← peek) matches .sign "\x7b" then withBody .always {}
  else
    let first ← expr {}
    let condition : Condition ← if ← accept "," then do
        newlines
        pure (.run first (← expr {}))
      else pure (.test first)
    if (← peek) matches .sign "\x7b" then return ⟨condition, ← block {}⟩
    else
      match ← peek with
      | .lineEnd | .finish | .sign ";" => return ⟨condition, [.print [] none]⟩
      | _ => unexpected

/-- Rules and functions up to the end of the script. The fuel bounds their number. -/
def rules : Nat → List Rule → Reading (List Rule)
  | 0, done => return done.reverse
  | fuel + 1, done => do
    separators gapLimit
    if (← peek) matches .finish then return done.reverse
    else if ← acceptWord "function" then
      functionOf
      rules fuel done
    else rules fuel ((← rule) :: done)

/-- A whole script. -/
def script : Reading Script := do
  let found ← rules partLimit []
  let source ← get
  for (name, line, count) in source.calls.reverse do
    match source.functions.lookup name with
    | none => refuse ("function " ++ name ++ " never defined")
    | some function =>
      if function.params.length < count then
        reject { line, text := "too many arguments in call to " ++ name }
  return ⟨found, source.functions⟩

/-- Reads a script. -/
def Script.ofText (text : String) : Except Misprint Script :=
  (script.run { rest := (text ++ "\n").toList }).map (·.1)

end BatchRunner.Machine.Tool.Rules
