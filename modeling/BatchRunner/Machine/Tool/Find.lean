import BatchRunner.Machine.Shell.Pattern
import BatchRunner.Machine.Tool.Feed
import BatchRunner.Machine.Tool.Folder
import BatchRunner.Text.Regex

/-!
# Finding files

`find` goes through directories and does what an expression says about each file: the expression is a condition whose
parts are tests and actions, of which those that are not needed to know whether it holds are left out.
-/

namespace BatchRunner.Machine.Tool.Find

/-- Something that was found. -/
structure Item where
  /-- The path under which it was found. -/
  path : String
  place : Files.Path
  entry : Files.Entry
  depth : Nat
  /-- The path from which it was found. -/
  start : String
  deriving Inhabited

/-- How a number compares with what is asked for. -/
inductive Bound where
  | exactly
  | more
  | less
  deriving DecidableEq, Repr, Inhabited

/-- Whether a number is within a bound. -/
def Bound.allows (bound : Bound) (wanted n : Nat) : Bool :=
  match bound with
  | exactly => n == wanted
  | more => wanted < n
  | less => n < wanted

/-- Which permissions are asked for. -/
inductive Permissions where
  | exactly (mode : Nat)
  | all (mode : Nat)
  | any (mode : Nat)
  deriving DecidableEq, Repr, Inhabited

/-- What an expression says about a file. -/
inductive Condition where
  | constant (value : Bool)
  | name (pattern : List Shell.Element) (anyCase : Bool)
  | path (pattern : List Shell.Element) (anyCase : Bool)
  | regex (r : Text.Regex)
  | kind (letters : List Char)
  | size (bound : Bound) (wanted unit : Nat)
  | empty
  | permissions (p : Permissions)
  | executable
  | links (bound : Bound) (wanted : Nat)
  | print (ending : String)
  | format (text : String)
  | delete
  /-- Runs a program for each file. -/
  | run (command : List String)
  /-- Runs a program for all files together, in the end. -/
  | runAll (number : Nat) (command : List String)
  /-- Does not go into a directory. -/
  | prune
  | quit
  | both (first second : Condition)
  | either (first second : Condition)
  | negation (c : Condition)
  | sequence (first second : Condition)
  deriving Inhabited

/-! ## Reading expressions -/

/-- What is read of an expression. -/
structure Source where
  rest : List String
  least : Nat := 0
  most : Option Nat := none
  /-- Whether directories come behind what they hold. -/
  isDeep : Bool := false
  /-- Whether something is done about the files that are found. -/
  acts : Bool := false
  /-- How many programs are run for all files together. -/
  batches : Nat := 0
  /-- How many parentheses are open. -/
  opened : Nat := 0
  deriving Inhabited

/-- Reads an expression; what is wrong with it is told in lines. -/
abbrev Reading := StateT Source (Except (List String))

/-- Refuses an expression. -/
def refuse {α : Type} (text : String) : Reading α := fun _ => .error [text]

/-- A word as a message shows it. -/
def marked (s : String) : String := "\x60" ++ s ++ "'"

/-- The word behind another one. -/
def argumentOf (word : String) : Reading String := do
  match (← get).rest with
  | [] => refuse ("missing argument to " ++ marked word)
  | a :: rest => do
    modify fun source => { source with rest }
    return a

/-- A pattern as the words of a shell have it. -/
def patternOf (s : String) : List Shell.Element := Shell.pattern (s.toList.map (·, false))

/-- A number with a sign that says how it is compared. -/
def boundOf (s : String) : Bound × String :=
  match s.toList with
  | '+' :: rest => (.more, String.ofList rest)
  | '-' :: rest => (.less, String.ofList rest)
  | _ => (.exactly, s)

/-- The units in which sizes are counted. -/
def unitOf : List Char → Option Nat
  | [] => some 512
  | ['b'] => some 512
  | ['c'] => some 1
  | ['w'] => some 2
  | ['k'] => some 1024
  | ['M'] => some 1048576
  | ['G'] => some 1073741824
  | _ => none

/-- A test of the size. -/
def sizeTest (s : String) : Reading Condition := do
  let (bound, text) := boundOf s
  let (digits, rest) := Text.someDigits Text.digitValue? text.toList
  match unitOf rest, digits with
  | some _, [] => refuse ("Invalid argument " ++ marked s ++ " to -size")
  | some unit, digits => return .size bound (Text.numeral 10 digits) unit
  | none, [] => refuse ("invalid -size type " ++ marked (String.ofList rest))
  | none, _ => refuse ("invalid -size type " ++ marked (String.ofList rest))

/-- A test of the permissions. -/
def permissionTest (s : String) : Reading Condition := do
  let (wrap, text) : (Nat → Permissions) × String := match s.toList with
    | '-' :: rest => (.all, String.ofList rest)
    | '/' :: rest => (.any, String.ofList rest)
    | _ => (.exactly, s)
  match modeFrom text false 0 0 with
  | some mode => return .permissions (wrap mode)
  | none => refuse ("invalid mode " ++ quote s)

/-- A depth. -/
def depthOf (word : String) : Reading Nat := do
  let a ← argumentOf word
  match decimal? a with
  | some n => return n
  | none => refuse ("Expected a positive decimal integer argument to " ++ word ++ ", but got " ++ quote a)

/-- A test of a number that every file has. -/
def countTest (word : String) (test : Bound → Nat → Condition) : Reading Condition := do
  let a ← argumentOf word
  let (bound, text) := boundOf a
  match decimal? text with
  | some n => return test bound n
  | none => refuse ("invalid argument " ++ marked a ++ " to " ++ marked word)

/-- A test of the age in days or minutes; all files are new. -/
def ageTest (word : String) : Reading Condition := countTest word fun bound n => .constant (bound.allows n 0)

/-- The command behind an action that runs one. -/
def commandOf (word : String) : Reading Condition := do
  let words := (← get).rest
  let missing : Reading Condition := refuse ("missing argument to " ++ marked word)
  let rec go : List String → List String → Reading Condition
    | [], _ => missing
    | ";" :: rest, done => do
      if done.isEmpty then missing
      else
        modify fun source => { source with rest, acts := true }
        return .run done.reverse
    | "\x7b\x7d" :: "+" :: rest, done => do
      if done.isEmpty then missing
      else
        let number := (← get).batches
        modify fun source => { source with rest, acts := true, batches := number + 1 }
        return .runAll number done.reverse
    | w :: rest, done => go rest (w :: done)
  go words []

/-- A primary that begins with a word. -/
def primary (word : String) : Reading Condition := do
  let act (c : Condition) : Reading Condition := do
    modify fun source => { source with acts := true }
    return c
  match word with
  | "-name" => return .name (patternOf (← argumentOf word)) false
  | "-iname" => return .name (patternOf (← argumentOf word).toLower) true
  | "-path" | "-wholename" => return .path (patternOf (← argumentOf word)) false
  | "-ipath" | "-iwholename" => return .path (patternOf (← argumentOf word).toLower) true
  | "-regex" => do
    match Text.Regex.ofText ⟨.basic, false⟩ (← argumentOf word) with
    | .ok r => return .regex r
    | .error fault => refuse fault.message
  | "-type" => do
    let letters := ((← argumentOf word).splitOn ",").flatMap String.toList
    match letters.find? fun c => !"bcdpflsD".toList.contains c with
    | some c => refuse ("Unknown argument to -type: " ++ c.toString)
    | none => return .kind letters
  | "-size" => sizeTest (← argumentOf word)
  | "-empty" => return .empty
  | "-perm" => permissionTest (← argumentOf word)
  | "-executable" => return .executable
  | "-readable" | "-writable" | "-true" => return .constant true
  | "-false" | "-nouser" | "-nogroup" => return .constant false
  | "-links" => countTest word .links
  | "-mtime" | "-atime" | "-ctime" | "-mmin" | "-amin" | "-cmin" => ageTest word
  | "-newer" | "-anewer" | "-cnewer" => do
    let _ ← argumentOf word
    return .constant false
  | "-user" | "-group" => do
    let a ← argumentOf word
    if a == "root" || a == "0" then return .constant true
    else refuse (quote a ++ " is not the name of a known user")
  | "-uid" | "-gid" => countTest word fun bound n => .constant (bound.allows n 0)
  | "-maxdepth" => do
    let n ← depthOf word
    modify fun source => { source with most := some n }
    return .constant true
  | "-mindepth" => do
    let n ← depthOf word
    modify fun source => { source with least := n }
    return .constant true
  | "-depth" | "-d" => do
    modify fun source => { source with isDeep := true }
    return .constant true
  | "-noleaf" | "-xdev" | "-mount" | "-daystart" | "-warn" | "-nowarn" | "-follow" => return .constant true
  | "-print" => act (.print "\n")
  | "-print0" => act (.print "\x00")
  | "-printf" => do act (.format (← argumentOf word))
  | "-delete" => do
    modify fun source => { source with isDeep := true }
    act .delete
  | "-exec" | "-execdir" => commandOf word
  | "-prune" => return .prune
  | "-quit" => act .quit
  | word =>
    if word.startsWith "-" then refuse ("unknown predicate " ++ marked word)
    else refuse ("paths must precede expression: " ++ marked word)

/-- How tightly the parts of an expression are bound. -/
inductive Level where
  | sequence
  | either
  | both
  | negation
  deriving DecidableEq, Repr, Inhabited

/-- The operators of a level. -/
def Level.operators : Level → List String
  | sequence => [","]
  | either => ["-o", "-or"]
  | both => ["-a", "-and"]
  | negation => []

/-- All words that combine conditions. -/
def binaryWords : List String := [",", "-o", "-or", "-a", "-and"]

/-- An expression of a level. The fuel bounds the number of words. -/
def expression : Nat → Level → Reading Condition
  | 0, _ => refuse "invalid expression"
  | fuel + 1, level => do
    let chain (inner : Level) (combine : Condition → Condition → Condition) : Reading Condition := do
      let first ← expression fuel inner
      more fuel level inner combine first
    match level with
    | .sequence => chain .either .sequence
    | .either => chain .both .either
    | .both => chain .negation .both
    | .negation => do
      match (← get).rest with
      | [] => refuse "invalid expression"
      | word :: rest => do
        modify fun source => { source with rest }
        if word == "!" || word == "-not" then
          if rest.isEmpty then refuse ("expected an expression after '" ++ word ++ "'")
          return .negation (← expression fuel .negation)
        else if word == "(" then
          if rest.head? == some ")" then refuse "invalid expression; empty parentheses are not allowed."
          modify fun source => { source with opened := source.opened + 1 }
          let inner ← expression fuel .sequence
          match (← get).rest with
          | ")" :: rest => do
            modify fun source => { source with rest, opened := source.opened - 1 }
            return inner
          | _ => refuse "invalid expression; I was expecting to find a ')' somewhere but did not see one."
        else if binaryWords.contains word then
          refuse ("invalid expression; you have used a binary operator '" ++ word ++ "' with nothing before it.")
        else if word == ")" then refuse "you have too many ')'"
        else primary word
where
  /-- What follows an expression on its level. -/
  more : Nat → Level → Level → (Condition → Condition → Condition) → Condition → Reading Condition
    | 0, _, _, _, first => return first
    | fuel + 1, level, inner, combine, first => do
      match (← get).rest with
      | [] => return first
      | word :: rest =>
        if level.operators.contains word then
          if rest.isEmpty then refuse ("expected an expression after '" ++ word ++ "'")
          modify fun source => { source with rest }
          more fuel level inner combine (combine first (← expression fuel inner))
        else if level == .both && !binaryWords.contains word && !(word == ")") then
          more fuel level inner combine (combine first (← expression fuel inner))
        else return first

/-- Reads a whole expression: what it says about each file, and what else is known from it. -/
def read (words : List String) : Except (List String) (Condition × Source) := do
  let start : Source := { rest := words }
  if words.isEmpty then return (.print "\n", start)
  let (condition, source) ← (expression (8 * words.length + 8) .sequence).run start
  match source.rest with
  | ")" :: _ => throw ["you have too many ')'"]
  | _ :: _ => throw ["invalid expression"]
  | [] => return (if source.acts then condition else .both condition (.print "\n"), source)

/-! ## Going through directories -/

/-- What is known while files are found. -/
structure Progress where
  out : Gathered := {}
  status : Nat := 0
  /-- Whether the directory that was just looked at is left out. -/
  isPruned : Bool := false
  isOver : Bool := false
  /-- The paths for the programs that are run in the end, by their numbers; the last path comes first. -/
  batches : List (Nat × List String) := []
  deriving Inhabited

/-- What a conversion of a format shows. -/
def shownBy (item : Item) : Char → Option String
  | 'p' => some item.path
  | 'f' => some (lastName item.path)
  | 'h' => some (if item.path.toList.contains '/' then parentName item.path else ".")
  | 'P' => some (String.ofList ((item.path.toList.drop item.start.length).dropWhile (· == '/')))
  | 'H' => some item.start
  | 's' => some (toString (sizeOf item.entry))
  | 'd' => some (toString item.depth)
  | 'm' => some (String.ofList (Nat.toDigits 8 (modeOf item.entry)))
  | 'M' => some ((kindLetter item.entry).toString ++ modeLetters (modeOf item.entry))
  | 'y' => some (if kindLetter item.entry == '-' then "f" else (kindLetter item.entry).toString)
  | 'u' | 'g' => some "root"
  | 'U' | 'G' => some "0"
  | 'n' => some "1"
  | 'l' => some (match item.entry with
    | .link target => Text.octets target
    | _ => "")
  | '%' => some "%"
  | _ => none

/-- A format for a file: what it shows, and the conversions that it should not have. The fuel bounds the number of
characters. -/
def formatted (item : Item) : Nat → List Char → List Char × List Char
  | 0, _ => ([], [])
  | _, [] => ([], [])
  | fuel + 1, '%' :: c :: rest =>
    let (more, bad) := formatted item fuel rest
    match shownBy item c with
    | some s => (s.toList ++ more, bad)
    | none => ('%' :: c :: more, c :: bad)
  | fuel + 1, '\\' :: c :: rest =>
    let (shown, rest) := match c with
      | '0' => Shell.Format.escape true ('0' :: rest)
      | c => Shell.Format.escape true (c :: rest)
    let (more, bad) := formatted item fuel rest
    (shown ++ more, bad)
  | fuel + 1, c :: rest =>
    let (more, bad) := formatted item fuel rest
    (c :: more, bad)

/-- Whether a file passes a test; what is no test passes. -/
def passes (tree : Files.Tree) (item : Item) : Condition → Bool
  | .constant value => value
  | .name pattern anyCase =>
    let name := lastName item.path
    Shell.patternMatches pattern (if anyCase then name.toLower else name).toList
  | .path pattern anyCase => Shell.patternMatches pattern (if anyCase then item.path.toLower else item.path).toList
  | .regex r => (r.matchAt { chars := item.path.toList.toArray } (fun _ last => last == item.path.length) 0).isSome
  | .kind letters => letters.contains (if kindLetter item.entry == '-' then 'f' else kindLetter item.entry)
  | .size bound wanted unit => bound.allows wanted ((sizeOf item.entry + unit - 1) / unit)
  | .empty => match item.entry with
    | .directory => (tree.children item.place).isEmpty
    | .file _ content => content.isEmpty
    | _ => false
  | .permissions (.exactly mode) => modeOf item.entry == mode
  | .permissions (.all mode) => modeOf item.entry &&& mode == mode
  | .permissions (.any mode) => mode == 0 || modeOf item.entry &&& mode != 0
  | .executable => item.entry.isDirectory || item.entry.isExecutable
  | .links bound wanted => bound.allows wanted (if item.entry.isDirectory then 2 else 1)
  | _ => true

/-- Writes what was gathered. -/
def Progress.flush (call : Call) (p : Progress) (next : Progress → Plan) : Plan :=
  call.flush p.out (next { p with out := {} })

/-- Goes on with whether a condition holds for a file, behind what it does about the file. -/
def check (call : Call) (item : Item) : Condition → Progress → (Bool → Progress → Plan) → Plan
  | .both first second, p, next => check call item first p fun holds p =>
    if holds && !p.isOver then check call item second p next else next false p
  | .either first second, p, next => check call item first p fun holds p =>
    if holds || p.isOver then next holds p else check call item second p next
  | .negation c, p, next => check call item c p fun holds p => next (!holds) p
  | .sequence first second, p, next => check call item first p fun holds p =>
    if p.isOver then next holds p else check call item second p next
  | .print ending, p, next => call.pour (p.out.add (item.path ++ ending)) fun out => next true { p with out }
  | .format text, p, next =>
    let (shown, bad) := formatted item (text.length + 1) text.toList
    let plan := call.pour (p.out.add (String.ofList shown)) fun out => next true { p with out }
    bad.foldr (fun c plan =>
      call.warn ("warning: unrecognized format directive " ++ marked ("%" ++ c.toString)) plan) plan
  | .delete, p, next =>
    if item.path == "." || item.path == ".." then next true p
    else .withFiles fun space _ =>
      let done : Except Os.Errno Files.Tree := match item.entry with
        | .directory => removeDirectory space.tree space.cwd item.path
        | _ => .ok (space.tree.erase item.place)
      match done with
      | .ok tree => (tree, next true p)
      | .error errno =>
        (space.tree, call.warn ("cannot delete " ++ quote item.path ++ ": " ++ errno.sentence)
          (next false { p with status := 1 }))
  | .run command, p, next => p.flush call fun p =>
    match command.map fun w => w.replace "\x7b\x7d" item.path with
    | [] => next false p
    | name :: args => .run name args call.setting.vars [] fun
      | .error errno => call.warn (quote name ++ ": " ++ errno.sentence) (next false p)
      | .ok (status, _) => next (status.isExit && status.code == 0) p
  | .runAll number _, p, next =>
    let before := (p.batches.lookup number).getD []
    next true { p with batches := (number, item.path :: before) :: p.batches.filter (·.1 != number) }
  | .prune, p, next => next true { p with isPruned := true }
  | .quit, p, next => next true { p with isOver := true }
  | c, p, next => .withFiles fun space _ => (space.tree, next (passes space.tree item c) p)

/-- What is to be looked at. -/
inductive Stop where
  /-- A file, and what is below it. -/
  | enter (path : String) (place : Files.Path) (depth : Nat) (start : String)
  /-- A directory again, behind what it holds. -/
  | leave (item : Item)
  deriving Inhabited

/-- The files in a directory, as they are looked at. -/
def Item.inside (item : Item) (tree : Files.Tree) : List Stop :=
  ((tree.children item.place).map (·.1)).mergeSort (fun a b => a ≤ b) |>.map fun name =>
    .enter (Files.join item.path (Text.octets name)) (item.place ++ [name]) (item.depth + 1) item.start

/-- Looks at one file after the other. The fuel bounds their number. -/
def visit (call : Call) (condition : Condition) (source : Source) (finish : Progress → Plan) :
    Nat → List Stop → Progress → Plan
  | 0, _, p => finish p
  | _, [], p => finish p
  | fuel + 1, stop :: rest, p =>
    if p.isOver then finish p
    else
      let look (item : Item) (p : Progress) (next : Progress → Plan) : Plan :=
        if item.depth < source.least then next { p with isPruned := false }
        else check call item condition { p with isPruned := false } fun _ p => next p
      let mayEnter (item : Item) : Bool := item.entry.isDirectory && source.most.all (item.depth < ·)
      match stop with
      | .leave item => look item p fun p => visit call condition source finish fuel rest p
      | .enter path place depth start => .withFiles fun space _ =>
        (space.tree, match space.tree.at? place with
          | none => visit call condition source finish fuel rest p
          | some entry =>
            let item : Item := { path, place, entry, depth, start }
            if source.isDeep then
              let inner := if mayEnter item then item.inside space.tree else []
              visit call condition source finish fuel (inner ++ .leave item :: rest) p
            else look item p fun p =>
              .withFiles fun space _ =>
                let inner := if mayEnter item && !p.isPruned then item.inside space.tree else []
                (space.tree, visit call condition source finish fuel (inner ++ rest) p))

/-- The commands that are run for all files together, by their numbers. -/
def Condition.batches : Condition → List (Nat × List String)
  | .runAll number command => [(number, command)]
  | .both first second => first.batches ++ second.batches
  | .either first second => first.batches ++ second.batches
  | .negation c => c.batches
  | .sequence first second => first.batches ++ second.batches
  | _ => []

/-- Runs the programs for all files together, and ends. -/
def runBatches (call : Call) : List (Nat × List String) → Progress → Plan
  | [], p => .done p.status
  | (number, command) :: rest, p =>
    match command, (p.batches.lookup number).getD [] with
    | name :: args, path :: paths => .run name (args ++ (path :: paths).reverse) call.setting.vars [] fun
      | .error errno => call.warn (quote name ++ ": " ++ errno.sentence) (runBatches call rest { p with status := 1 })
      | .ok (status, _) =>
        runBatches call rest (if status.isExit && status.code == 0 then p else { p with status := 1 })
    | _, _ => runBatches call rest p

/-- How many files are looked at at most. -/
def visitLimit : Nat := 10000000

/-- Goes through the files below one place after the other. -/
def search (call : Call) (condition : Condition) (source : Source) : List String → Progress → Plan
  | [], p => p.flush call fun p => runBatches call condition.batches p
  | path :: paths, p =>
    if p.isOver then p.flush call fun p => runBatches call condition.batches p
    else .withFiles fun space _ => (space.tree, match placeAt space.tree space.cwd path with
      | .ok (place, some _) =>
        visit call condition source (search call condition source paths) visitLimit [.enter path place 0 path] p
      | found =>
        let errno := match found with
          | .error errno => errno
          | .ok _ => Os.Errno.noEntry
        p.flush call fun p =>
          call.warn (quote path ++ ": " ++ errno.sentence) (search call condition source paths { p with status := 1 }))

/-- The patterns that a shell would have taken from a word behind them. -/
def hint (words : List String) (text : String) : List String :=
  let stray := words.zip (words.drop 2) |>.find? fun (a, b) =>
    ["-name", "-iname", "-path"].contains a && text == "paths must precede expression: " ++ marked b
  match stray with
  | some (a, _) => [text, "possible unquoted pattern after predicate " ++ marked a ++ "?"]
  | none => [text]

/-- `find` goes through directories. -/
def find (call : Call) : Plan :=
  let args := call.args.dropWhile fun a => a == "-L" || a == "-H" || a == "-P"
  let isWord (a : String) : Bool := (a.startsWith "-" && 1 < a.length) || a == "(" || a == "!"
  let places := args.takeWhile fun a => !isWord a
  let words := args.drop places.length
  match read words with
  | .error texts => (texts.flatMap (hint words)).foldr (fun text plan => call.warn text plan) (.done 1)
  | .ok (condition, source) => search call condition source (if places.isEmpty then ["."] else places) {}

end BatchRunner.Machine.Tool.Find
