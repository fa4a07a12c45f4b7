import BatchRunner.Machine.Tool.Rules.State

/-!
# Running a script

What the expressions of a script come to, what its statements do, and how its rules are applied to one record after
another.
-/

namespace BatchRunner.Machine.Tool.Rules

/-! ## Streams -/

/-- The stream that was opened under a name. -/
def streamOf? (name : String) : Exec (Option Stream) := do return (← get).streams.lookup name

/-- Keeps a stream under a name. -/
def keepStream (name : String) (stream : Stream) : Exec Unit := modify fun st =>
  { st with streams := st.streams.filter (·.1 != name) ++ [(name, stream)] }

/-- Writes to a descriptor. -/
def writeOut (fd : Fd) (text : String) : Exec Unit := do
  if text.isEmpty then return
  match ← ask (.write fd text) with
  | .refused errno => throw (.refusal ("write failure (" ++ errno.sentence ++ ")"))
  | _ => return

/-- Writes what was gathered for standard output. -/
def flushOut : Exec Unit := do
  let text := (← get).out.text
  modify fun st => { st with out := {} }
  writeOut 1 text

/-- Writes what was gathered for a stream. -/
def flushStream (name : String) (stream : Stream) : Exec Unit := do
  match stream with
  | .sink text => do
    if 0 < text.size then
      let _ ← ask (.append name text.text)
    keepStream name (.sink {})
  | .consumer pid fd text => do
    if 0 < text.size then
      let _ ← ask (.write fd text.text)
    keepStream name (.consumer pid fd {})
  | _ => return

/-- Writes everything that was gathered. -/
def flushAll : Exec Unit := do
  flushOut
  for (name, stream) in (← get).streams do
    flushStream name stream

/-- Closes a stream: the status of its end, or nothing if there is none. -/
def closeStream (name : String) : Exec (Option Nat) := do
  match ← streamOf? name with
  | none => return none
  | some stream => do
    flushStream name stream
    modify fun st => { st with streams := st.streams.filter (·.1 != name) }
    let answer ← match stream with
      | .source input => ask (.close input.fd)
      | .producer pid input => ask (.finish pid input.fd)
      | .consumer pid fd _ => ask (.finish pid fd)
      | .sink _ => pure (.number 0)
    match answer with
    | .number n => return some n
    | _ => return some 0

/-- Closes all streams, and writes what is left for standard output. -/
def closeAll : Exec Unit := do
  for (name, _) in (← get).streams do
    let _ ← closeStream name
  flushOut

/-- Writes a text to where output goes. -/
def putTo (kind : OutputKind) (name text : String) : Exec Unit := do
  let toOut : Exec Unit := modify fun st => { st with out := st.out.add text }
  let isFile := kind != .command
  if isFile && (name == "/dev/stdout" || name == "-") then toOut
  else if isFile && name == "/dev/stderr" then writeOut 2 text
  else match ← streamOf? name with
    | some (.sink gathered) => keepStream name (.sink (gathered.add text))
    | some (.consumer pid fd gathered) => keepStream name (.consumer pid fd (gathered.add text))
    | _ =>
      if isFile then
        match ← ask (.makeFile name (kind == .fileEnd)) with
        | .refused errno => throw (.refusal ("cannot open \"" ++ name ++ "\" for output (" ++ errno.sentence ++ ")"))
        | _ => keepStream name (.sink (({} : Gathered).add text))
      else
        flushAll
        match ← ask (.start name true) with
        | .started pid fd => keepStream name (.consumer pid fd (({} : Gathered).add text))
        | _ => throw (.refusal ("cannot open \"" ++ name ++ "\" for output"))

/-- The next record of a stream that is read from; nothing comes of a stream that cannot be opened. -/
def recordFrom (isCommand : Bool) (name : String) : Exec (Option (Option String)) := do
  let stream : Option Stream ← match ← streamOf? name with
    | some stream => pure (some stream)
    | none =>
      if isCommand then do
        flushAll
        match ← ask (.start name false) with
        | .started pid fd => pure (some (.producer pid { fd }))
        | _ => pure none
      else match ← openInput name with
        | .ok input => pure (some (.source input))
        | .error _ => pure none
  match stream with
  | some (.source input) => do
    let (record, input) ← input.next
    keepStream name (.source input)
    return some record
  | some (.producer pid input) => do
    let (record, input) ← input.next
    keepStream name (.producer pid input)
    return some record
  | _ => return none

/-! ## Functions on texts -/

/-- A part of a text: from a place, the first being one, and of a length, if one is given. Both are rounded to whole
numbers, and so is the place behind the part. -/
def partOf (s : String) (start : Float) (length : Option Float) : String :=
  let first := max (roundedOf start) 1
  let last : Int := match length with
    | some n => if n.isNaN then 0 else min (roundedOf (start + n)) (s.length + 1)
    | none => s.length + 1
  if last ≤ first then "" else String.ofList ((s.toList.drop (first - 1).toNat).take (last - first).toNat)
where
  /-- The nearest whole number; of two, the even one. -/
  roundedOf (x : Float) : Int :=
    let low := Float.floor x
    let rest := x - low
    let n := wholeOf low
    if rest < 0.5 then n else if 0.5 < rest then n + 1 else n + n % 2

/-- The place of a text in another one, the first being one; zero if it is not there. The fuel bounds the length. -/
def placeOf (needle : List Char) : Nat → Nat → List Char → Nat
  | 0, _, _ => 0
  | fuel + 1, place, cs =>
    if needle.isPrefixOf cs then place
    else match cs with
      | [] => 0
      | _ :: rest => placeOf needle fuel (place + 1) rest

/-- What replaces a match: an ampersand stands for the match, unless a backslash is in front of it. -/
def replacement (found : List Char) : List Char → List Char
  | '\\' :: '\\' :: '&' :: rest => '\\' :: (found ++ replacement found rest)
  | '\\' :: '&' :: rest => '&' :: replacement found rest
  | '&' :: rest => found ++ replacement found rest
  | c :: rest => c :: replacement found rest
  | [] => []

/-- Replaces matches in a text: how many there were, and the text in pieces, the last one first. The fuel bounds the
number of matches. -/
def replaceIn (regex : Text.Regex) (s : Text.Regex.Subject) (new : List Char) (all : Bool) :
    Nat → Nat → Option Nat → Nat → List (List Char) → Nat × List (List Char)
  | 0, _, _, count, done => (count, done)
  | fuel + 1, start, lastEnd, count, done =>
    let piece (first last : Nat) : List Char := (s.chars.toSubarray first last).toArray.toList
    let size := s.chars.size
    match if count = 0 || all then regex.find s start else none with
    | none => (count, piece start size :: done)
    | some m =>
      let front := piece start m.first
      if m.first == m.last && lastEnd == some m.first then
        -- Nothing is replaced right behind a match.
        if m.first < size then
          replaceIn regex s new all fuel (m.first + 1) none count (piece start (m.first + 1) :: done)
        else (count, front :: done)
      else
        let put := replacement (piece m.first m.last) new
        if m.first == m.last then
          if m.first < size then
            replaceIn regex s new all fuel (m.first + 1) none (count + 1) (piece m.first (m.first + 1) :: put :: front :: done)
          else (count + 1, put :: front :: done)
        else if m.last < size || all then
          replaceIn regex s new all fuel m.last (some m.last) (count + 1) (put :: front :: done)
        else (count + 1, put :: front :: done)

/-! ## Expressions -/

/-- A place for a value, with what was needed to find it. -/
inductive Spot where
  | name (name : String)
  | field (n : Int)
  | element (table : Nat) (key : Key)
  deriving Inhabited

/-- The value at a place. An element that is asked for is there from then on. -/
def Spot.value : Spot → Exec Value
  | name s => nameValue s
  | field n => fieldAt n
  | element table key => changeTable table fun t =>
    match t.has key with
    | (true, t) => ((t.get? key).getD .unset, t)
    | (false, t) => (.unset, t.put key .unset)

/-- Puts a value at a place. -/
def Spot.set (v : Value) : Spot → Exec Unit
  | name s => setName s v
  | field n => setField n v
  | element table key => changeTable table fun t => ((), t.put key v)

/-- The key that values make together. -/
def keyFrom (values : List Value) : Exec Key := do
  match values with
  | [v] => keyOf v
  | values => do
    let texts ← values.mapM textOf
    return .text ((← globalText "SUBSEP").intercalate texts)

/-- How a statement ends. -/
inductive Flow where
  | on
  | leave
  | again
  | giveBack (v : Value)
  deriving Inhabited

/-- The functions of numbers. -/
def numeric (function : Builtin) (x : Float) : Option Float :=
  match function with
  | .sin => some (Float.sin x)
  | .cos => some (Float.cos x)
  | .exp => some (Float.exp x)
  | .log => some (Float.log x)
  | .sqrt => some (Float.sqrt x)
  | .int => some (if x < 0 then Float.ceil x else Float.floor x)
  | _ => none

/-- How many calls of functions may be inside one another. -/
def callLimit : Nat := 500

/-- The values of an expression are found, and statements are carried out, with what is inside them. -/
structure Inside where
  value : Expr → Exec Value
  perform : Statement → Exec Flow

variable (script : Script) (inside : Inside)

/-- Finds the place that an expression names. -/
def spotOf : Expr → Exec Spot
  | .name s => return .name s
  | .field index => do return .field (wholeOf (← inside.value index).toNumber)
  | .element table keys => do
    let key ← keyFrom (← keys.mapM inside.value)
    return .element (← tableOf table) key
  | _ => return .name ""

/-- The regular expression that an expression stands for. -/
def regexFrom : Expr → Exec Text.Regex
  | .pattern regex => return regex
  | e => do
    match regexOf (← textOf (← inside.value e)) with
    | .ok regex => return regex
    | .error text => throw (.fault text)

/-- Whether a regular expression matches in a text. -/
def matchesIn (regex : Text.Regex) (s : String) : Bool := (regex.find { chars := s.toList.toArray } 0).isSome

/-- Reads a line: one if there was one, zero if there is no more, and less than that if there is nothing to read from. -/
def readLine (source : LineSource) (origin place : Option Expr) : Exec Value := do
  let name ← match origin with
    | some e => textOf (← inside.value e)
    | none => pure ""
  let spot ← match place with
    | some e => some <$> spotOf inside e
    | none => pure none
  let record : Option (Option String) ← match source with
    | .records => some <$> nextRecord argumentLimit
    | .file => recordFrom false name
    | .command => recordFrom true name
  match record with
  | none => return .number (-1)
  | some none => return .number 0
  | some (some s) => do
    match spot with
    | some spot => spot.set (.found s)
    | none => setRecord s
    return .number 1

/-- Replaces matches in a text that a place holds, or in the record. -/
def substitute (all : Bool) (args : List Expr) : Exec Value := do
  match args with
  | pattern :: new :: rest => do
    let regex ← regexFrom inside pattern
    let new ← textOf (← inside.value new)
    let target := rest.headD (.field (.number 0))
    let spot ← if target.isPlace then some <$> spotOf inside target else pure none
    let s ← match spot with
      | some spot => textOf (← spot.value)
      | none => textOf (← inside.value target)
    let (count, pieces) := replaceIn regex { chars := s.toList.toArray } new.toList all (s.length + 2) 0 none 0 []
    if 0 < count then
      let text := String.ofList pieces.reverse.flatten
      match spot with
      | some spot => spot.set (.text text)
      | none => pure ()
    return .number count.toFloat
  | _ => return .unset

/-- Takes a text apart into the elements of a table. -/
def splitInto (args : List Expr) : Exec Value := do
  match args with
  | subject :: .name table :: rest => do
    let s ← textOf (← inside.value subject)
    let separator : String ⊕ Text.Regex ← match rest with
      | [] => fieldSeparator
      | .pattern regex :: _ => pure (.inr regex)
      | e :: _ => do pure (.inl (← textOf (← inside.value e)))
    match piecesOf separator s with
    | .error text => throw (.fault text)
    | .ok pieces => do
      let number ← tableOf table
      let filled := pieces.zipIdx.foldl (fun (t : Table Value) (piece, i) => t.put (.whole (i + 1 : Nat)) (.found piece)) {}
      changeTable number fun _ => ((), filled)
      return .number pieces.length.toFloat
  | _ => return .unset

/-- What a function that every script has comes to. -/
def builtin (function : Builtin) (args : List Expr) : Exec Value := do
  match function with
  | .length => do
    match args with
    | [.name s] | [.group [.name s]] => do
      match ← binding s with
      | some (.table n) => return .number (← changeTable n fun t => (t.size, t)).toFloat
      | _ => return .number (← textOf (← nameValue s)).length.toFloat
    | e :: _ => return .number (← textOf (← inside.value e)).length.toFloat
    | [] => return .number (← get).record.length.toFloat
  | .substr => do
    match ← args.mapM inside.value with
    | [s, start] => return .text (partOf (← textOf s) start.toNumber none)
    | s :: start :: length :: _ => return .text (partOf (← textOf s) start.toNumber (some length.toNumber))
    | _ => return .unset
  | .index => do
    match ← args.mapM inside.value with
    | s :: needle :: _ => do
      let s ← textOf s
      return .number (placeOf (← textOf needle).toList (s.length + 1) 1 s.toList).toFloat
    | _ => return .unset
  | .split => splitInto inside args
  | .sub => substitute inside false args
  | .gsub => substitute inside true args
  | .find => do
    match args with
    | subject :: pattern :: _ => do
      let s ← textOf (← inside.value subject)
      let regex ← regexFrom inside pattern
      let (start, length) : Float × Float := match regex.find { chars := s.toList.toArray } 0 with
        | some m => ((m.first + 1).toFloat, (m.last - m.first).toFloat)
        | none => (0, -1)
      setGlobal "RSTART" (.number start)
      setGlobal "RLENGTH" (.number length)
      return .number start
    | _ => return .unset
  | .sprintf => do
    match ← args.mapM inside.value with
    | format :: values => do
      let format ← textOf format
      let done := formatted (← conversion) (format.length + 1) format.toList values []
      if done.isShort then throw (.fault ("not enough arguments passed to sprintf(\"" ++ format ++ "\")"))
      return .text done.text
    | _ => return .unset
  | .atan2 => do
    match ← args.mapM inside.value with
    | y :: x :: _ => return .number (Float.atan2 y.toNumber x.toNumber)
    | _ => return .unset
  | .rand => do
    modify fun st => { st with seed := st.seed * 6364136223846793005 + 1442695040888963407 }
    let x := ((← get).seed >>> 11).toFloat
    return .number (x / 9007199254740992.0)
  | .srand => do
    let before := (← get).seed
    let values ← args.mapM inside.value
    modify fun st => { st with seed := UInt64.ofNat ((values.headD (.number 0)).toNumber.toUInt64.toNat) }
    return .number before.toFloat
  | .tolower => do
    let s ← textOf (← inside.value (args.headD (.text "")))
    return .text (s.map Char.toLower)
  | .toupper => do
    let s ← textOf (← inside.value (args.headD (.text "")))
    return .text (s.map Char.toUpper)
  | .system => do
    let command ← textOf (← inside.value (args.headD (.text "")))
    flushAll
    match ← ask (.run command) with
    | .number n => return .number n.toFloat
    | _ => return .number (-1)
  | .close => do
    let name ← textOf (← inside.value (args.headD (.text "")))
    match ← closeStream name with
    | some n => return .number n.toFloat
    | none => return .number (-1)
  | .fflush => do
    match args with
    | [] => do
      flushOut
      return .number 0
    | e :: _ => do
      let name ← textOf (← inside.value e)
      match ← streamOf? name with
      | some stream => do
        flushStream name stream
        return .number 0
      | none => return .number (-1)
  | function => do
    let x := (← inside.value (args.headD (.text ""))).toNumber
    return .number ((numeric function x).getD x)

/-- What a parameter stands for when it is given an expression. -/
def argument (e : Expr) : Exec Binding := do
  match e with
  | .name s | .group [.name s] => do
    match ← binding s with
    | some (.table n) => return .table n
    | some (.either n) => return .either n
    | some (.value .unset) | none => do
      let n ← newTable
      bindName s (.either n)
      return .either n
    | some (.value v) => do
      if s == "NF" then return .value (← nameValue s) else return .value v
  | e => return .value (← inside.value e)

/-- Calls a function that the script defines. -/
def callFunction (name : String) (args : List Expr) : Exec Value := do
  match script.functions.lookup name with
  | none => throw (.refusal ("function " ++ name ++ " never defined"))
  | some function => do
    let bindings ← args.mapM (argument inside)
    let st ← get
    if callLimit ≤ st.depth then throw (.refusal "program limit exceeded: eval stack size=1024")
    let missing := List.replicate (function.params.length - bindings.length) (Binding.value .unset)
    set { st with locals := function.params.zip (bindings ++ missing), depth := st.depth + 1 }
    let flow ← inside.perform (.block function.body)
    modify fun after => { after with locals := st.locals, depth := st.depth }
    match flow with
    | .giveBack v => return v
    | _ => return .unset

/-- What an expression comes to, given what those inside it come to. -/
def valueOf (e : Expr) : Exec Value := do
  let number (e : Expr) : Exec Float := do return (← inside.value e).toNumber
  match e with
  | .number x => return .number x
  | .text s => return .text s
  | .pattern regex => return .ofBool (matchesIn regex (← get).record)
  | .name s => nameValue s
  | .field _ | .element _ _ => do (← spotOf inside e).value
  | .assign place new => do
    let spot ← spotOf inside place
    let v ← inside.value new
    spot.set v
    return v
  | .update operation place new => do
    let spot ← spotOf inside place
    let y ← number new
    let v := Value.number (operation.apply (← spot.value).toNumber y)
    spot.set v
    return v
  | .bump up before place => do
    let spot ← spotOf inside place
    let x := (← spot.value).toNumber
    let y := if up then x + 1 else x - 1
    spot.set (.number y)
    return .number (if before then y else x)
  | .choice test yes no => do if (← inside.value test).isTrue then inside.value yes else inside.value no
  | .either first second => do
    if (← inside.value first).isTrue then return .ofBool true
    else return .ofBool (← inside.value second).isTrue
  | .both first second => do
    if (← inside.value first).isTrue then return .ofBool (← inside.value second).isTrue
    else return .ofBool false
  | .negation e => do return .ofBool (!(← inside.value e).isTrue)
  | .comparison how first second => do
    let a ← inside.value first
    let b ← inside.value second
    return .ofBool (Value.compare (← conversion) how a b)
  | .matching wanted subject pattern => do
    let s ← textOf (← inside.value subject)
    return .ofBool (matchesIn (← regexFrom inside pattern) s == wanted)
  | .membership keys table => do
    let key ← keyFrom (← keys.mapM inside.value)
    let n ← tableOf table
    return .ofBool (← changeTable n fun t => t.has key)
  | .joined first second => do
    let a ← textOf (← inside.value first)
    return .text (a ++ (← textOf (← inside.value second)))
  | .calculation operation first second => do
    let x ← number first
    return .number (operation.apply x (← number second))
  | .negative e => do return .number (-(← number e))
  | .positive e => do return .number (← number e)
  | .builtin function args => builtin inside function args
  | .call name args => callFunction script inside name args
  | .readLine source origin place => readLine inside source origin place
  | .group [e] => inside.value e
  | .group items => do
    return .text (← keyFrom (← items.mapM inside.value)).toText

/-! ## Statements -/

/-- Writes a text to where a statement sends it. -/
def putOut (output : Option Output) (text : String) : Exec Unit := do
  match output with
  | none => modify fun st => { st with out := st.out.add text }
  | some output => do
    let name ← textOf (← inside.value output.target)
    putTo output.kind name text

/-- Carries out a statement that is no loop, given what is inside it. -/
def act (s : Statement) : Exec Flow := do
  match s with
  | .expression e => do
    let _ ← inside.value e
    return .on
  | .print items output => do
    let format ← globalText "OFMT"
    let values ← if items.isEmpty then do pure [Value.found (← get).record] else items.mapM inside.value
    let texts := values.map fun v => v.toText format
    putOut inside output ((← globalText "OFS").intercalate texts ++ (← globalText "ORS"))
    return .on
  | .printf items output => do
    match ← items.mapM inside.value with
    | format :: values => do
      let format ← textOf format
      let done := formatted (← conversion) (format.length + 1) format.toList values []
      putOut inside output done.text
      if done.isShort then throw (.fault ("not enough arguments passed to printf(\"" ++ format ++ "\")"))
      return .on
    | [] => return .on
  | .choose test yes no => do
    if (← inside.value test).isTrue then inside.perform yes
    else match no with
      | some no => inside.perform no
      | none => return .on
  | .leaveLoop => return .leave
  | .nextRound => return .again
  | .nextRecord => throw .nextRecord
  | .nextFile => throw .nextFile
  | .quit status => do
    match status with
    | none => throw (.quit none)
    | some e => do
      let n := wholeOf (← inside.value e).toNumber
      throw (.quit (some (n % 256).toNat))
  | .giveBack v => do
    match v with
    | none => return .giveBack .unset
    | some e => return .giveBack (← inside.value e)
  | .delete table keys => do
    let n ← tableOf table
    if keys.isEmpty then changeTable n fun _ => ((), {})
    else
      let key ← keyFrom (← keys.mapM inside.value)
      changeTable n fun t => ((), t.erase key)
    return .on
  | _ => return .on

/-! ## Depth -/

mutual

/-- What an expression comes to. The fuel bounds the depth and the number of rounds. -/
def value : Nat → Script → Expr → Exec Value
  | 0, _, _ => throw (.refusal "program limit exceeded")
  | fuel + 1, script, e => valueOf script ⟨value fuel script, perform fuel script⟩ e

/-- Carries out a statement. The fuel bounds the depth and the number of rounds. -/
def perform : Nat → Script → Statement → Exec Flow
  | 0, _, _ => throw (.refusal "program limit exceeded")
  | fuel + 1, script, s => do
    match s with
    | .nothing | .block [] => return .on
    | .block (s :: rest) => do
      match ← perform fuel script s with
      | .on => perform fuel script (.block rest)
      | flow => return flow
    | .loop test body => do
      if !(← value fuel script test).isTrue then return .on
      match ← perform fuel script body with
      | .leave => return .on
      | .giveBack v => return .giveBack v
      | _ => perform fuel script (.loop test body)
    | .loopAfter body test => do
      match ← perform fuel script body with
      | .leave => return .on
      | .giveBack v => return .giveBack v
      | _ => if (← value fuel script test).isTrue then perform fuel script (.loopAfter body test) else return .on
    | .count test step body => do
      let goesOn ← match test with
        | some e => do pure (← value fuel script e).isTrue
        | none => pure true
      if !goesOn then return .on
      match ← perform fuel script body with
      | .leave => return .on
      | .giveBack v => return .giveBack v
      | _ => do
        let _ ← perform fuel script step
        perform fuel script (.count test step body)
    | .forEach name table body => do
      let n ← tableOf table
      let keys ← changeTable n fun t => t.keys
      for key in keys do
        setName name (.found key)
        match ← perform fuel script body with
        | .leave => return .on
        | .giveBack v => return .giveBack v
        | _ => pure ()
      return .on
    | s => act ⟨value fuel script, perform fuel script⟩ s

end

/-! ## Rules -/

/-- How deep a script goes, and how many rounds its loops make. -/
def fuelLimit : Nat := 1000000000

/-- What something comes to, or why it stops. -/
def attempt {α : Type} (x : Exec α) : Exec (Except Halt α) := fun st =>
  match x st with
  | .ok a st => .ok (.ok a) st
  | .error halt st => .ok (.error halt) st

/-- Carries out the action of a rule. -/
def applyRule (script : Script) (rule : Rule) : Exec Unit := do
  let _ ← perform fuelLimit script (.block rule.body)

/-- Applies the rules to the record. -/
def applyRules (script : Script) : Exec Unit := do
  for (rule, i) in script.rules.zipIdx do
    let holds (e : Expr) : Exec Bool := do return (← value fuelLimit script e).isTrue
    match rule.condition with
    | .always => applyRule script rule
    | .test e => do if ← holds e then applyRule script rule
    | .run first last => do
      if (← get).begun.contains i then
        if ← holds last then modify fun st => { st with begun := st.begun.filter (· != i) }
        applyRule script rule
      else if ← holds first then
        if !(← holds last) then modify fun st => { st with begun := i :: st.begun }
        applyRule script rule
    | _ => pure ()

/-- Applies the rules to one record after another, and tells with what status the script ends if it says so. The fuel
bounds the number of records. -/
def records (script : Script) : Nat → Exec (Option (Option Nat))
  | 0 => return none
  | fuel + 1 => do
    match ← nextRecord argumentLimit with
    | none => return none
    | some s => do
      setRecord s
      match ← attempt (applyRules script) with
      | .ok () => records script fuel
      | .error .nextRecord => do
        modify fun st => { st with locals := [], depth := 0 }
        records script fuel
      | .error .nextFile => do
        leaveInput
        records script fuel
      | .error (.quit status) => return some status
      | .error halt => throw halt

/-- Carries out the rules for the start or for the end, and tells with what status the script ends if it says so. -/
def outerRules (script : Script) (isWanted : Condition → Bool) : Exec (Option (Option Nat)) := do
  modify fun st => { st with locals := [], depth := 0 }
  for rule in script.rules do
    if isWanted rule.condition then
      match ← attempt (applyRule script rule) with
      | .ok () => pure ()
      | .error (.quit status) => return some status
      | .error halt => throw halt
  return none

/-- Whether a rule is for the start. -/
def Condition.isStart : Condition → Bool
  | .atStart => true
  | _ => false

/-- Whether a rule is for the end. -/
def Condition.isEnd : Condition → Bool
  | .atEnd => true
  | _ => false

/-- Runs a script from its start to its end: its status. -/
def Script.whole (script : Script) : Exec Nat := do
  let early ← outerRules script Condition.isStart
  let readsRecords := script.rules.any fun rule => !rule.condition.isStart
  let ended ← match early with
    | some status => pure (some status)
    | none => if readsRecords then records script fuelLimit else pure none
  let late ← outerRules script Condition.isEnd
  closeAll
  return ((late.getD none).orElse fun _ => ended.getD none).getD 0

/-- Tells what went wrong, and ends. -/
def complain (name text : String) : Exec Nat := do
  let _ ← ask (.write 2 (name ++ ": " ++ text ++ "\n"))
  match ← attempt closeAll with
  | .error (.wish w) => throw (.wish w)
  | _ => return 2

/-- Runs a script under a name: its status. -/
def Script.perform (script : Script) (name : String) : Exec Nat := do
  match ← attempt script.whole with
  | .ok status => return status
  | .error (.fault text) => do
    let number (name : String) : Exec String := do return (← globalValue name).toText "%.6g"
    complain name ("run time error: " ++ text ++ "\n\tFILENAME=\"" ++ (← globalText "FILENAME") ++ "\" FNR=" ++
      (← number "FNR") ++ " NR=" ++ (← number "NR"))
  | .error (.refusal text) => complain name text
  | .error halt => throw halt

end BatchRunner.Machine.Tool.Rules
