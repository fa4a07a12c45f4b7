import BatchRunner.Machine.Tool.Feed
import BatchRunner.Machine.Tool.Rules.Grammar
import BatchRunner.Machine.Tool.Rules.Table
import BatchRunner.Machine.Tool.Rules.Value

/-!
# What a running script knows

A script is run as if everything that it asks for were known: it takes the answers to its wishes one after another, and
where they end it stops with the wish that comes next. With that answer added, it is run again from the start; as it
does the same each time, it gets further by one wish each time.
-/

namespace BatchRunner.Machine.Tool.Rules

/-- What a script asks for. -/
inductive Wish where
  /-- Opens a file for reading. -/
  | openFile (path : String)
  /-- Makes a file empty if it is to be so, and makes it if it is not there. -/
  | makeFile (path : String) (keep : Bool)
  | append (path : String) (text : String)
  | read (fd : Fd)
  | write (fd : Fd) (text : String)
  | close (fd : Fd)
  /-- Runs a command. -/
  | run (command : String)
  /-- Starts a command that reads what is written to a descriptor, or writes what is read from one. -/
  | start (command : String) (isFed : Bool)
  /-- Closes the descriptor of a command and waits for its end. -/
  | finish (pid : Pid) (fd : Fd)
  deriving Inhabited

/-- What comes of a wish. -/
inductive Answer where
  | number (n : Nat)
  | text (s : String)
  | started (pid : Pid) (fd : Fd)
  | refused (errno : Os.Errno)
  deriving Inhabited

/-- What is read from: the characters that were read and not yet taken, and whether there are no more. -/
structure Input where
  fd : Fd
  ahead : List Char := []
  isOver : Bool := false
  deriving Inhabited

/-- Something that a script has opened. -/
inductive Stream where
  | source (input : Input)
  /-- A command that is read from. -/
  | producer (pid : Pid) (input : Input)
  /-- A file that is written to, with what is still to be written. -/
  | sink (text : Gathered)
  /-- A command that is written to. -/
  | consumer (pid : Pid) (fd : Fd) (text : Gathered)
  deriving Inhabited

/-- What a name stands for. -/
inductive Binding where
  | value (v : Value)
  | table (number : Nat)
  /-- A name that was not used yet: it stands for this table if it is used as one. -/
  | either (number : Nat)
  deriving Inhabited

/-- What a running script knows. -/
structure State where
  globals : Std.HashMap String Binding := {}
  /-- The names that belong to the function that is running. -/
  locals : List (String × Binding) := []
  tables : Array (Table Value) := #[]
  record : String := ""
  /-- The fields of the record, if they have been looked at. -/
  fields : Option (Array Value) := none
  /-- The records that are read, if the first of them has been asked for. -/
  input : Option Input := none
  /-- The argument that comes next. -/
  nextArgument : Nat := 1
  /-- Whether an argument named a file. -/
  hasFile : Bool := false
  streams : List (String × Stream) := []
  out : Gathered := {}
  /-- The rules that began with a record and have not ended. -/
  begun : List Nat := []
  answers : List Answer := []
  seed : UInt64 := 1
  depth : Nat := 0
  deriving Inhabited

/-- Why a script stops. -/
inductive Halt where
  | wish (w : Wish)
  | nextRecord
  | nextFile
  | quit (status : Option Nat)
  /-- Something is wrong; the message also tells where. -/
  | fault (text : String)
  /-- Something is wrong, wherever it is. -/
  | refusal (text : String)
  deriving Inhabited

/-- What a script does as it runs. -/
abbrev Exec := EStateM Halt State

/-- Asks for something. -/
def ask (w : Wish) : Exec Answer := fun st =>
  match st.answers with
  | answer :: answers => .ok answer { st with answers }
  | [] => .error (.wish w) st

/-! ## Names -/

/-- What a name stands for. -/
def binding (name : String) : Exec (Option Binding) := do
  let st ← get
  match st.locals.lookup name with
  | some b => return some b
  | none => return st.globals[name]?

/-- Lets a name stand for something. -/
def bindName (name : String) (b : Binding) : Exec Unit := modify fun st =>
  if st.locals.any (·.1 == name) then
    { st with locals := st.locals.map fun (n, old) => if n == name then (n, b) else (n, old) }
  else { st with globals := st.globals.insert name b }

/-- The value of a global name. -/
def globalValue (name : String) : Exec Value := do
  match (← get).globals[name]? with
  | some (.value v) => return v
  | _ => return .unset

/-- Gives a global name a value. -/
def setGlobal (name : String) (v : Value) : Exec Unit :=
  modify fun st => { st with globals := st.globals.insert name (.value v) }

/-- The text of a global name. -/
def globalText (name : String) : Exec String := do
  return (← globalValue name).toText "%.6g"

/-- A new table. -/
def newTable : Exec Nat := modifyGet fun st => (st.tables.size, { st with tables := st.tables.push {} })

/-- The table that a name stands for. -/
def tableOf (name : String) : Exec Nat := do
  match ← binding name with
  | some (.table n) => return n
  | some (.either n) => do
    bindName name (.table n)
    return n
  | some (.value .unset) | none => do
    let n ← newTable
    bindName name (.table n)
    return n
  | some (.value _) => throw (.fault ("illegal reference to variable " ++ name))

/-- Changes a table, and is what the change comes to. -/
def changeTable {α : Type} (number : Nat) (change : Table Value → α × Table Value) : Exec α := fun st =>
  let table := (st.tables[number]?).getD {}
  let st := { st with tables := st.tables.setIfInBounds number {} }
  let (a, table) := change table
  .ok a { st with tables := st.tables.setIfInBounds number table }

/-- How numbers become texts, other than in output. -/
def conversion : Exec String := globalText "CONVFMT"

/-- A value as a text. -/
def textOf (v : Value) : Exec String :=
  match v with
  | .number _ => do return v.toText (← conversion)
  | v => return v.toText ""

/-- A value as a key. -/
def keyOf (v : Value) : Exec Key := do
  match v with
  | .number x =>
    let n := wholeOf x
    if isWhole x && Float.ofInt n == x then
      if n < 9223372036854775807 then return .whole n else return .text (numberIn (← conversion) x)
    else return .text (← textOf v)
  | v => return .text (← textOf v)

/-! ## Fields -/

/-- The pieces of a text between blanks. -/
def blankPieces (s : String) : List String :=
  (String.ofList (s.toList.map fun c => if c == '\t' || c == '\n' then ' ' else c)).splitOn " " |>.filter (· != "")

/-- The pieces of a text between matches, of which none is empty. The fuel bounds their number. -/
def matchPieces (regex : Text.Regex) (s : Text.Regex.Subject) : Nat → Nat → Nat → List String
  | 0, _, _ => []
  | fuel + 1, start, place =>
    let piece (last : Nat) : String := String.ofList (s.chars.toSubarray start last).toArray.toList
    match regex.find s place with
    | none => [piece s.chars.size]
    | some m =>
      if m.first == m.last then
        if m.first < s.chars.size then matchPieces regex s fuel start (m.first + 1) else [piece s.chars.size]
      else piece m.first :: matchPieces regex s fuel m.last m.last

/-- The pieces of a text between separators: blanks, a character, nothing at all, or matches of a regular expression. -/
def piecesOf (separator : String ⊕ Text.Regex) (s : String) : Except String (List String) :=
  if s.isEmpty then .ok []
  else
    let subject : Text.Regex.Subject := { chars := s.toList.toArray }
    let cutBy (regex : Text.Regex) : List String := matchPieces regex subject (s.length + 2) 0 0
    match separator with
    | .inr regex => .ok (cutBy regex)
    | .inl " " => .ok (blankPieces s)
    | .inl "" => .ok (s.toList.map (·.toString))
    | .inl text =>
      if text.length = 1 && text != "\\" then .ok (s.splitOn text)
      else if text == "\\" then .ok (s.splitOn "\\")
      else (regexOf text).map cutBy

/-- The separator of fields. -/
def fieldSeparator : Exec (String ⊕ Text.Regex) := do return .inl (← globalText "FS")

/-- The fields of the record, which are looked at now if they have not been before. -/
def fieldsOf : Exec (Array Value) := do
  match (← get).fields with
  | some fields => return fields
  | none =>
    let st ← get
    let separator ← fieldSeparator
    match piecesOf separator st.record with
    | .error text => throw (.fault text)
    | .ok pieces =>
      let fields := (pieces.map Value.found).toArray
      modify fun st => { st with fields := some fields }
      setGlobal "NF" (.number fields.size.toFloat)
      return fields

/-- Takes a text as the record. -/
def setRecord (s : String) : Exec Unit := modify fun st => { st with record := s, fields := none }

/-- Takes values as the fields of the record. -/
def setFields (fields : Array Value) : Exec Unit := do
  let separator ← globalText "OFS"
  let format ← conversion
  modify fun st => { st with
    fields := some fields, record := separator.intercalate (fields.toList.map fun v => v.toText format) }
  setGlobal "NF" (.number fields.size.toFloat)

/-- The field with a number; the number zero is that of the record. -/
def fieldAt (n : Int) : Exec Value := do
  if n = 0 then return .found (← get).record
  if n < 0 then throw (.fault ("negative field index $" ++ toString n))
  return ((← fieldsOf)[n.toNat - 1]?).getD .unset

/-- How many fields a record has at most. -/
def fieldLimit : Nat := 32767

/-- Gives a field a value. -/
def setField (n : Int) (v : Value) : Exec Unit := do
  if n = 0 then setRecord (← textOf v)
  else if n < 0 then throw (.fault ("negative field index $" ++ toString n))
  else
    let fields ← fieldsOf
    let place := min n.toNat fieldLimit - 1
    let fields := fields ++ Array.replicate (place + 1 - fields.size) (.text "")
    setFields (fields.setIfInBounds place v)

/-- Gives a name a value. The number of fields is one that the record has to follow. -/
def setName (name : String) (v : Value) : Exec Unit := do
  match ← binding name with
  | some (.table _) => throw (.fault ("illegal reference to array " ++ name))
  | _ =>
    -- A new separator is for the records to come.
    if name == "FS" then
      let _ ← fieldsOf
    if name == "NF" then
      let n := wholeOf v.toNumber
      if n < 0 then throw (.fault "negative value assigned to NF")
      let fields ← fieldsOf
      let size := min n.toNat fieldLimit
      setFields ((fields.extract 0 size) ++ Array.replicate (size - fields.size) (.text ""))
    else bindName name (.value v)

/-- The value of a name. -/
def nameValue (name : String) : Exec Value := do
  if name == "NF" then
    let _ ← fieldsOf
  match ← binding name with
  | some (.value v) => return v
  | some (.table _) => throw (.fault ("illegal reference to array " ++ name))
  | _ => return .unset

/-! ## Records -/

/-- Reads more into an input. -/
def Input.more (input : Input) : Exec Input := do
  match ← ask (.read input.fd) with
  | .text "" => return { input with isOver := true }
  | .text s => return { input with ahead := input.ahead ++ s.toList }
  | _ => return { input with isOver := true }

/-- Reads an input to its end. The fuel bounds the number of blocks. -/
def Input.all : Nat → Input → Exec Input
  | 0, input => return input
  | fuel + 1, input => if input.isOver then return input else do all fuel (← input.more)

/-- The next record up to a character, and what is left. The fuel bounds the number of blocks. -/
def Input.upTo (mark : Char) : Nat → Input → Exec (Option String × Input)
  | 0, input => return (none, input)
  | fuel + 1, input => do
    let front := input.ahead.takeWhile (· != mark)
    match input.ahead.drop front.length with
    | _ :: rest => return (some (String.ofList front), { input with ahead := rest })
    | [] =>
      if !input.isOver then upTo mark fuel (← input.more)
      else if front.isEmpty then return (none, input)
      else return (some (String.ofList front), { input with ahead := [] })

/-- The characters up to an empty line, and what is behind the empty lines. -/
def paragraphAt : List Char → List Char → List Char × List Char
  | [], done => (done, [])
  | '\n' :: '\n' :: rest, done => (done, rest.dropWhile (· == '\n'))
  | ['\n'], done => (done, [])
  | c :: rest, done => paragraphAt rest (c :: done)

/-- The next record, and what is left of an input. -/
def Input.next (input : Input) : Exec (Option String × Input) := do
  let blocks := Plan.blockLimit
  match (← globalText "RS").toList with
  | [mark] => input.upTo mark blocks
  | [] =>
    let input ← Input.all blocks input
    let ahead := input.ahead.dropWhile (· == '\n')
    if ahead.isEmpty then return (none, { input with ahead })
    let (front, rest) := paragraphAt ahead []
    return (some (String.ofList front.reverse), { input with ahead := rest })
  | mark =>
    let input ← Input.all blocks input
    if input.ahead.isEmpty then return (none, input)
    match regexOf (String.ofList mark) with
    | .error text => throw (.fault text)
    | .ok regex =>
      match regex.find { chars := input.ahead.toArray } 0 with
      | some m => return (some (String.ofList (input.ahead.take m.first)), { input with ahead := input.ahead.drop m.last })
      | none => return (some (String.ofList input.ahead), { input with ahead := [] })

/-- Opens a file for reading; a hyphen stands for standard input. -/
def openInput (path : String) : Exec (Except Os.Errno Input) := do
  if path == "-" || path == "/dev/stdin" then return .ok { fd := 0 }
  match ← ask (.openFile path) with
  | .number fd => return .ok { fd }
  | .refused errno => return .error errno
  | _ => return .error Os.Errno.noEntry

/-- The name and the value in an argument that gives a name a value. -/
def assignmentIn? (argument : String) : Option (String × String) :=
  match argument.toList.span (· != '=') with
  | (c :: name, _ :: value) =>
    if isNameStart c && name.all isNameChar then some (String.ofList (c :: name), unescape (String.ofList value)) else none
  | _ => none

/-- Opens the next file that an argument names, or standard input if none does; arguments that give names values do
so. The fuel bounds the number of arguments. -/
def nextInput : Nat → Exec (Option Input)
  | 0 => return none
  | fuel + 1 => do
    let st ← get
    let count := wholeOf (← globalValue "ARGC").toNumber
    if count ≤ (st.nextArgument : Int) then
      if st.hasFile then return none
      else
        set { st with hasFile := true }
        return some { fd := 0 }
    else
      set { st with nextArgument := st.nextArgument + 1 }
      let table ← tableOf "ARGV"
      let argument ← changeTable table fun t => (t.get? (.whole st.nextArgument), t)
      let path ← textOf (argument.getD .unset)
      if path.isEmpty then nextInput fuel
      else match assignmentIn? path with
        | some (name, value) => do
          setName name (.found value)
          nextInput fuel
        | none => do
          modify fun st => { st with hasFile := true }
          setGlobal "FILENAME" (.found path)
          setGlobal "FNR" (.number 0)
          match ← openInput path with
          | .ok input => return some input
          | .error errno => throw (.refusal ("cannot open \"" ++ path ++ "\" (" ++ errno.sentence ++ ")"))

/-- How many arguments there are at most. -/
def argumentLimit : Nat := 1000000

/-- Closes the file that records are read from. -/
def leaveInput : Exec Unit := do
  match (← get).input with
  | some input => do
    if input.fd != 0 then
      let _ ← ask (.close input.fd)
    modify fun st => { st with input := none }
  | none => return

/-- The next record of the script. The fuel bounds the number of files. -/
def nextRecord : Nat → Exec (Option String)
  | 0 => return none
  | fuel + 1 => do
    match (← get).input with
    | none => match ← nextInput argumentLimit with
      | none => return none
      | some input => do
        modify fun st => { st with input := some input }
        nextRecord fuel
    | some input =>
      let (record, input) ← input.next
      modify fun st => { st with input := some input }
      match record with
      | some s => do
        setGlobal "NR" (.number ((← globalValue "NR").toNumber + 1))
        setGlobal "FNR" (.number ((← globalValue "FNR").toNumber + 1))
        return some s
      | none => do
        leaveInput
        nextRecord fuel

end BatchRunner.Machine.Tool.Rules
