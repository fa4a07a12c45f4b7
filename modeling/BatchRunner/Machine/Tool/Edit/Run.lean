import BatchRunner.Machine.Tool.Edit.Reader
import BatchRunner.Machine.Tool.Feed
import BatchRunner.Machine.Tool.Folder
import BatchRunner.Machine.Tool.Stream

/-!
# Running editing scripts

`sed` reads files line by line, runs a script on each line, and writes what the script leaves of it. A cycle begins
when a line is read into the space that the commands work on, and ends when that space is written.
-/

namespace BatchRunner.Machine.Tool.Edit

/-- A text that commands work on, and whether a line end belongs behind it. -/
structure Space where
  text : String := ""
  isEnded : Bool := true
  deriving Inhabited

/-- What is written when the cycle ends. -/
inductive Later where
  | text (s : String)
  | file (path : String)
  deriving Inhabited

/-- How far a command has come in a run of lines: it may have begun, with or without a number for its last line, and it
may be over for good. -/
inductive RunState where
  | waiting
  | begun (last : Option Nat)
  | finished
  deriving DecidableEq, Repr, Inhabited

/-- How a script is run. -/
structure Manner where
  script : Script
  quiet : Bool
  /-- Whether each file has lines of its own. -/
  separate : Bool
  /-- Whether files are replaced by what is written of them, and what is added to the names of the old ones. -/
  inPlace : Option String
  lineEnd : Char
  width : Nat
  deriving Inhabited

/-- Where a run of a script has come. -/
structure State where
  pattern : Space := {}
  held : Space := {}
  line : Nat := 0
  feed : Option Feed := none
  path : String := "-"
  paths : List String := []
  later : List Later := []
  runs : List (Nat × RunState) := []
  replaced : Bool := false
  /-- The expression that was used last. -/
  latest : Option Pattern := none
  out : Gathered := {}
  /-- What takes the place of the file that is read. -/
  edited : Gathered := {}
  /-- The outputs whose last line has no end; the one without a name is that of the script. -/
  unended : List String := []
  /-- The lines of files that are read line by line and were not read yet. -/
  readers : List (String × List (String × Bool)) := []
  status : Nat := 0
  deriving Inhabited

/-! ## Lines that are meant -/

namespace State

/-- The pattern that a choice means; nothing if it means the last one and there was none. -/
def patternOf (st : State) (choice : PatternChoice) : Option Pattern := choice.orElse fun _ => st.latest

/-- Whether a pattern matches; nothing if there is none. -/
def tries (st : State) (choice : PatternChoice) : Option (Bool × State) :=
  (st.patternOf choice).map fun p => (p.matches st.pattern.text, { st with latest := some p })

/-- Whether the line is at an address; nothing if there is no pattern to tell it. -/
def isAt (st : State) (isLast : Bool) : Address → Option (Bool × State)
  | .line n => some (st.line = n, st)
  | .every first distance => some (first ≤ st.line && (st.line - first) % distance = 0, st)
  | .last => some (isLast, st)
  | .pattern choice => st.tries choice

/-- Whether a run of lines begins. -/
def begins (st : State) (isLast : Bool) : Address → Option (Bool × State)
  | .line n => some (n ≤ st.line, st)
  | address => st.isAt isLast address

/-- Whether a run of lines that has begun ends with this line. -/
def ends (st : State) (isLast : Bool) : RunEnd → Option (Bool × State)
  | .last => some (isLast, st)
  | .every first distance => some (first ≤ st.line && (st.line - first) % distance = 0, st)
  | .pattern choice => st.tries choice
  | _ => some (false, st)

/-- The state of the run of lines of a command. -/
def runOf (st : State) (index : Nat) (first : Address) : RunState :=
  (st.runs.lookup index).getD (match first with
    | .line 0 => .begun none
    | _ => .waiting)

/-- Notes the state of the run of lines of a command. -/
def noteRun (st : State) (index : Nat) (run : RunState) : State :=
  { st with runs := (index, run) :: st.runs.filter (·.1 != index) }

/-- What a first line makes of a run: the number of its last line, if there is one that is known. -/
def lastOf (line : Nat) : RunEnd → Option Nat
  | .line n => some n
  | .further n => some (line + n)
  | .multiple 0 => some line
  | .multiple n => some (line + n - line % n)
  | _ => none

/-- Whether the line is in a run of lines. -/
def isInRun (st : State) (isLast : Bool) (index : Nat) (first : Address) (runEnd : RunEnd) : Option (Bool × State) :=
  let isNumbered := match first with
    | .line _ => true
    | _ => false
  match st.runOf index first with
  | .finished => some (false, st)
  | .waiting => do
    let (begun, st) ← st.begins isLast first
    if !begun then return (false, st)
    match lastOf st.line runEnd with
    | none => return (true, st.noteRun index (.begun none))
    | some last =>
      if st.line < last then return (true, st.noteRun index (.begun (some last)))
      let isMeant := match first, runEnd with
        | .line n, .line last => st.line = n || st.line ≤ last
        | _, _ => true
      return (isMeant, if isNumbered then st.noteRun index .finished else st)
  | .begun last =>
    let behind : RunState := if isNumbered then .finished else .waiting
    match last with
    | some last =>
      let isFixed := match runEnd with
        | .line _ => true
        | _ => false
      some (st.line ≤ last || !isFixed, if last ≤ st.line then st.noteRun index behind else st)
    | none => do
      let (ended, st) ← st.ends isLast runEnd
      return (true, if ended then st.noteRun index behind else st)

/-- Whether a command is meant for the line; nothing if there is no pattern to tell it. -/
def isMeant (st : State) (isLast : Bool) (index : Nat) (chosen : Chosen) : Option (Bool × State) := do
  let (meant, st) ← match chosen.first, chosen.runEnd with
    | none, _ => some (true, st)
    | some first, none => st.isAt isLast first
    | some first, some runEnd => st.isInRun isLast index first runEnd
  return (meant != chosen.negated, st)

/-! ## Output -/

/-- Writes a text to the output of the script. -/
def put (st : State) (manner : Manner) (text : String) : State :=
  let front := if st.unended.contains "" then manner.lineEnd.toString else ""
  let st := { st with unended := st.unended.filter (· != "") }
  if manner.inPlace.isSome then { st with edited := st.edited.add (front ++ text) }
  else { st with out := st.out.add (front ++ text) }

/-- Writes a line to the output of the script. -/
def putLine (st : State) (manner : Manner) (space : Space) (text : String) : State :=
  if space.isEnded then st.put manner (text ++ manner.lineEnd.toString)
  else
    let st := st.put manner text
    { st with unended := "" :: st.unended }

/-- Writes the space that the commands work on, unless lines are not written by themselves. -/
def putPattern (st : State) (manner : Manner) : State :=
  if manner.quiet then st else st.putLine manner st.pattern st.pattern.text

end State

/-- Whether an address asks for the last line. -/
def Chosen.asksForLast (chosen : Chosen) : Bool :=
  (match chosen.first with
    | some .last => true
    | _ => false) ||
  match chosen.runEnd with
    | some .last => true
    | _ => false

/-- Whether files that are still to be read hold nothing. -/
def holdNothing (tree : Files.Tree) (cwd : Files.Path) (paths : List String) : Bool :=
  paths.all fun path => path != "-" && match Files.readBytes tree cwd (Text.ofOctets path) with
    | .ok bytes => bytes.isEmpty
    | .error _ => true

/-- Goes on with whether there is no line behind the one that was read. The fuel bounds the number of blocks. -/
def lookAhead (manner : Manner) (st : State) (next : Bool → State → Plan) : Nat → Plan
  | 0 => next true st
  | fuel + 1 =>
    let elsewhere (st : State) : Plan :=
      if manner.separate then next true st
      else .withFiles fun space _ => (space.tree, next (holdNothing space.tree space.cwd st.paths) st)
    match st.feed with
    | none => elsewhere st
    | some feed =>
      if !feed.ahead.isEmpty || (feed.isOver && !feed.part.isEmpty) then next false st
      else if feed.isOver then elsewhere st
      else .read feed.fd Plan.blockSize fun
        | .error _ => next true st
        | .ok block =>
          let feed := if block.isEmpty then { feed with isOver := true } else feed.take (Text.ofByteArray block)
          lookAhead manner { st with feed := some feed } next fuel

/-- Goes on with whether there is no line behind the one that was read, if somebody wants to know. -/
def withLast (manner : Manner) (isAsked : Bool) (st : State) (next : Bool → State → Plan) : Plan :=
  if isAsked then lookAhead manner st next Plan.blockLimit else next false st

/-! ## Files -/

/-- Writes what was gathered if it is enough. -/
def State.pour (call : Call) (st : State) (next : State → Plan) : Plan :=
  call.pour st.out fun out => next { st with out }

/-- Writes a message, in front of the output that is still gathered. -/
def State.warn (call : Call) (st : State) (text : String) (next : State → Plan) : Plan := call.warn text (next st)

/-- Ends the run. -/
def State.finish (call : Call) (st : State) (status : Nat) : Plan := call.flush st.out (.done status)

/-- Writes to a file, or to an output that has the name of one. -/
def State.writeTo (call : Call) (manner : Manner) (st : State) (path : String) (space : Space) (text : String)
    (next : State → Plan) : Plan :=
  let front := if st.unended.contains path then manner.lineEnd.toString else ""
  let unended := st.unended.filter (· != path)
  let whole := front ++ text ++ (if space.isEnded then manner.lineEnd.toString else "")
  let st := { st with unended := if space.isEnded then unended else path :: unended }
  if path = "/dev/stdout" then next { st with out := st.out.add whole }
  else if path = "/dev/stderr" then .write 2 (Text.toByteArray whole) fun _ => next st
  else .withFiles fun files _ =>
    (appendTo call.setting [path] (Text.toByteArray whole) files.tree, next st)

/-- Writes what was kept for the end of the cycle. -/
def writeLater (call : Call) (manner : Manner) (next : State → Plan) : List Later → State → Plan
  | [], st => next { st with later := [] }
  | .text text :: rest, st => writeLater call manner next rest (st.put manner text)
  | .file path :: rest, st => .readPath (if path = "/dev/stdin" then "-" else path) fun
    | .ok bytes =>
      let text := Text.ofByteArray bytes
      writeLater call manner next rest (if text.isEmpty then st else st.put manner text)
    | .error _ => writeLater call manner next rest st

/-- Ends the cycle as far as what was kept for its end goes. -/
def State.settle (call : Call) (manner : Manner) (st : State) (next : State → Plan) : Plan :=
  writeLater call manner (fun st => st.pour call next) st.later.reverse st

/-- Puts what was written of a file in its place. -/
def replaceFile (call : Call) (suffix path text : String) (tree : Files.Tree) : Files.Tree :=
  let cwd := call.setting.cwd
  let shown := Text.ofOctets path
  let kept := if suffix.isEmpty then tree else
    match Files.readBytes tree cwd shown with
    | .ok old =>
      let backup := if suffix.toList.contains '*' then String.join (suffix.toList.map fun c =>
        if c == '*' then path else c.toString) else path ++ suffix
      (Files.writeBytes tree cwd (Text.ofOctets backup) old).toOption.getD tree
    | .error _ => tree
  (Files.writeBytes kept cwd shown (Text.toByteArray text)).toOption.getD kept

/-- Leaves the file that is read. -/
def State.leaveFile (call : Call) (manner : Manner) (st : State) (next : State → Plan) : Plan :=
  let close (st : State) : Plan := match st.feed with
    | some feed => if feed.fd = 0 then next { st with feed := none } else .close feed.fd (next { st with feed := none })
    | none => next st
  match manner.inPlace with
  | none => close st
  | some suffix => .withFiles fun files _ =>
    let unended := st.unended.filter (· != "")
    (replaceFile call suffix st.path st.edited.text files.tree, close { st with edited := {}, unended })

/-- Reads the next line, and goes on with it, or with the end of all files. The fuel bounds the number of files. -/
def readLine (call : Call) (manner : Manner) (found : String → Bool → State → Plan) (atEnd : State → Plan) :
    Nat → State → Plan
  | 0, st => atEnd st
  | fuel + 1, st => match st.feed with
    | some feed => feed.next
      (fun line isEnded feed => found line isEnded { st with feed := some feed, line := st.line + 1 })
      (fun
        | none => st.leaveFile call manner (readLine call manner found atEnd fuel)
        | some errno => st.warn call ("read error on " ++ st.path ++ ": " ++ errno.sentence) (·.finish call 4))
    | none => match st.paths with
      | [] => atEnd st
      | path :: paths =>
        let st := { st with paths, path }
        let start (st : State) (fd : Fd) : Plan :=
          let st := { st with feed := some { fd, lineEnd := manner.lineEnd } }
          readLine call manner found atEnd fuel (if manner.separate then { st with line := 0, runs := [] } else st)
        let failed (text : String) (status : Nat) : Plan :=
          st.warn call text fun st => readLine call manner found atEnd fuel { st with status := status }
        if path = "-" && manner.inPlace.isNone then start st 0
        else .withFiles fun files _ => (files.tree,
          let isDirectory := match entryAt files.tree files.cwd path with
            | .ok entry => entry.isDirectory
            | .error _ => false
          if manner.inPlace.isSome && isDirectory then failed ("couldn't edit " ++ path ++ ": not a regular file") 4
          else .openFile path fun
            | .error errno => failed ("can't read " ++ path ++ ": " ++ errno.sentence) 2
            | .ok fd => start st fd)

/-! ## Running -/

/-- How a command leaves the cycle, or does not. -/
inductive Flow where
  /-- Goes on with the command at a place. -/
  | goOn (place : Nat)
  /-- Ends the cycle without writing. -/
  | endCycle
  /-- Begins the next cycle without reading a line. -/
  | again

/-- What commands do that only work on what was read and written: the state behind them, and where they lead. -/
def act (manner : Manner) (index : Nat) (command : Command) (st : State) : State × Flow :=
  let on (st : State) : State × Flow := (st, .goOn (index + 1))
  match command.action with
  | .append text => on { st with later := .text text :: st.later }
  | .insert text => on (st.put manner text)
  | .change text =>
    let isInside := match st.runs.lookup index with
      | some (.begun _) => command.chosen.runEnd.isSome
      | _ => false
    (if isInside && !command.chosen.negated then st else st.put manner text, .endCycle)
  | .jump condition label =>
    let target := if label.isEmpty then manner.script.commands.size
      else (manner.script.labels.lookup label).getD manner.script.commands.size
    match condition with
    | .always => (st, .goOn target)
    | .replaced => if st.replaced then ({ st with replaced := false }, .goOn target) else on st
    | .notReplaced => if st.replaced then on { st with replaced := false } else (st, .goOn target)
  | .delete => (st, .endCycle)
  | .deleteFirst => match firstLine? manner.lineEnd st.pattern.text with
    | none => (st, .endCycle)
    | some (_, rest) => ({ st with pattern := { st.pattern with text := rest } }, .again)
  | .number => on (st.put manner (toString st.line ++ "\n"))
  | .name => on (st.put manner (st.path ++ "\n"))
  | .get => on { st with pattern := st.held }
  | .getAppended =>
    on { st with pattern := ⟨st.pattern.text ++ manner.lineEnd.toString ++ st.held.text, st.held.isEnded⟩ }
  | .hold => on { st with held := st.pattern }
  | .holdAppended =>
    on { st with held := ⟨st.held.text ++ manner.lineEnd.toString ++ st.pattern.text, st.pattern.isEnded⟩ }
  | .exchange => on { st with pattern := st.held, held := st.pattern }
  | .reveal width => on (st.put manner (shownText (width.getD manner.width) st.pattern.text))
  | .print => on (st.putLine manner st.pattern st.pattern.text)
  | .printFirst =>
    let first := ((firstLine? manner.lineEnd st.pattern.text).map (·.1)).getD st.pattern.text
    on (st.put manner (first ++ manner.lineEnd.toString))
  | .replaceChars pairs =>
    let change (c : Char) : Char := (pairs.lookup c).getD c
    on { st with pattern := { st.pattern with text := st.pattern.text.map change } }
  | .empty => on { st with pattern := { st.pattern with text := "" } }
  | _ => on st

/-- What is said if there is no expression that was used before. -/
def noExpression (call : Call) (st : State) : Plan :=
  st.warn call "-e expression #1, char 0: no previous regular expression" (·.finish call 1)

/-- Gives back what was read and not used, and ends the run with a status. -/
def State.quit (call : Call) (manner : Manner) (st : State) (status : Nat) : Plan :=
  let unread (plan : Plan) : Plan := match st.feed with
    | some feed => if feed.fd = 0 && 0 < feed.kept then .unread 0 feed.kept plan else plan
    | none => plan
  unread (st.leaveFile call manner fun st => st.finish call (if status = 0 then st.status else status))

/-- Runs a script from a command on. The fuel bounds the number of commands. -/
def run (call : Call) (manner : Manner) : Nat → Nat → State → Plan
  | 0, _, st => st.finish call st.status
  | fuel + 1, index, st =>
    let cycle (st : State) : Plan := st.settle call manner fun st =>
      readLine call manner
        (fun line isEnded st => run call manner fuel 0 { st with pattern := ⟨line, isEnded⟩, replaced := false })
        (fun st => st.finish call st.status) (st.paths.length + 2) st
    match manner.script.commands[index]? with
    | none => cycle (st.putPattern manner)
    | some command =>
      let asks := command.chosen.asksForLast
      withLast manner asks st fun isLast st =>
        match st.isMeant isLast index command.chosen with
        | none => noExpression call st
        | some (false, st) => match command.action with
          | .block behind => run call manner fuel behind st
          | _ => run call manner fuel (index + 1) st
        | some (true, st) =>
          let on (st : State) : Plan := run call manner fuel (index + 1) st
          match command.action with
          | .next => withLast manner true st fun isLast st =>
            if isLast then cycle (st.putPattern manner)
            else (st.putPattern manner).settle call manner fun st =>
              readLine call manner (fun line isEnded st => on { st with pattern := ⟨line, isEnded⟩ })
                (fun st => st.finish call st.status) (st.paths.length + 2) st
          | .nextAppended => withLast manner true st fun isLast st =>
            if isLast then cycle (st.putPattern manner)
            else st.settle call manner fun st =>
              let front := st.pattern.text ++ manner.lineEnd.toString
              readLine call manner
                (fun line isEnded st => on { st with pattern := ⟨front ++ line, isEnded⟩ })
                (fun st => st.finish call st.status) (st.paths.length + 2) st
          | .quit status =>
            (st.putPattern manner).settle call manner fun st => st.quit call manner status
          | .quitSilently status => st.quit call manner status
          | .readFile path => on { st with later := .file path :: st.later }
          | .readLine path =>
            let take (lines : List (String × Bool)) : Plan := match lines with
              | [] => on { st with readers := (path, []) :: st.readers }
              | (line, isEnded) :: rest =>
                let text := if isEnded then line ++ manner.lineEnd.toString else line
                on { st with later := .text text :: st.later, readers := (path, rest) :: st.readers }
            match st.readers.lookup path with
            | some lines => take lines
            | none => .readPath path fun
              | .error _ => take []
              | .ok bytes =>
                let feed : Feed := ({ fd := 0, lineEnd := manner.lineEnd } : Feed).take (Text.ofByteArray bytes)
                take (feed.ahead.map (·, true) ++ (if feed.part.isEmpty then [] else [(feed.part, false)]))
          | .write path => st.writeTo call manner path st.pattern st.pattern.text on
          | .writeFirst path =>
            let first := ((firstLine? manner.lineEnd st.pattern.text).map (·.1)).getD st.pattern.text
            st.writeTo call manner path {} first on
          | .substitute s => match st.patternOf s.pattern with
            | none => noExpression call st
            | some p =>
              let st := { st with latest := some p }
              match s.apply p st.pattern.text with
              | none => on st
              | some text =>
                let st := { st with pattern := { st.pattern with text }, replaced := true }
                let st := if s.prints then st.putLine manner st.pattern text else st
                match s.output with
                | none => on st
                | some path => st.writeTo call manner path st.pattern text on
          | _ => match act manner index command st with
            | (st, .goOn place) => run call manner fuel place st
            | (st, .endCycle) => cycle st
            | (st, .again) => st.settle call manner fun st => run call manner fuel 0 st

/-! ## The command line -/

/-- The files that a script writes to. -/
def outputsOf (script : Script) : List String :=
  script.commands.toList.filterMap fun c => match c.action with
    | .write path => some path
    | .writeFirst path => some path
    | .substitute s => s.output
    | _ => none

/-- What is said of wrong arguments. -/
def misuse (call : Call) (text : Option String) : Plan :=
  let rest : Plan :=
    .complain "Usage: sed [OPTION]... \x7bscript-only-if-no-other-script\x7d [input-file]...\n\n" (.done 1)
  match text with
  | some text => call.warn text rest
  | none => rest

/-- Goes on with the pieces of a script that options give. -/
def readPieces (call : Call) (next : List Piece → Plan) : List (Char × String) → Nat → List Piece → Plan
  | [], _, done => next done.reverse
  | ('e', text) :: rest, number, done => readPieces call next rest (number + 1) (.argument number text :: done)
  | ('f', path) :: rest, number, done => .readPath path fun
    | .error errno => call.fail ("couldn't open file " ++ path ++ ": " ++ errno.sentence) 4
    | .ok bytes => readPieces call next rest number (.file path (Text.ofByteArray bytes) :: done)
  | _ :: rest, number, done => readPieces call next rest number done

/-- How many commands a script runs at most. -/
def commandLimit : Nat := 100000000

/-- `sed` edits files line by line. -/
def sed (call : Call) : Plan :=
  let options : Options := { flags := "nErsuzP", valued := "efl", attached := "i", long := [("quiet", 'n'),
    ("silent", 'n'), ("expression", 'e'), ("file", 'f'), ("in-place", 'i'), ("line-length", 'l'),
    ("regexp-extended", 'E'), ("separate", 's'), ("unbuffered", 'u'), ("null-data", 'z'),
    ("zero-terminated", 'z'), ("posix", 'P'), ("follow-symlinks", 'P'), ("sandbox", 'P')] }
  match readArguments options call.args {} with
  | .error text => misuse call (some text)
  | .ok said =>
    let given := said.options.filter fun o => o.1 == 'e' || o.1 == 'f'
    let parts : Option (List (Char × String) × List String) := match given, said.operands with
      | [], [] => none
      | [], script :: paths => some ([('e', script)], paths)
      | given, paths => some (given, paths)
    match parts with
    | none => misuse call none
    | some (given, paths) =>
      readPieces call (fun pieces =>
        match Script.ofPieces (said.has 'E' || said.has 'r') pieces with
        | .error (text, status) => call.fail text status
        | .ok script =>
          let manner : Manner := {
            script, quiet := said.has 'n' || script.isQuiet, separate := said.has 's' || said.has 'i'
            inPlace := said.value? 'i', lineEnd := if said.has 'z' then '\x00' else '\n'
            width := ((said.value? 'l').bind decimal?).getD 70 }
          let outputs := (outputsOf script).filter fun path => path != "/dev/stdout" && path != "/dev/stderr"
          .withFiles fun space _ =>
            let tree := outputs.foldl (fun tree path =>
              (Files.writeBytes tree space.cwd (Text.ofOctets path) .empty).toOption.getD tree) space.tree
            (tree, readLine call manner
              (fun line isEnded st => run call manner commandLimit 0 { st with pattern := ⟨line, isEnded⟩ })
              (fun st => st.finish call st.status) (paths.length + 2)
              { paths := if paths.isEmpty then ["-"] else paths }))
        given 1 []

end BatchRunner.Machine.Tool.Edit
