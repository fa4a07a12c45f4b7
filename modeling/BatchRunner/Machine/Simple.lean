import BatchRunner.Machine.JobControl
import BatchRunner.Machine.Line

/-!
# Simple commands

What a shell does with a simple command whose words are expanded: it may be a function, one of the shell's own
commands, or a program.
-/

namespace BatchRunner.Machine

open BatchRunner.Machine.Shell (Context Answer)

/-! ## What a command calls -/

/-- What the words of a command call. -/
structure Called where
  fields : List String
  /-- Whether functions are passed over. -/
  plain : Bool := false
  /-- Whether programs are looked for where a shell without a search path looks. -/
  standard : Bool := false

/-- The words behind `command` and its options; nothing if the options ask for something else than to run them. -/
def behindCommand (standard : Bool) : List String → Option (Bool × List String)
  | [] => none
  | a :: rest => match a.toList with
    | ['-'] => some (standard, a :: rest)
    | ['-', '-'] => if rest.isEmpty then none else some (standard, rest)
    | '-' :: letters => if letters.all (· == 'p') then behindCommand true rest else none
    | _ => some (standard, a :: rest)

/-- What the words of a command call, behind `command` if they start with it. The fuel bounds their number. -/
def calledBy (context : Context) : Nat → Called → Called
  | 0, called => called
  | fuel + 1, called => match called.fields with
    | "command" :: rest =>
      if !called.plain && (context.functions.lookup "command").isSome then called
      else match behindCommand called.standard rest with
        | some (standard, fields) => calledBy context fuel { fields, plain := true, standard }
        | none => called
    | _ => called

/-- What the words of a command call. -/
def called (context : Context) (fields : List String) : Called := calledBy context fields.length { fields }

/-- Whether a command that starts with these words takes the words behind them for assignments. -/
def takesAssignments (context : Context) (fields : List String) : Bool :=
  match (called context fields).fields with
  | name :: _ =>
    ["alias", "export", "local", "readonly"].contains name && (context.functions.lookup name).isNone
  | [] => false

/-- Whether the faults of a command end the shell. -/
def isSpecial (context : Context) : List String → Bool
  | name :: _ => Shell.specialBuiltins.contains name && (context.functions.lookup name).isNone
  | [] => false

/-- The fields of the words of a command, behind those of the words in front of them. -/
def expandWords (tree : Files.Tree) : List Shell.Word → List String → Shell.Expansion (List String)
  | [], done => return done
  | word :: rest, done => do
    let context := (← get).context
    let assigned := if takesAssignments context done then Shell.assignment? word else none
    let fields ← match assigned with
      | some (name, value) => pure [← Shell.expandAssignment name value]
      | none => Shell.expandFields tree word
    expandWords tree rest (done ++ fields)

/-- Makes the assignments of a command: the values that were assigned. They belong to the command if it has a scope of
its own, and are handed to programs if they are to be exported. -/
def assignAll (own exported : Bool) : List (String × Shell.Word) → Shell.Expansion (List (String × String))
  | [] => return []
  | (name, word) :: rest => do
    let value ← Shell.expandValue word
    let state ← get
    let context := if own then state.context.own name else state.context
    match context.assign name value with
    | .error text => throw (.fails text)
    | .ok context =>
      set { state with context := if exported then context.mark name true false else context }
      return (name, value) :: (← assignAll own exported rest)

/-! ## Programs -/

/-- The status of a shell that could not start a program. -/
def failedStart (errno : Os.Errno) : Nat :=
  if [Os.Errno.noEntry, Os.Errno.notDirectory, Os.Errno.nameTooLong, Os.Errno.linkLoop].contains errno then 127
  else 126

/-- Starts the program at the first of some places that holds one. A file that is no program is taken for a script. -/
def startInPlaces (tree : Files.Tree) (start : Start) (name : String) (args : List String) :
    List String → Os.Errno → Except Os.Errno Activity
  | [], fault => .error fault
  | place :: places, fault => match startAt tree start place name args with
    | .ok activity => .ok activity
    | .error errno =>
      if errno = Os.Errno.execFormat then .ok (activityOf tree start "sh" "/bin/sh" (place :: args))
      else if errno = Os.Errno.noEntry ∨ errno = Os.Errno.notDirectory then
        startInPlaces tree start name args places fault
      else startInPlaces tree start name args places errno

/-- The places in which a program may be, by its name and a search path. -/
def placesOf (searchPath name : String) : List String :=
  if name.toList.contains '/' then [name]
  else (searchPath.splitOn ":").map fun d => if d == "" then name else Files.join d name

/-- Starts a program for a shell. -/
def startFor (m : Machine) (p : Process) (context : Context) (pid : Pid) (name : String) (args places : List String) :
    Except Os.Errno Activity :=
  let start : Start := {
    setting := { cwd := context.cwd, vars := context.environment, mask := context.mask }
    pid
    parent := if pid == p.pid then context.parentPid else p.pid }
  startInPlaces m.tree start name args places Os.Errno.noEntry

/-- Makes a process run a program in place of the shell; a fault is told by the command that is being run. -/
def becomeProgram (m : Machine) (p : Process) (context : Context) (running : Option String) (name : String)
    (args places : List String) (work : List Work) : Machine :=
  match startFor m p context p.pid name args places with
  | .ok activity => m.update { p with activity, ignored := p.ignoredBy context, pending := [] }
  | .error errno =>
    let text := { context with running }.complaint (name ++ ": " ++ Shell.cannotRun errno)
    m.quit p context (failedStart errno) text work

/-- Runs a program for a shell, in a process of its own unless nothing else is left to do. -/
def runProgram (m : Machine) (p : Process) (context : Context) (searchPath name : String) (args : List String)
    (standing : Standing) (tail : List Work) : Machine :=
  match Shell.programPath m.tree context searchPath name with
  | .error errno =>
    let text := context.complaint (name ++ ": " ++ Shell.cannotRun errno)
    m.update (p.shell context (saying text ++ .setStatus 127 :: tail))
  | .ok path =>
    let places := (placesOf searchPath name).dropWhile (· != path)
    let context := context.remember name path
    if standing.last && !context.hasTraps then m.becomeProgram p context context.running name args places tail
    else
      let activity (pid : Pid) : Activity := match startFor m p context pid name args places with
        | .ok activity => activity
        | .error errno =>
          let text := context.complaint (name ++ ": " ++ Shell.cannotRun errno)
          .shell { inherited context 0 with status := failedStart errno } (saying text ++ [.exit])
      let (pid, m) := m.spawnFrom p p.descriptors (p.ignoredBy context) activity
      m.update (p.shell context (.await [pid] pid :: tail))

/-! ## Commands of the shell -/

/-- Goes on behind a command of the shell with what it came to, unless the command has ended the shell. -/
def conclude (m : Machine) (pid : Pid) (name : String) (fatal : Bool) (running : Option String) (answer : Answer)
    (tail : List Work) : Machine :=
  match m.process? pid with
  | none => m
  | some p => match p.life with
    | .ended _ => m
    | _ =>
      let context := { answer.context with running }
      if answer.isFault && fatal then m.fail p context answer.errors tail
      else
        m.update (p.shell context
          (saying answer.errors ++ .speak name (Text.toByteArray answer.output) answer.status :: tail))

/-- The script of a file, by its name as the command `.` takes it: its path and its text. -/
def scriptFile (m : Machine) (context : Context) (name : String) : Except String (String × String) :=
  let path := if name.toList.contains '/' then some name
    else (placesOf context.searchPath name).find? fun place =>
      match Files.find m.tree context.cwd (Text.ofOctets place) with
      | .ok (.file _ _) => true
      | _ => false
  match path with
  | none => .error (name ++ ": not found")
  | some path => match Files.readBytes m.tree context.cwd (Text.ofOctets path) with
    | .ok bytes => .ok (path, Text.ofByteArray bytes)
    | .error (.os errno) =>
      if errno = Os.Errno.isDirectory then .ok (path, "") else .error (openFailure .reading path errno)
    | .error _ => .error (openFailure .reading path Os.Errno.noEntry)

/-- A command of the shell that changes what the shell does next, or that has to wait; nothing for any other. -/
def controlCommand? (m : Machine) (p : Process) (context : Context) (fatal : Bool) (standing : Standing)
    (name : String) (args : List String) (tail : List Work) : Option Machine :=
  let here := { context with running := some name }
  let answer (answer : Answer) : Machine := m.conclude p.pid name fatal context.running answer tail
  let work (context : Context) (work : List Work) : Machine := m.update (p.shell context (work ++ tail))
  let replaced (status : Nat) (tail : List Work) : Machine := m.update (p.shell context (.setStatus status :: tail))
  let guarded : List Work := if fatal then [] else [.guard]
  let leaving (goOn : Bool) : Machine := match (args.head?.map Shell.number).getD (.ok 1) with
    | .error text => answer (.fault here text)
    | .ok 0 => answer (.fault here ("Illegal number: " ++ args.headD ""))
    | .ok n =>
      let count := min n (loopDepth context tail)
      replaced 0 (if count = 0 then tail else afterCheck (leaveLoops goOn count) tail)
  match name with
  | "exit" => some <| match args.head?.map Shell.number with
    | none => m.quit p context (context.savedStatus.getD context.status) "" tail
    | some (.ok n) => m.quit p context n "" tail
    | some (.error text) => answer (.fault here text)
  | "return" => some <| match args.head?.map Shell.number with
    | none => replaced context.status (afterCheck (leaveCall none) tail)
    | some (.ok n) => replaced n (afterCheck (leaveCall (some n)) tail)
    | some (.error text) => answer (.fault here text)
  | "break" => some (leaving false)
  | "continue" => some (leaving true)
  | "exec" => some <| match args with
    | [] => replaced 0 tail
    | program :: rest => m.becomeProgram p context (some name) program rest (placesOf context.searchPath program) tail
  | "eval" => some <|
    if args.isEmpty then answer (.silent here 0)
    else
      work here (.script (.ofText (" ".intercalate args) 1 0 []) { tested := standing.tested } (some 0) ::
        .leaveBuiltin context.running :: guarded)
  | "." => some <| match Shell.options "" args with
    | .error text => answer (.fault here text)
    | .ok (_, []) => answer (.silent here 0)
    | .ok (_, file :: _) => match m.scriptFile context file with
      | .error text => answer (.fault here text)
      | .ok (path, text) =>
        work { context with running := some path }
          (.script (.ofText text 1 0 []) {} (some 0) :: .leaveFile context.running :: guarded)
  | "command" => some <| answer <| .ofExcept here do
    let (found, names) ← Shell.options "pvV" args
    let searchPath := if found.any (·.1 == 'p') then Shell.standardPath else context.searchPath
    match (found.filter (·.1 != 'p')).getLast?, names with
    | some (letter, _), program :: _ =>
      let (output, isKnown) := Shell.describe m.tree context searchPath (letter == 'V') program
      return { context := here.lookFor m.tree program, output, status := if isKnown then 0 else 127 }
    | _, _ => return .silent here 0
  | "read" => some <| match Shell.options "p:r" args with
    | .error text => answer (.fault here text)
    | .ok (_, []) => answer (.fault here "arg count")
    | .ok (found, names) => work context [.readLine names (found.any (·.1 == 'r')) [] false]
  | "wait" => some <|
    if args.isEmpty then m.update (p.shell context (.awaitAll :: tail))
    else match waitTargets context args with
      | .error text => m.conclude p.pid name fatal context.running (.fault { context with running := some name } text) tail
      | .ok pids => m.update (p.shell context (.awaitJobs pids 127 :: tail))
  | "jobs" => some <|
    let (context, m) := m.notedJobs context
    m.conclude p.pid name fatal context.running (listJobs { context with running := some name } args) tail
  | "kill" => some <|
    let (m, answer) := m.kill here args
    m.conclude p.pid name fatal context.running answer tail
  | _ => none

/-! ## Running -/

/-- Runs a function of the shell. -/
def callFunction (m : Machine) (p : Process) (context : Context) (f : Shell.Function) (args : List String)
    (standing : Standing) (tail : List Work) : Machine :=
  let inside := { context with args, loops := 0, calls := context.calls + 1, optionOffset := none }
  m.update (p.shell inside (.evaluate f.body { tested := standing.tested } ::
    .leaveFunction context.args context.loops context.optionOffset :: tail))

/-- Runs a command whose words, redirections and assignments are done. -/
def dispatch (m : Machine) (p : Process) (context : Context) (prepared : Prepared) (rest : List Work) : Machine :=
  match prepared.fields with
  | [] => m.update (p.shell context (.setStatus context.scriptStatus :: .restore prepared.saved :: rest))
  | _ =>
    let fatal := isSpecial context prepared.fields
    let call := called context prepared.fields
    -- The redirections of `exec` alone stay.
    let restored := if call.fields == ["exec"] then rest else .restore prepared.saved :: rest
    let tail := if fatal || prepared.assignments.isEmpty then restored else .closeScope :: restored
    match call.fields with
    | [] => m.update (p.shell context tail)
    | name :: args =>
      match if call.plain then none else context.functions.lookup name with
      | some f =>
        if prepared.assignments.isEmpty then
          m.callFunction p context.openScope f args prepared.standing (.closeScope :: tail)
        else m.callFunction p context f args prepared.standing tail
      | none =>
        match m.controlCommand? p context fatal prepared.standing name args tail with
        | some m => m
        | none => match Shell.builtin? m.tree { context with running := some name } name args with
          | some answer => m.conclude p.pid name fatal context.running answer tail
          | none =>
            let searchPath := if call.standard then Shell.standardPath else context.searchPath
            m.runProgram p context searchPath name args prepared.standing tail

/-- Where standard error led before redirections. -/
def oldErrors (p : Process) (saved : List (Fd × Option Endpoint)) : Option Endpoint :=
  match saved.reverse.lookup 2 with
  | some before => before
  | none => p.endpoint? 2

/-- The work that tells of a command before it is run, if the shell is to do so. -/
def trace (p : Process) (context : Context) (prepared : Prepared) : List Work :=
  if !context.hasOption 'x' then []
  else
    let words := prepared.values.map (fun v => v.1 ++ "=" ++ v.2) ++ prepared.fields
    let text := (context.value? "PS4").getD "" ++ " ".intercalate words ++ "\n"
    (oldErrors p prepared.saved).toList.map fun endpoint => .writeTo endpoint (Text.toByteArray text)

end BatchRunner.Machine
