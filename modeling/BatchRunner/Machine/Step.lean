import BatchRunner.Machine.Simple

/-!
# Steps of a process

One step does the first piece of what a process has to do, or finds that it has to wait.
-/

namespace BatchRunner.Machine

open BatchRunner.Machine.Shell (Command Context)

/-- The most bytes that a process handles in one step. -/
def blockSize : Nat := 65536

/-! ## Expansions -/

/-- What has to be done to find the commands that are chosen by a text. -/
def choosing (text : String) (standing : Standing) : List (List Shell.Word × Command) → List Work
  | [] => [.setStatus 0]
  | ([], _) :: choices => choosing text standing choices
  | (words, body) :: choices => [.expand (.pattern text words body choices standing) []]

/-- Runs a command whose words are expanded: redirections come first, then assignments. -/
def prepare (m : Machine) (p : Process) (context : Context) (assignments : List (String × Shell.Word))
    (standing : Standing) (fields : List String) (targets : List Target) (rest : List Work) : Machine :=
  let done := redirectAll context targets ⟨[], p, m, none⟩
  let prepared : Prepared := { fields, assignments, saved := done.saved, standing }
  match done.fault with
  | some text =>
    let complaint := context.complaint text
    if isSpecial context fields then
      done.machine.fail done.process context complaint (.restore done.saved :: rest)
    else
      done.machine.update (done.process.shell context
        (saying complaint ++ .restore done.saved :: .setStatus 2 :: rest))
  | none =>
    let work := if assignments.isEmpty then trace done.process context prepared ++ [.dispatch prepared]
      else [.expand (.assignments prepared) []]
    done.machine.update (done.process.shell context (work ++ rest))

/-- How many steps it takes until a process begins that nobody waits for. -/
def backgroundLag : Nat := 100

/-- What a process of a shell has to do that is to run a command and end. -/
def childWork (background : Bool) (command : Command) (standing : Standing) : List Work :=
  let run : List Work := [.evaluate command { tested := standing.tested && !background, last := true }, .exit]
  if background then .lag backgroundLag :: run else run

/-- Runs a command in a process of its own, or in that of the shell if nothing else is left to do there. -/
def enterSubshell (m : Machine) (p : Process) (context : Context) (body : Command) (background : Bool)
    (standing : Standing) (targets : List Target) (rest : List Work) : Machine :=
  if standing.last && !background && !context.hasTraps then
    let done := redirectAll context targets ⟨[], p, m, none⟩
    match done.fault with
    | some text => done.machine.fail done.process context (context.complaint text) (.restore done.saved :: rest)
    | none => done.machine.update (done.process.shell context (.evaluate body standing :: rest))
  else
    let inner := inherited context (loopDepth context rest)
    let start := if background then p.setDescriptor 0 (some .null) else p
    let done := redirectAll context targets ⟨[], start, m, none⟩
    let work : List Work := match done.fault with
      | some text => saying (context.complaint text) ++ [.setStatus 2, .exit]
      | none => childWork background body standing
    let ignored := if background then [2, 3] ++ p.ignored else p.ignored
    let (pid, m) := done.machine.spawnFrom p done.process.descriptors ignored fun _ => .shell inner work
    if background then
      let context := { context.addJob { pids := [pid] } with lastBackground := some pid, status := 0 }
      m.update (p.shell context rest)
    else m.update (p.shell context (.await [pid] pid :: rest))

/-- Carries out an expansion; what follows depends on its result. -/
def expanded (m : Machine) (rest : List Work) : Purpose → Shell.Expansion (Process → Context → Machine)
  | .command _ assignments words redirects standing => do
    let fields ← expandWords m.tree words []
    let targets ← expandTargets (← get).context.documents redirects
    return fun p context => m.prepare p context assignments standing fields targets rest
  | .assignments prepared => do
    let own := !prepared.fields.isEmpty && !isSpecial (← get).context prepared.fields
    if own then modify fun state => { state with context := state.context.openScope }
    let values ← assignAll own (own || (prepared.fields.head? == some "exec" && 1 < prepared.fields.length))
      prepared.assignments
    let prepared := { prepared with values }
    return fun p context => m.update (p.shell context (trace p context prepared ++ .dispatch prepared :: rest))
  | .redirected _ body redirects standing => do
    let targets ← expandTargets (← get).context.documents redirects
    return fun p context =>
      let done := redirectAll context targets ⟨[], p, m, none⟩
      let work : List Work := match done.fault with
        | some text => saying (context.complaint text) ++ [.restore done.saved, .setStatus 2]
        | none => [.evaluate body { tested := standing.tested }, .restore done.saved]
      done.machine.update (done.process.shell context (work ++ rest))
  | .subshell _ body redirects background standing => do
    let targets ← expandTargets (← get).context.documents redirects
    return fun p context => m.enterSubshell p context body background standing targets rest
  | .fields _ name words body standing => do
    let values ← expandWords m.tree words []
    return fun p context =>
      m.update (p.shell context (.setStatus 0 :: .forEach name values body { tested := standing.tested } :: rest))
  | .choice _ word choices standing => do
    let text ← Shell.expandText word
    return fun p context => m.update (p.shell context (choosing text standing choices ++ rest))
  | .pattern text words body choices standing => do
    match words with
    | [] => return fun p context => m.update (p.shell context (choosing text standing choices ++ rest))
    | word :: words =>
      let found := Shell.patternMatches (← Shell.expandPattern word) text.toList
      let work : List Work := if !found then choosing text standing ((words, body) :: choices)
        else match body with
          | .nothing => [.setStatus 0]
          | body => [.evaluate body standing]
      return fun p context => m.update (p.shell context (work ++ rest))

/-- Does an expansion, or first starts the script whose output it needs. -/
def expand (m : Machine) (p : Process) (context : Context) (purpose : Purpose) (outputs : List String)
    (rest : List Work) : Machine :=
  match ((m.expanded rest purpose).run ⟨context, outputs⟩ : Except Shell.Interruption _) with
  | .ok (next, state) => next p state.context
  | .error (.fails text) => m.fail p context (context.complaint text) (.expand purpose outputs :: rest)
  | .error (.needs text line inner) =>
    let (pipe, m) := m.newPipe
    let descriptors := (p.setDescriptor 1 (some (.pipeWriter pipe))).descriptors
    let inner := inherited inner (loopDepth context rest)
    let source := Shell.Source.ofText text line inner.nextDocument inner.aliases
    let work : List Work := [.script source { last := true } (some 0), .exit]
    let (pid, m) := m.spawnFrom p descriptors p.ignored fun _ => .shell inner work
    m.update (p.shell context (.collect (.pipeReader pipe) .empty pid purpose outputs :: rest))

/-! ## Commands -/

/-- Starts the commands of a pipeline, each in a process of its own that reads what the one before it writes. -/
def startPipeline (p : Process) (inner : Context) (background : Bool) (standing : Standing) :
    List Command → Option Endpoint → List Pid → Machine → List Pid × Machine
  | [], _, pids, m => (pids.reverse, m)
  | command :: commands, input, pids, m =>
    let p1 := match input with
      | some endpoint => p.setDescriptor 0 (some endpoint)
      | none => if background then p.setDescriptor 0 (some .null) else p
    let (pipe, m) := if commands.isEmpty then (0, m) else m.newPipe
    let p2 := if commands.isEmpty then p1 else p1.setDescriptor 1 (some (.pipeWriter pipe))
    let ignored := if background then [2, 3] ++ p.ignored else p.ignored
    let work := childWork background command standing
    let (pid, m) := m.spawnFrom p p2.descriptors ignored fun _ => .shell inner work
    startPipeline p inner background standing commands (some (.pipeReader pipe)) (pid :: pids) m

/-- Runs a command, behind which other work is left. -/
def evaluate (m : Machine) (p : Process) (context : Context) (standing : Standing) (rest : List Work) :
    Command → Machine
  | .nothing => m.update (p.shell context rest)
  | .simple line assignments words redirects =>
    m.update (p.shell { context with line, scriptStatus := 0 }
      (.expand (.command line assignments words redirects standing) [] :: .finish true standing :: rest))
  | .subshell line body redirects =>
    m.update (p.shell { context with line }
      (.expand (.subshell line body redirects false standing) [] :: .finish true standing :: rest))
  | .background line body redirects =>
    m.update (p.shell { context with line }
      (.expand (.subshell line body redirects true standing) [] :: .finish true standing :: rest))
  | .redirected line body redirects =>
    m.update (p.shell { context with line }
      (.expand (.redirected line body redirects standing) [] :: .finish false standing :: rest))
  | .sequence first second =>
    m.update (p.shell context (.evaluate first { tested := standing.tested } :: .evaluate second standing :: rest))
  | .both first second =>
    m.update (p.shell context (.evaluate first { tested := true } :: .commandIf true second standing :: rest))
  | .either first second =>
    m.update (p.shell context (.evaluate first { tested := true } :: .commandIf false second standing :: rest))
  | .negate body => m.update (p.shell context (.evaluate body { tested := true } :: .negate :: rest))
  | .choose test success failure =>
    m.update (p.shell context (.evaluate test { tested := true } :: .choose success failure standing :: rest))
  | .repeated u test body =>
    let standing : Standing := { tested := standing.tested }
    m.update (p.shell context (.evaluate test { tested := true } :: .loop u test body standing 0 :: rest))
  | .forEach line name words body =>
    m.update (p.shell { context with line } (.expand (.fields line name words body standing) [] :: rest))
  | .select line word choices =>
    m.update (p.shell { context with line } (.expand (.choice line word choices standing) [] :: rest))
  | .define line name body =>
    let functions := (name, ⟨line, body⟩) :: context.functions.filter (·.1 != name)
    m.update (p.shell { context with functions, status := 0 } rest)
  | .pipeline background commands =>
    let inner := inherited context (loopDepth context rest)
    let (pids, m) := startPipeline p inner background standing commands none [] m
    let last := (pids.getLast?).getD 0
    let finish : Work := .finish true standing
    if background then
      let context := { context.addJob { pids } with lastBackground := some last, status := 0 }
      m.update (p.shell context (finish :: rest))
    else m.update (p.shell context (.await pids last :: finish :: rest))

/-- The next line of a script. -/
def nextCommand (m : Machine) (p : Process) (context : Context) (source : Shell.Source) (standing : Standing)
    (status : Option Nat) (rest : List Work) : Machine :=
  let source := { source with
    aliases := context.aliases, nextDocument := context.nextDocument, documents := [] }
  match Shell.nextLine source with
  | .error misprint =>
    let context := { context with line := misprint.line }
    m.fail p context (context.complaint ("Syntax error: " ++ misprint.text)) rest
  | .ok (command, left) =>
    let context := { context with
      documents := left.documents ++ context.documents, nextDocument := left.nextDocument }
    match command with
    | none => m.update (p.shell context (.setStatus (status.getD context.status) :: rest))
    | some .nothing => m.update (p.shell context (.script left standing (some (status.getD context.status)) :: rest))
    | some command =>
      let here : Standing := { standing with last := standing.last && left.isDone }
      let work : List Work :=
        if context.hasOption 'n' then [] else [.evaluate command here]
      m.update (p.shell context (work ++ .script left standing none :: rest))

/-! ## Traps -/

/-- Whether some work is such that signals are acted on before it. -/
def Work.heedsSignals : Work → Bool
  | .evaluate _ _ => true
  | .finish _ _ => true
  | _ => false

/-- The least signal that a shell has still to act on, with its action. -/
def pendingTrap? (p : Process) (context : Context) : Option (Nat × String) :=
  p.pending.min?.map fun signal => (signal, (context.trap? signal).getD "")

/-- Acts on a signal before other work. -/
def runTrap (m : Machine) (p : Process) (context : Context) (signal : Nat) (action : String) (work : List Work) :
    Machine :=
  let p := { p with pending := p.pending.filter (· != signal) }
  let status := context.savedStatus.getD context.status
  m.update (p.shell { context with savedStatus := some status }
    (.script (.ofText action 1 0 []) {} (some 0) :: .leaveTrap status context.savedStatus :: work))

/-! ## Steps of a shell -/

/-- Writes bytes to an endpoint for a shell; `failure` tells the work for what cannot be written. -/
def writeFor (m : Machine) (p : Process) (context : Context) (endpoint : Option Endpoint) (bytes : ByteArray)
    (again : ByteArray → Work) (failure : List Work) (rest : List Work) : Machine × Bool :=
  match endpoint with
  | none => (m.update (p.shell context (failure ++ rest)), true)
  | some endpoint => match m.writeEndpoint endpoint bytes with
    | (.done left, m) => (m.update (p.shell context (if left.isEmpty then rest else again left :: rest)), true)
    | (.wait, m) => (m, false)
    | (.failed _, m) => (m.update (p.shell context (failure ++ rest)), true)
    | (.broken, m) =>
      if (p.ignoredBy context).contains 13 then (m.update (p.shell context (failure ++ rest)), true)
      else (m.endProcess p (.signalled 13), true)

/-- What a shell does about the first processes that have ended of those that it waits for. -/
def awaited (m : Machine) (p : Process) (context : Context) (pids : List Pid) (chosen : Pid) (rest : List Work) :
    Machine × Bool :=
  match pids.findSome? fun pid => (m.endOf? pid).map (pid, ·) with
  | some (pid, status) =>
    let context := if pid == chosen then { context with status := shellStatus status } else context
    let left := pids.filter (· != pid)
    let m := m.forget pid
    let (context, m) := if left.isEmpty then m.notedJobs context else (context, m)
    let more : List Work := if left.isEmpty then rest else .await left chosen :: rest
    (m.update (p.shell context (deathNotice status ++ more)), true)
  | none =>
    if pids.all fun pid => (m.process? pid).isNone then (m.update (p.shell context rest), true) else (m, false)

/-- The status of a wait that a signal has ended. -/
def interruptedWait? (p : Process) : Option Nat := p.pending.min?.map (128 + ·)

/-- What a shell does about the jobs that it waits for. -/
def awaitedJobs (m : Machine) (p : Process) (context : Context) (pids : List Pid) (status : Nat) (rest : List Work) :
    Machine × Bool :=
  match pids with
  | [] => (m.update (p.shell context (.setStatus status :: rest)), true)
  | pid :: pids => match context.job? pid with
    | none => (m.update (p.shell context (.awaitJobs pids status :: rest)), true)
    | some job => match job.status with
      | some status =>
        let context := context.changeJob pid fun j => { j with waited := true }
        (m.update (p.shell context (.awaitJobs pids status :: rest)), true)
      | none =>
        match interruptedWait? p with
        | some status => (m.update (p.shell context (.setStatus status :: rest)), true)
        | none =>
          let ends := job.pids.filterMap m.endOf?
          if ends.length < job.pids.length then (m, false)
          else
            let (context, m) := m.notedJobs context
            (m.update (p.shell context (ends.flatMap deathNotice ++ .awaitJobs (pid :: pids) status :: rest)), true)

/-- Reads a character of a line that goes into variables. -/
def readCharacter (m : Machine) (p : Process) (context : Context) (names : List String) (plain : Bool)
    (chars : List (Char × Bool)) (quoting : Bool) (rest : List Work) : Machine × Bool :=
  let finish (m : Machine) (status : Nat) : Machine × Bool :=
    match Line.assign context names chars.reverse with
    | .ok context => (m.update (p.shell context (.setStatus status :: rest)), true)
    | .error text =>
      let complaint := { context with running := some "read" }.complaint text
      (m.update (p.shell context (saying complaint ++ .setStatus 2 :: rest)), true)
  let goOn (m : Machine) (chars : List (Char × Bool)) (quoting : Bool) : Machine × Bool :=
    (m.update (p.shell context (.readLine names plain chars quoting :: rest)), true)
  match p.endpoint? 0 with
  | none => finish m 1
  | some endpoint => match m.readEndpoint endpoint 1 with
    | (.wait, m) => if p.pending.isEmpty then (m, false) else finish m 1
    | (.done bytes, m) => match bytes.toList.head? with
      | none => finish m 1
      | some b =>
        let c := Char.ofNat b.toNat
        if c == '\x00' then goOn m chars quoting
        else if quoting then goOn m ((c, true) :: chars) false
        else if c == '\\' && !plain then goOn m chars true
        else if c == '\n' then finish m 0
        else goOn m ((c, false) :: chars) false
    | (_, m) => finish m 1

/-- One step of a shell, and whether it did anything. -/
def stepShell (m : Machine) (p : Process) (context : Context) (work : List Work) : Machine × Bool :=
  let go (context : Context) (work : List Work) : Machine × Bool := (m.update (p.shell context work), true)
  match work with
  | [] => (m.endProcess p (.exited context.status), true)
  | .lag steps :: rest => match steps with
    | 0 => go context rest
    | steps + 1 => go context (.lag steps :: rest)
  | .evaluate command standing :: rest => (m.evaluate p context standing rest command, true)
  | .finish checked standing :: rest =>
    if checked && !standing.tested && context.hasOption 'e' && context.status != 0 then
      (m.quit p context context.status "" rest, true)
    else go context rest
  | .commandIf succeeded command standing :: rest =>
    go context (if (context.status == 0) == succeeded then .evaluate command standing :: rest else rest)
  | .negate :: rest => go { context with status := if context.status = 0 then 1 else 0 } rest
  | .choose success failure standing :: rest =>
    if context.status = 0 then go context (.evaluate success standing :: rest)
    else match failure with
      | some failure => go context (.evaluate failure standing :: rest)
      | none => go { context with status := 0 } rest
  | .loop untilSuccess test body standing status :: rest =>
    if (context.status == 0) != untilSuccess then
      go context (.evaluate body standing :: .again untilSuccess test body standing :: rest)
    else go { context with status } rest
  | .again untilSuccess test body standing :: rest =>
    go context (.evaluate test { tested := true } :: .loop untilSuccess test body standing context.status :: rest)
  | .forEach name values body standing :: rest => match values with
    | [] => go context rest
    | value :: values => match context.assign name value with
      | .error text => (m.fail p context (context.complaint text) rest, true)
      | .ok context => go context (.evaluate body standing :: .forEach name values body standing :: rest)
  | .expand purpose outputs :: rest => (m.expand p context purpose outputs rest, true)
  | .collect source done pid purpose outputs :: rest =>
    match m.readEndpoint source blockSize with
    | (.wait, m) => (m, false)
    | (.done block, m) =>
      if !block.isEmpty then (m.update (p.shell context (.collect source (done ++ block) pid purpose outputs :: rest)), true)
      else match m.endOf? pid with
        | none => (m, false)
        | some status =>
          let text := ((Text.ofByteArray done).toList.filter (· != '\x00')).reverse.dropWhile (· == '\n') |>.reverse
          let context := { context with scriptStatus := shellStatus status }
          let work := deathNotice status ++ .expand purpose (outputs ++ [String.ofList text]) :: rest
          ((m.forget pid).update (p.shell context work), true)
    | (_, m) => (m.update (p.shell context (.expand purpose (outputs ++ [""]) :: rest)), true)
  | .dispatch prepared :: rest => (m.dispatch p context prepared rest, true)
  | .restore saved :: rest => (m.update ((p.restored saved).shell context rest), true)
  | .closeScope :: rest => go context.closeScope rest
  | .leaveFunction args loops optionOffset :: rest =>
    go { context with args, loops, optionOffset, calls := context.calls - 1 } rest
  | .leaveFile running :: rest => go { context with running } rest
  | .leaveBuiltin running :: rest => go { context with running } rest
  | .guard :: rest => go context rest
  | .script source standing status :: rest => (m.nextCommand p context source standing status rest, true)
  | .leaveTrap status savedStatus :: rest => go { context with status, savedStatus } rest
  | .leaveExitTrap :: _ => (m.endProcess p (.exited (context.savedStatus.getD context.status)), true)
  | .setStatus status :: rest => go { context with status } rest
  | .write fd bytes :: rest => m.writeFor p context (p.endpoint? fd) bytes (.write fd) [] rest
  | .writeTo endpoint bytes :: rest => m.writeFor p context (some endpoint) bytes (.writeTo endpoint) [] rest
  | .speak command bytes status :: rest =>
    if bytes.isEmpty then go { context with status } rest
    else
      let complaint := { context with running := some command }.complaint (command ++ ": I/O error")
      m.writeFor p { context with status } (p.endpoint? 1) bytes (.speak command · status)
        (saying complaint ++ [.setStatus (status ||| 1)]) rest
  | .readLine names plain chars quoting :: rest => m.readCharacter p context names plain chars quoting rest
  | .await pids chosen :: rest => m.awaited p context pids chosen rest
  | .awaitJobs pids status :: rest => m.awaitedJobs p context pids status rest
  | .awaitAll :: rest =>
    let (context, m) := m.notedJobs context
    if context.jobs.all (·.status.isSome) then
      let jobs := context.jobs.map fun j => { j with waited := true }
      (m.update (p.shell { context with jobs, status := 0 } rest), true)
    else match interruptedWait? p with
      | some status => (m.update (p.shell { context with status } rest), true)
      | none => (m.update (p.shell context work), false)
  | .readScript done :: rest => match p.endpoint? 0 with
    | none => go context (.exit :: rest)
    | some endpoint => match m.readEndpoint endpoint blockSize with
      | (.wait, m) => (m, false)
      | (.done block, m) =>
        if block.isEmpty then
          let source := Shell.Source.ofText (Text.ofByteArray done) 1 0 []
          (m.update (p.shell context [.script source {} (some 0), .exit]), true)
        else (m.update (p.shell context (.readScript (done ++ block) :: rest)), true)
      | (_, m) => (m.update (p.shell context [.exit]), true)
  | .exit :: rest => (m.endShell p context rest, true)

/-! ## Steps of a program -/

/-- The least descriptor that a process does not have, above those of its standard streams. -/
def freeDescriptor (descriptors : Descriptors) : Fd :=
  ((List.range (descriptors.length + 1)).map (· + 3)).find? (fun fd => (descriptors.lookup fd).isNone) |>.getD 3

/-- One step of a program, and whether it did anything. -/
def stepProgram (m : Machine) (p : Process) (setting : Setting) (plan : Plan) : Machine × Bool :=
  let go (m : Machine) (plan : Plan) : Machine × Bool := (m.update { p with activity := .program setting plan }, true)
  match plan with
  | .done status => (m.endProcess p (.exited status), true)
  | .abort signal => (m.deliver { p with activity := .program setting (.done 0) } signal, true)
  | .write fd bytes next =>
    if bytes.isEmpty then go m (next none)
    else match p.endpoint? fd with
      | none => go m (next (some Os.Errno.badDescriptor))
      | some endpoint => match m.writeEndpoint endpoint bytes with
        | (.done left, m) => go m (if left.isEmpty then next none else .write fd left next)
        | (.wait, m) => (m, false)
        | (.failed errno, m) => go m (next (some errno))
        | (.broken, m) =>
          if p.ignored.contains 13 then go m (next (some Os.Errno.brokenPipe))
          else (m.endProcess p (.signalled 13), true)
  | .read fd count next => match p.endpoint? fd with
    | none => go m (next (.error Os.Errno.badDescriptor))
    | some endpoint => match m.readEndpoint endpoint count with
      | (.done bytes, m) => go m (next (.ok bytes))
      | (.wait, m) => (m, false)
      | (.failed errno, m) => go m (next (.error errno))
      | (.broken, m) => go m (next (.error Os.Errno.brokenPipe))
  | .unread fd count next => match p.endpoint? fd with
    | none => go m next
    | some endpoint => go (m.unread endpoint count) next
  | .measure fd next =>
    let size : Option Nat := match p.endpoint? fd with
      | some (.file number) => (m.opened[number]?).map fun file => (m.fileContent file).size
      | _ => none
    go m (next size)
  | .openFile path next =>
    match m.openPath setting.cwd setting.mask p.descriptors .reading (Text.ofOctets path) with
    | .error errno => go m (next (.error errno))
    | .ok (endpoint, m) =>
      let fd := freeDescriptor p.descriptors
      let p := p.setDescriptor fd (some endpoint)
      (m.update { p with activity := .program setting (next (.ok fd)) }, true)
  | .close fd next => (m.update { p.setDescriptor fd none with activity := .program setting next }, true)
  | .withFiles act =>
    let (tree, plan) := act ⟨m.tree, setting.cwd⟩ setting.mask
    go { m with tree } plan
  | .sleep nanoseconds next =>
    (m.update { p with activity := .sleeping setting (m.clock + nanoseconds) next }, true)
  | .become name args vars failure =>
    let start : Start := { setting := { setting with vars }, pid := p.pid, parent := p.parent.getD 1 }
    match startByName m.tree start name args with
    | .error errno => go m (failure errno)
    | .ok activity => (m.update { p with activity }, true)
  | .run name args vars limits next =>
    let start : Start := { setting := { setting with vars }, pid := m.nextPid, parent := p.pid }
    match startByName m.tree start name args with
    | .error errno => go m (next (.error errno))
    | .ok activity =>
      let (pid, m) := m.spawnFrom p p.descriptors p.ignored fun _ => activity
      (m.update { p with activity := .waiting setting pid m.clock limits false next }, true)
  | .pipe next =>
    let (pipe, m) := m.newPipe
    let reader := freeDescriptor p.descriptors
    let p := p.setDescriptor reader (some (.pipeReader pipe))
    let writer := freeDescriptor p.descriptors
    let p := p.setDescriptor writer (some (.pipeWriter pipe))
    (m.update { p with activity := .program setting (next reader writer) }, true)
  | .start name args vars fd source next =>
    let start : Start := { setting := { setting with vars }, pid := m.nextPid, parent := p.pid }
    match startByName m.tree start name args with
    | .error errno => go m (next (.error errno))
    | .ok activity =>
      let moved := p.setDescriptor fd (p.endpoint? source)
      let (pid, m) := m.spawnFrom p (moved.descriptors.filter (·.1 < 3)) p.ignored fun _ => activity
      go m (next (.ok pid))
  | .await pid next =>
    let next (result : Except Os.Errno (WaitStatus × Bool)) : Plan := next (result.map (·.1))
    (m.update { p with activity := .waiting setting pid m.clock [] false next }, true)

/-- The processes that a process has started, and those that they have started. -/
def offspring (m : Machine) (pid : Pid) : List Pid :=
  m.processes.foldl (fun pids p => if p.parent.any fun q => q = pid || pids.contains q then pids ++ [p.pid] else pids) []

/-- What a process does that has waited for another one for so long. -/
def reachLimit (m : Machine) (p : Process) (pid : Pid) (limit : Limit) : Machine :=
  let reached := if limit.everybody then m.offspring p.pid else [pid]
  let m := reached.foldl (fun m q => match m.process? q with
    | some child => m.deliver child limit.signal
    | none => m) m
  if limit.everybody && limit.signal = 9 then m.endProcess p (.signalled 9) else m

/-- One step of a running process, and whether it did anything. -/
def step (m : Machine) (p : Process) : Machine × Bool :=
  match p.activity with
  | .nothing => (m, false)
  | .program setting plan => m.stepProgram p setting plan
  | .sleeping setting time plan =>
    if time ≤ m.clock then (m.update { p with activity := .program setting plan }, true) else (m, false)
  | .waiting setting pid since limits late next =>
    let go (m : Machine) (result : Except Os.Errno (WaitStatus × Bool)) : Machine × Bool :=
      (m.update { p with activity := .program setting (next result) }, true)
    match m.endOf? pid with
    | some status => go (m.forget pid) (.ok (status, late))
    | none => match m.process? pid, limits with
      | none, _ => go m (.error Os.Errno.noChild)
      | some _, limit :: limits =>
        if since + limit.nanoseconds ≤ m.clock then
          let p := { p with activity := .waiting setting pid since limits true next }
          ((m.update p).reachLimit p pid limit, true)
        else (m, false)
      | some _, [] => (m, false)
  | .shell context work =>
    let heeds := (work.head?.map (·.heedsSignals)).getD false
    match if heeds then pendingTrap? p context else none with
    | some (signal, action) => (m.runTrap p context signal action work, true)
    | none => m.stepShell p context work

end BatchRunner.Machine
