import BatchRunner.Machine.Program

/-!
# Processes

How processes come to be, how they receive signals, and how they end.
-/

namespace BatchRunner.Machine

open BatchRunner.Machine.Shell (Context)

/-! ## Beginning -/

/-- A process that runs a shell with these things known and to do. -/
def Process.shell (p : Process) (context : Context) (work : List Work) : Process :=
  { p with activity := .shell context work }

/-- Adds a process that belongs to another one. -/
def spawnFrom (m : Machine) (p : Process) (descriptors : Descriptors) (ignored : List Nat)
    (activity : Pid → Activity) : Pid × Machine :=
  let pid := m.nextPid
  let child : Process :=
    { pid, parent := some p.pid, descriptors, activity := activity pid, life := .running, ignored, pending := [] }
  (pid, { m with nextPid := pid + 1, processes := m.processes ++ [child] })

/-- The signals that programs ignore that a shell starts: those that it ignores itself. -/
def Process.ignoredBy (p : Process) (context : Context) : List Nat :=
  p.ignored ++ (context.traps.filter fun t => t.2 == "" && t.1 != 0 && !p.ignored.contains t.1).map (·.1)

/-- What a shell within a shell knows at its start; it is still inside the loops of the other one. -/
def inherited (context : Context) (loops : Nat) : Context :=
  { context.withoutTraps with jobs := [], loops }

/-! ## Ending -/

/-- Whether the process that may wait for another one can still do so. -/
def hasParent (m : Machine) (p : Process) : Bool :=
  match p.parent with
  | none => true
  | some parent => match m.process? parent with
    | none => false
    | some q => match q.life with
      | .ended _ => false
      | _ => true

/-- Tells a shell that traps it of the end of a child. -/
def Process.tellOfEnd (p : Process) : Process :=
  match p.activity with
  | .shell context _ =>
    if ((context.trap? 17).filter (· != "")).isSome && !p.pending.contains 17 then
      { p with pending := p.pending ++ [17] }
    else p
  | _ => p

/-- Ends a process. It is kept until it has been waited for, unless nobody can wait for it. -/
def endProcess (m : Machine) (p : Process) (status : WaitStatus) : Machine :=
  let m := m.update (p.ended status)
  let isLost (q : Process) : Bool := q.parent == some p.pid && match q.life with
    | .ended _ => true
    | _ => false
  let m := { m with processes := m.processes.filter fun q => !isLost q }
  match p.parent.bind m.process? with
  | some q => if m.hasParent p then m.update q.tellOfEnd else m.forget p.pid
  | none => if p.parent.isSome then m.forget p.pid else m

/-! ## Signals -/

/-- Sends a signal to a process: it may be ignored, be kept until the shell acts on it, or end the process. -/
def deliver (m : Machine) (p : Process) (signal : Nat) : Machine :=
  let action : Option String := match p.activity with
    | .shell context _ => context.trap? signal
    | _ => none
  match p.life with
  | .ended _ => m
  | _ =>
    if signal = 0 then m
    else if signal = 9 then m.endProcess p (.signalled 9)
    else if signal = 19 then m.update { p with life := .suspended }
    else
      let p := if signal = 18 then { p with life := .running } else p
      if p.ignored.contains signal || action == some "" then m.update p
      else if action.isSome then
        m.update (if p.pending.contains signal then p else { p with pending := p.pending ++ [signal] })
      else if signal = 18 || Os.ignoredByDefault signal then m.update p
      else if Os.stopsByDefault signal then m.update { p with life := .suspended }
      else m.endProcess p (.signalled signal)

/-! ## Status -/

/-- The status that a shell gives to the end of a child. -/
def shellStatus (status : WaitStatus) : Nat :=
  match Termination.ofStatus status with
  | .exited code => code.toNat % 256
  | .signalled signal => 128 + signal.number.toNat

/-- What a shell says of a child that a signal killed. -/
def deathNotice (status : WaitStatus) : List Work :=
  match Termination.ofStatus status with
  | .exited _ => []
  | .signalled signal =>
    if signal.number = 2 ∨ signal.number = 13 then []
    else [.write 2 (Text.toByteArray (signal.description ++ "\n"))]

/-- How a process ended, if it has. -/
def endOf? (m : Machine) (pid : Pid) : Option WaitStatus :=
  match m.process? pid with
  | some p => match p.life with
    | .ended status => some status
    | _ => none
  | none => none

/-- Takes note of the jobs of a shell that have ended. -/
def notedJobs (m : Machine) (context : Context) : Context × Machine :=
  context.jobs.foldl (fun (context, m) job =>
    match job.status, job.pids.getLast? with
    | none, some last =>
      if job.pids.all fun pid => (m.endOf? pid).isSome then
        let status := ((m.endOf? last).map shellStatus).getD 0
        (context.changeJob last fun j => { j with status := some status }, job.pids.foldl forget m)
      else (context, m)
    | _, _ => (context, m)) (context, m)

end BatchRunner.Machine
