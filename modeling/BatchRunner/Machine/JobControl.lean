import BatchRunner.Machine.Shell.Builtin
import BatchRunner.Machine.Unwinding

/-!
# Commands about processes

The commands of the shell that send signals to processes, wait for them and list them.
-/

namespace BatchRunner.Machine

open BatchRunner.Machine.Shell (Context Answer Job)

/-! ## Sending signals -/

/-- What the shell says of a `kill` command that it does not understand. -/
def killUsage : String :=
  "Usage: kill [-s sigspec | -signum | -sigspec] [pid | job]... or\nkill -l [exitstatus]"

/-- What a `kill` command asks for. -/
inductive KillCall where
  /-- The names of signals, or of one. -/
  | list (args : List String)
  | send (signal : Nat) (targets : List String)

/-- What a `kill` command asks for, by its arguments. -/
def KillCall.ofArgs (args : List String) : Except String KillCall := do
  match args with
  | [] => throw killUsage
  | first :: rest =>
    let named := match first.toList with
      | '-' :: name => Shell.signal? 1 (String.ofList name)
      | _ => none
    match named with
    | some signal => if rest.isEmpty then throw killUsage else return .send signal rest
    | none =>
      let (found, targets) ← if first.startsWith "-" then Shell.options "ls:" args else pure ([], args)
      let chosen := found.filter (·.1 == 's')
      let signals ← chosen.mapM fun o => match Shell.signal? 1 o.2 with
        | some signal => Except.ok signal
        | none => Except.error ("invalid signal number or name: " ++ o.2)
      if found.any (·.1 == 'l') then
        if chosen.isEmpty then return .list targets else throw killUsage
      else if targets.isEmpty then throw killUsage
      else return .send (signals.getLast?.getD 15) targets

/-- The names of all signals, or of the one that a number or a status stands for. -/
def signalNames : List String → Except String String
  | [] => .ok ("0\n" ++ String.join ((List.range Shell.lastSignal).map fun n => Shell.signalName (n + 1) ++ "\n"))
  | a :: _ => do
    let n ← Shell.number a
    let n := if 128 < n then n - 128 else n
    if 0 < n ∧ n ≤ Shell.lastSignal then return Shell.signalName n ++ "\n"
    else throw ("invalid signal number or exit status: " ++ a)

/-- The job that a text names. -/
def jobNamed? (context : Context) (name : String) : Option Job :=
  match name.toList with
  | ['%'] => context.jobs.head?
  | ['%', '%'] => context.jobs.head?
  | ['%', '+'] => context.jobs.head?
  | ['%', '-'] => context.jobs[1]?
  | '%' :: digits => match (Shell.number (String.ofList digits)).toOption with
    | some n => if n = 0 then none else context.jobs.reverse[n - 1]?
    | none => none
  | _ => none

/-- The process that a target names; nothing for one that cannot be there. -/
def killTarget (context : Context) (target : String) : Except String (Option Pid) :=
  if target.startsWith "%" then
    if (jobNamed? context target).isSome then .ok none else .error ("No such job: " ++ target)
  else match target.toList with
    | '-' :: digits => (Shell.number (String.ofList digits)).map fun _ => none
    | _ => (Shell.number target).map some

/-- Sends a signal to targets in order. -/
def sendAll (context : Context) (signal : Nat) : List String → Machine → Answer → Machine × Answer
  | [], m, answer => (m, answer)
  | target :: rest, m, answer => match killTarget context target with
    | .error text =>
      (m, { answer with errors := answer.errors ++ context.complaint text, status := 2, isFault := true })
    | .ok pid => match pid.bind m.process? with
      | some q => sendAll context signal rest (m.deliver q signal) answer
      | none =>
        let text := context.complaint "No such process\n"
        sendAll context signal rest m { answer with errors := answer.errors ++ text, status := 1 }

/-- `kill`. -/
def kill (m : Machine) (context : Context) (args : List String) : Machine × Answer :=
  match KillCall.ofArgs args with
  | .error text => (m, .fault context text)
  | .ok (.list args) => (m, .ofExcept context ((signalNames args).map fun output => { context, output }))
  | .ok (.send signal targets) => sendAll context signal targets m (.silent context 0)

/-! ## Jobs -/

/-- How the state of a job is told. -/
def jobState (job : Job) : String :=
  match job.status with
  | none => "Running"
  | some 0 => "Done"
  | some n => if 128 < n then Os.describeSignal (n - 128) else "Done(" ++ toString n ++ ")"

/-- How many columns the state of a job takes. -/
def jobColumns : Nat := 33

/-- How `jobs` tells of a job. -/
inductive JobForm where
  | plain
  | withNumber
  | numberOnly
  deriving DecidableEq, Repr

/-- A job as `jobs` tells of it; the first of all jobs and the one behind it have marks. -/
def jobLine (form : JobForm) (jobs : List Job) (job : Job) (number : Nat) : String :=
  let last := job.pids.getLast?
  let isAt (i : Nat) : Bool := (jobs[i]?.map (·.pids.getLast?)) == some last
  let pid := toString (job.pids.headD 0)
  if form == .numberOnly then pid ++ "\n"
  else
    let mark := if isAt 0 then "+" else if isAt 1 then "-" else " "
    let text := "[" ++ toString number ++ "] " ++ mark ++ " " ++
      (if form == .withNumber then pid ++ " " else "") ++ jobState job
    text ++ String.ofList (List.replicate (jobColumns - text.length) ' ') ++ "\n"

/-- Tells of jobs, each with its number; one that has ended is forgotten then. -/
def tellJobs (form : JobForm) : List (Job × Nat) → Answer → Answer
  | [], answer => answer
  | (job, number) :: rest, answer =>
    let jobs := answer.context.jobs
    let left := if job.status.isSome then jobs.filter fun j => j.pids.getLast? != job.pids.getLast? else jobs
    tellJobs form rest { answer with
      context := { answer.context with jobs := left }
      output := answer.output ++ jobLine form jobs job number }

/-- `jobs`. -/
def listJobs (context : Context) (args : List String) : Answer :=
  .ofExcept context do
    let (found, names) ← Shell.options "lp" args
    let form := match found.getLast?.map (·.1) with
      | some 'l' => JobForm.withNumber
      | some _ => .numberOnly
      | none => .plain
    let count := context.jobs.length
    let numbered := context.jobs.zipIdx.map fun (job, i) => (job, count - i)
    let chosen ← if names.isEmpty then pure numbered
      else names.mapM fun name => match jobNamed? context name with
        | some job => match numbered.find? fun n => n.1.pids == job.pids with
          | some entry => Except.ok entry
          | none => Except.error ("No such job: " ++ name)
        | none => Except.error ("No such job: " ++ name)
    return tellJobs form chosen (.silent context 0)

/-! ## Waiting -/

/-- The processes that arguments of `wait` stand for; the number zero stands for a job that is not there. -/
def waitTargets (context : Context) : List String → Except String (List Pid)
  | [] => .ok []
  | a :: rest => do
    let pid ← if a.startsWith "%" then match jobNamed? context a with
        | some job => pure ((job.pids.getLast?).getD 0)
        | none => throw ("No such job: " ++ a)
      else Shell.number a
    return pid :: (← waitTargets context rest)

end BatchRunner.Machine
