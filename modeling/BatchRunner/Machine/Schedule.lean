import BatchRunner.Machine.Step

/-!
# Letting processes run

Processes run while the control program waits. In each pass every process takes one step; if none of them
can, the clock goes on to the earliest time at which a sleeper wakes. If nobody sleeps either, nothing will
ever happen again.
-/

namespace BatchRunner.Machine

/-- One step of the process with a number, if it runs. -/
def stepOf (m : Machine) (pid : Pid) : Machine × Bool :=
  match m.process? pid with
  | some p => if p.life = .running then m.step p else (m, false)
  | none => (m, false)

/-- One step of each of some processes, and whether any of them did anything. -/
def pass (m : Machine) : List Pid → Machine × Bool
  | [] => (m, false)
  | pid :: pids =>
    let (m, moved) := m.stepOf pid
    let (m, others) := m.pass pids
    (m, moved || others)

/-- The time at which a process wakes, if it sleeps or waits for only so long. -/
def Process.wakesAt? (p : Process) : Option Nat :=
  match p.life, p.activity with
  | .running, .sleeping _ time _ => some time
  | .running, .waiting _ _ since (limit :: _) _ _ => some (since + limit.nanoseconds)
  | _, _ => none

/-- The earliest time at which a process wakes. -/
def nextWake (m : Machine) : Option Nat := (m.processes.filterMap (·.wakesAt?)).min?

/-- Lets the processes run until a condition holds; nothing if it never will. The fuel bounds the number of
passes. -/
def runUntil (ready : Machine → Bool) : Nat → Machine → Option Machine
  | 0, _ => none
  | fuel + 1, m =>
    if ready m then some m
    else match m.pass (m.processes.map (·.pid)) with
      | (m, true) => runUntil ready fuel m
      | (m, false) => match m.nextWake with
        | some time => runUntil ready fuel { m with clock := time }
        | none => none

/-- The most passes made while the control program waits once. -/
def passLimit : Nat := 4000000

/-- Whether a process has ended. -/
def hasEnded (m : Machine) (pid : Pid) : Bool :=
  match m.process? pid with
  | some p => match p.life with
    | .ended _ => true
    | _ => false
  | none => true

end BatchRunner.Machine
