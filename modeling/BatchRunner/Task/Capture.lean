import BatchRunner.Host
import BatchRunner.Task.Halt

/-!
# Capturing output

Reading the pipes of a process: either what is there now, or everything up to the end. A read that was
interrupted is made again; one that would have to wait ends the reading of what is there now.
-/

namespace BatchRunner.Capture

/-- The most bytes asked for in one read. -/
def chunkSize : Nat := 16384

/-- How the reading of what is there now ended. -/
inductive Drained where
  /-- Nothing more is there, but more may come. -/
  | pending
  /-- The end was reached. -/
  | closed
  deriving DecidableEq, Repr, Inhabited

/-- A reading that came to an end: how, the bytes so far, and the world after it. -/
abbrev Reading (ε W : Type) := Except Os.Fault ε × ByteArray × W

variable {W : Type}

/-- Reads what is there now behind the bytes so far. The fuel bounds the number of reads. -/
def drain (host : Host W) (fd : Fd) : Nat → ByteArray → W → Except Halt (Reading Drained W)
  | 0, _, _ => .error .outOfFuel
  | fuel + 1, bytes, w =>
    match host.read fd chunkSize w with
    | (.never, _) => .error .stalled
    | (.answer chunk, w) =>
      if chunk.isEmpty then .ok (.ok .closed, bytes, w)
      else drain host fd fuel (bytes ++ chunk) w
    | (.fault cause, w) =>
      if cause.isInterruption then drain host fd fuel bytes w
      else if cause.wouldBlock then .ok (.ok .pending, bytes, w)
      else .ok (.error cause, bytes, w)

/-- Reads up to the end behind the bytes so far. The fuel bounds the number of reads. -/
def readToEnd (host : Host W) (fd : Fd) : Nat → ByteArray → W → Except Halt (Reading Unit W)
  | 0, _, _ => .error .outOfFuel
  | fuel + 1, bytes, w =>
    match host.read fd chunkSize w with
    | (.never, _) => .error .stalled
    | (.answer chunk, w) =>
      if chunk.isEmpty then .ok (.ok (), bytes, w)
      else readToEnd host fd fuel (bytes ++ chunk) w
    | (.fault cause, w) =>
      if cause.isInterruption then readToEnd host fd fuel bytes w
      else .ok (.error cause, bytes, w)

/-- Lets reads from a descriptor wait, and reads it up to the end. -/
def readBlocking (host : Host W) (fd : Fd) (fuel : Nat) (bytes : ByteArray) (w : W) : Except Halt (Reading Unit W) :=
  match host.setBlocking fd w with
  | (.error cause, w) => .ok (.error cause, bytes, w)
  | (.ok (), w) => readToEnd host fd fuel bytes w

/-- The bytes captured from the two streams of a process. -/
structure Streams where
  output : ByteArray
  errors : ByteArray
  deriving Inhabited

/-- A reading of both streams that came to an end. -/
abbrev StreamsReading (ε W : Type) := Except Os.Fault ε × Streams × W

/-- Reads what is there now from a pipe. One that is closed has ended. -/
def drainOpen (host : Host W) (pipe : Option Fd) (fuel : Nat) (bytes : ByteArray) (w : W) :
    Except Halt (Reading Drained W) :=
  match pipe with
  | none => .ok (.ok .closed, bytes, w)
  | some fd => drain host fd fuel bytes w

/-- Reads what is there now from both pipes of a process, and tells whether standard output has ended. A
fault of the first keeps the second from being read. -/
def drainBoth (host : Host W) (fuel : Nat) (child : Child) (s : Streams) (w : W) :
    Except Halt (StreamsReading Drained W) := do
  match ← drainOpen host child.stdout fuel s.output w with
  | (.error cause, output, w) => return (.error cause, { s with output }, w)
  | (.ok drained, output, w) =>
    let (second, errors, w) ← drainOpen host child.stderr fuel s.errors w
    return (second.map fun _ => drained, ⟨output, errors⟩, w)

/-- Reads a pipe up to the end, unless it is closed. -/
def readOpen (host : Host W) (pipe : Option Fd) (fuel : Nat) (bytes : ByteArray) (w : W) :
    Except Halt (Reading Unit W) :=
  match pipe with
  | none => .ok (.ok (), bytes, w)
  | some fd => readBlocking host fd fuel bytes w

/-- Reads both pipes of a process up to the end, standard output first. -/
def readBoth (host : Host W) (fuel : Nat) (child : Child) (s : Streams) (w : W) :
    Except Halt (StreamsReading Unit W) := do
  match ← readOpen host child.stdout fuel s.output w with
  | (.error cause, output, w) => return (.error cause, { s with output }, w)
  | (.ok (), output, w) =>
    let (second, errors, w) ← readOpen host child.stderr fuel s.errors w
    return (second, ⟨output, errors⟩, w)

/-- Waits for the end of a process. A wait that was interrupted is made again; the fuel bounds how often. -/
def awaitEnd (host : Host W) (pid : Pid) : Nat → W →
    Except Halt (Except Os.Fault (WaitStatus × ResourceUsage) × W)
  | 0, _ => .error .outOfFuel
  | fuel + 1, w =>
    match host.wait pid w with
    | (.never, _) => .error .stalled
    | (.answer found, w) => .ok (.ok found, w)
    | (.fault cause, w) =>
      if cause.isInterruption then awaitEnd host pid fuel w else .ok (.error cause, w)

/-- Closes both pipes of a process. -/
def closePipes (host : Host W) (child : Child) (w : W) : Child × W :=
  let w := child.stdout.elim w (host.close · w)
  let w := child.stderr.elim w (host.close · w)
  ({ child with stdout := none, stderr := none }, w)

end BatchRunner.Capture
