import BatchRunner.Environment
import BatchRunner.Task.Id
import BatchRunner.Task.Termination

/-!
# Hosts

A host is what a queue asks of an operating system: to start processes, to wait until there is something to
read, to read it, and to learn how a process ended. The state of everything outside the queue is one value,
the world; each call gives an answer and the world after it. Nothing else is assumed of a host, so what is
proved for every host holds whatever the operating system does.
-/

namespace BatchRunner

/-- The number of an open descriptor. -/
abbrev Fd := Nat

/-- What comes of a call that may wait: an answer, a fault, or nothing ever. -/
inductive Reply (α : Type) where
  | answer (value : α)
  | fault (cause : Os.Fault)
  /-- The call waits for something that can no longer happen. -/
  | never
  deriving Repr, Inhabited

/-- What a process is started with. -/
structure Launch where
  program : String
  args : List String
  vars : Variables
  /-- Whether standard error has a pipe of its own, instead of sharing that of standard output. -/
  separateErrors : Bool
  deriving DecidableEq, Repr, Inhabited

/-- A process that was started, and the ends of its pipes that are open for reading. -/
structure Child where
  pid : Pid
  stdout : Option Fd
  stderr : Option Fd
  deriving DecidableEq, Repr, Inhabited

/-- What a wait for output reports of a descriptor: a word with a bit for each condition. -/
structure Conditions where
  revents : BitVec 16
  deriving DecidableEq, Repr, Inhabited

namespace Conditions

/-- There is something to read, or the end of it. -/
def inputBit : BitVec 16 := 0x01#16

/-- The descriptor is in error. -/
def errorBit : BitVec 16 := 0x08#16

/-- Every writer is gone. -/
def hangUpBit : BitVec 16 := 0x10#16

/-- The descriptor is not open. -/
def invalidBit : BitVec 16 := 0x20#16

/-- No condition. -/
def none : Conditions := ⟨0#16⟩

/-- Whether there is any condition. -/
def any (c : Conditions) : Bool := c.revents != 0#16

/-- Whether there is something to read, or the end of it. -/
def isReadable (c : Conditions) : Bool := c.revents &&& inputBit != 0#16

/-- Whether every writer is gone, or the descriptor is of no use. -/
def isHungUp (c : Conditions) : Bool := c.revents &&& (hangUpBit ||| errorBit ||| invalidBit) != 0#16

end Conditions

/-- The calls that a queue makes on the world. -/
structure Host (W : Type) where
  /-- Starts a process with its output on fresh pipes, whose reading ends do not block. -/
  spawn : Launch → W → Except Os.Fault Child × W
  /-- Waits until at least one of the descriptors has a condition, and gives those of each. -/
  poll : List Fd → W → Reply (List Conditions) × W
  /-- Reads at most a number of bytes; no bytes mean the end. -/
  read : Fd → Nat → W → Reply ByteArray × W
  /-- Makes reads from a descriptor wait. -/
  setBlocking : Fd → W → Except Os.Fault Unit × W
  /-- Waits until a process has ended, and forgets it. -/
  wait : Pid → W → Reply (WaitStatus × ResourceUsage) × W
  /-- Closes a descriptor. -/
  close : Fd → W → W
  /-- The variables of the running program. -/
  vars : W → Variables
  /-- The time, in nanoseconds. -/
  now : W → Nat
  /-- The order in which tasks are visited that are kept by their identifiers and in no order of their own. -/
  shuffle : W → (ids : List TaskId) → { order : List TaskId // order.Perm ids }

/-- A part of a larger world. -/
structure Part (V W : Type) where
  get : V → W
  set : W → V → V

/-- Does something to a part. -/
def Part.run {V W α : Type} (part : Part V W) (f : W → α × W) (v : V) : α × V :=
  let (a, w) := f (part.get v)
  (a, part.set w v)

/-- A host for a part serves for the whole. -/
def Host.within {V W : Type} (host : Host W) (part : Part V W) : Host V where
  spawn launch := part.run (host.spawn launch)
  poll fds := part.run (host.poll fds)
  read fd count := part.run (host.read fd count)
  setBlocking fd := part.run (host.setBlocking fd)
  wait pid := part.run (host.wait pid)
  close fd v := part.set (host.close fd (part.get v)) v
  vars v := host.vars (part.get v)
  now v := host.now (part.get v)
  shuffle v := host.shuffle (part.get v)

/-- A fault that says only that the call was interrupted and is to be made again. -/
def Os.Fault.isInterruption (fault : Os.Fault) : Bool :=
  fault == .os Os.Errno.interrupted || fault == .kind .interrupted

/-- A fault that says only that there is nothing to read yet. -/
def Os.Fault.wouldBlock (fault : Os.Fault) : Bool :=
  fault == .os Os.Errno.tryAgain || fault == .kind .wouldBlock

end BatchRunner
