import BatchRunner.Files.Workspace
import BatchRunner.Host
import BatchRunner.Text.Octets

/-!
# Plans of programs

What a program does, step by step: it writes, reads, looks at files and changes them, sleeps, starts other
programs or becomes one, and ends with a status. What comes later may depend on what is read and found.
-/

namespace BatchRunner.Machine

/-- What a program runs in: its working directory, its variables, and the permissions that new files are not
given. -/
structure Setting where
  cwd : Files.Path
  vars : Variables
  mask : Nat
  deriving Inhabited

/-- A time after which a program that runs another one sends a signal: to that one, or to everybody that it has started
and to itself, if it cannot ignore the signal. -/
structure Limit where
  nanoseconds : Nat
  signal : Nat
  everybody : Bool
  deriving DecidableEq, Repr, Inhabited

/-- What a program has still to do. -/
inductive Plan where
  | done (status : Nat)
  /-- Ends by a signal that it sends to itself. -/
  | abort (signal : Nat)
  /-- Writes bytes, and goes on with the fault if they cannot be written. -/
  | write (fd : Fd) (bytes : ByteArray) (next : Option Os.Errno → Plan)
  /-- Reads at most so many bytes; none mean the end. -/
  | read (fd : Fd) (count : Nat) (next : Except Os.Errno ByteArray → Plan)
  /-- Gives back so many bytes that were read, as far as the descriptor allows it. -/
  | unread (fd : Fd) (count : Nat) (next : Plan)
  /-- Asks for the size of the file that a descriptor refers to; nothing if it refers to no file. -/
  | measure (fd : Fd) (next : Option Nat → Plan)
  /-- Opens a file for reading. -/
  | openFile (path : String) (next : Except Os.Errno Fd → Plan)
  | close (fd : Fd) (next : Plan)
  /-- Looks at the files and changes them; new files are not given the permissions in the mask. -/
  | withFiles (act : Workspace → Nat → Files.Tree × Plan)
  | sleep (nanoseconds : Nat) (next : Plan)
  /-- Becomes another program with these variables. -/
  | become (name : String) (args : List String) (vars : Variables) (failure : Os.Errno → Plan)
  /-- Runs another program and waits for its end, and goes on with how it ended and whether a limit had passed. -/
  | run (name : String) (args : List String) (vars : Variables) (limits : List Limit)
    (next : Except Os.Errno (WaitStatus × Bool) → Plan)
  /-- Makes a pipe, and goes on with the descriptors of its ends: the one to read from and the one to write to. -/
  | pipe (next : Fd → Fd → Plan)
  /-- Starts another program, which has of the descriptors the standard ones only; one of them refers to what another
  descriptor of this program refers to. -/
  | start (name : String) (args : List String) (vars : Variables) (fd source : Fd) (next : Except Os.Errno Pid → Plan)
  /-- Waits for the end of a program that was started. -/
  | await (pid : Pid) (next : Except Os.Errno WaitStatus → Plan)

namespace Plan

instance : Inhabited Plan := ⟨.done 0⟩

/-- Writes a text to standard error. -/
def complain (text : String) (next : Plan) : Plan := .write 2 (Text.toByteArray text) fun _ => next

/-- Writes bytes to standard output for a program, which complains if that fails. -/
def put (name : String) (bytes : ByteArray) (next : Plan) : Plan :=
  if bytes.isEmpty then next
  else .write 1 bytes fun
    | none => next
    | some errno => complain (name ++ ": write error: " ++ errno.sentence ++ "\n") (.done 1)

/-- Writes a text to standard output for a program, which complains if that fails. -/
def say (name text : String) (next : Plan) : Plan := put name (Text.toByteArray text) next

/-- The most bytes that a program reads or writes at once. -/
def blockSize : Nat := 65536

/-- How many blocks a program reads at most. -/
def blockLimit : Nat := 10000000

/-- Reads a descriptor to its end. -/
def gather (fd : Fd) (next : Except Os.Errno ByteArray → Plan) : Nat → ByteArray → Plan
  | 0, front => next (.ok front)
  | fuel + 1, front => .read fd blockSize fun
    | .error errno => next (.error errno)
    | .ok block => if block.isEmpty then next (.ok front) else gather fd next fuel (front ++ block)

/-- Reads a descriptor to its end. -/
def readAll (fd : Fd) (next : Except Os.Errno ByteArray → Plan) : Plan := gather fd next blockLimit .empty

/-- Reads the file at a path to its end; a hyphen stands for standard input. -/
def readPath (path : String) (next : Except Os.Errno ByteArray → Plan) : Plan :=
  if path = "-" then readAll 0 next
  else .openFile path fun
    | .error errno => next (.error errno)
    | .ok fd => readAll fd fun result => .close fd (next result)

/-- Writes a block over and over. -/
def forever (name : String) (block : ByteArray) : Nat → Plan
  | 0 => .done 0
  | fuel + 1 => .write 1 block fun
    | none => forever name block fuel
    | some errno => complain (name ++ ": standard output: " ++ errno.sentence ++ "\n") (.done 1)

end Plan

end BatchRunner.Machine
