import BatchRunner.Host
import BatchRunner.Machine.Plan
import BatchRunner.Machine.Shell.Expansion
import BatchRunner.Machine.Shell.Grammar

/-!
# Machines

A machine is a host of which everything is known: its files, its clock, the control program's descriptors,
the pipes, and the processes with what each has still to do. Processes run only while the control program
waits, each one step at a time in turn; time passes only while all of them sleep.
-/

namespace BatchRunner.Machine

/-- What an open descriptor refers to. -/
inductive Endpoint where
  | pipeReader (pipe : Nat)
  | pipeWriter (pipe : Nat)
  /-- Takes everything; nothing can be read. -/
  | null
  /-- Takes everything, or nothing if it is full; zeros can be read without end. -/
  | zero (full : Bool)
  /-- A file that was opened, by its number. -/
  | file (number : Nat)
  | directory
  deriving DecidableEq, Repr, Inhabited

/-- A file that was opened: every descriptor that came from one opening shares how far it was read or written. -/
structure OpenFile where
  /-- The place of the file; nothing for a text that has no place. -/
  place : Option Files.Path
  /-- The content of a file without a place. -/
  content : ByteArray
  offset : Nat
  readable : Bool
  writable : Bool
  /-- Whether everything is written at the end. -/
  appending : Bool
  deriving Inhabited

/-- The open descriptors of a process. -/
abbrev Descriptors := List (Fd × Endpoint)

/-- What is known of a command from where it stands. -/
structure Standing where
  /-- Its status is looked at, so that its failure does not end the shell. -/
  tested : Bool := false
  /-- It is the last thing that its shell does. -/
  last : Bool := false
  deriving DecidableEq, Repr, Inhabited

/-- A simple command whose words have been expanded. -/
structure Prepared where
  fields : List String
  assignments : List (String × Shell.Word)
  /-- The values that were assigned, with their names. -/
  values : List (String × String) := []
  /-- The descriptors that its redirections have changed, as they were before. -/
  saved : List (Fd × Option Endpoint)
  standing : Standing
  deriving Inhabited

/-- What an expansion is for. -/
inductive Purpose where
  /-- The words and redirections of a simple command. -/
  | command (line : Nat) (assignments : List (String × Shell.Word)) (words : List Shell.Word)
    (redirects : List Shell.Redirect) (standing : Standing)
  /-- The assignments of a simple command. -/
  | assignments (prepared : Prepared)
  /-- The redirections of a compound command. -/
  | redirected (line : Nat) (body : Shell.Command) (redirects : List Shell.Redirect) (standing : Standing)
  /-- The redirections of a command in a process of its own. -/
  | subshell (line : Nat) (body : Shell.Command) (redirects : List Shell.Redirect) (background : Bool)
    (standing : Standing)
  /-- The words of a loop. -/
  | fields (line : Nat) (name : String) (words : List Shell.Word) (body : Shell.Command) (standing : Standing)
  /-- The word of a choice. -/
  | choice (line : Nat) (word : Shell.Word) (choices : List (List Shell.Word × Shell.Command))
    (standing : Standing)
  /-- The next pattern of a choice for a text. -/
  | pattern (text : String) (words : List Shell.Word) (body : Shell.Command)
    (choices : List (List Shell.Word × Shell.Command)) (standing : Standing)
  deriving Inhabited

/-- What a shell has to do next. -/
inductive Work where
  /-- Nothing, for so many steps: it takes a while until a process that nobody waits for begins. -/
  | lag (steps : Nat)
  | evaluate (command : Shell.Command) (standing : Standing)
  /-- What follows every command: traps are run, and a failure may end the shell. -/
  | finish (checked : Bool) (standing : Standing)
  /-- A command if the last one succeeded, or if it failed. -/
  | commandIf (succeeded : Bool) (command : Shell.Command) (standing : Standing)
  /-- Turns success into failure and failure into success. -/
  | negate
  /-- One of two commands, by the success of the last. -/
  | choose (success : Shell.Command) (failure : Option Shell.Command) (standing : Standing)
  /-- The body of a loop, if the test that was just made allows it; the status of the body's last run. -/
  | loop (untilSuccess : Bool) (test body : Shell.Command) (standing : Standing) (status : Nat)
  /-- The next run of a loop, behind its body. -/
  | again (untilSuccess : Bool) (test body : Shell.Command) (standing : Standing)
  /-- The body of a loop for each of the texts that are left. -/
  | forEach (name : String) (values : List String) (body : Shell.Command) (standing : Standing)
  /-- An expansion, with the outputs of the scripts that it needed so far. -/
  | expand (purpose : Purpose) (outputs : List String)
  /-- Reads the output of a script, and then goes on with the expansion that needs it. -/
  | collect (source : Endpoint) (done : ByteArray) (pid : Pid) (purpose : Purpose) (outputs : List String)
  /-- Runs a command whose words, redirections and assignments are done. -/
  | dispatch (prepared : Prepared)
  /-- Puts descriptors back that redirections had changed. -/
  | restore (saved : List (Fd × Option Endpoint))
  /-- Closes the innermost scope of variables. -/
  | closeScope
  /-- Ends a function: the arguments and loops are again those of its caller. -/
  | leaveFunction (args : List String) (loops : Nat) (optionOffset : Option Nat)
  /-- Ends a script that was read from a file: it was run as this command. -/
  | leaveFile (running : Option String)
  /-- Ends a builtin command that ran a script. -/
  | leaveBuiltin (running : Option String)
  /-- What went wrong inside a command that may not end the shell goes no further. -/
  | guard
  /-- The next line of a script; the status of the last one that had a command, which is that of the shell if
  nothing is given. -/
  | script (source : Shell.Source) (standing : Standing) (status : Option Nat)
  /-- Ends the action of a trap. -/
  | leaveTrap (status : Nat) (savedStatus : Option Nat)
  /-- Ends the action for the end of the shell, which then ends with the status that it had before. -/
  | leaveExitTrap
  /-- Sets the status of the last command. -/
  | setStatus (status : Nat)
  /-- Writes bytes. -/
  | write (fd : Fd) (bytes : ByteArray)
  /-- Writes bytes to where a descriptor referred to before. -/
  | writeTo (endpoint : Endpoint) (bytes : ByteArray)
  /-- Writes the output of a builtin command, which complains if that fails, and sets its status. -/
  | speak (command : String) (bytes : ByteArray) (status : Nat)
  /-- Reads a line into variables, with each character of it whether it was quoted. -/
  | readLine (names : List String) (plain : Bool) (chars : List (Char × Bool)) (quoting : Bool)
  /-- Waits for processes that were started together, and takes over the status of one of them. -/
  | await (pids : List Pid) (chosen : Pid)
  /-- Waits for the ends of jobs, by their last processes, and takes over the status of the last. -/
  | awaitJobs (pids : List Pid) (status : Nat)
  /-- Waits for the ends of all jobs. -/
  | awaitAll
  /-- Reads a script from standard input to its end. -/
  | readScript (done : ByteArray)
  /-- Ends the shell: what is to be done at its end comes first. -/
  | exit
  deriving Inhabited

/-- What a process does. -/
inductive Activity where
  | shell (context : Shell.Context) (work : List Work)
  | program (setting : Setting) (plan : Plan)
  /-- A program that sleeps until a time. -/
  | sleeping (setting : Setting) (time : Nat) (plan : Plan)
  /-- A program that has waited for another one since a time: the limits that are to come, and whether one has
  passed. -/
  | waiting (setting : Setting) (pid : Pid) (since : Nat) (limits : List Limit) (late : Bool)
    (next : Except Os.Errno (WaitStatus × Bool) → Plan)
  /-- Nothing is left to do. -/
  | nothing
  deriving Inhabited

/-- Whether a process runs or has ended. -/
inductive Life where
  | running
  | ended (status : WaitStatus)
  /-- A signal has suspended it. -/
  | suspended
  deriving DecidableEq, Repr, Inhabited

/-- A process. -/
structure Process where
  pid : Pid
  /-- The process that may wait for its end; the control program if there is none. -/
  parent : Option Pid
  descriptors : Descriptors
  activity : Activity
  life : Life
  /-- The signals that it has ignored since its start. -/
  ignored : List Nat
  /-- The signals that it has received but not yet acted on. -/
  pending : List Nat
  deriving Inhabited

/-- A descriptor of the control program. -/
structure ControlDescriptor where
  endpoint : Endpoint
  blocking : Bool
  deriving Inhabited

end Machine

/-- A host of which everything is known. -/
structure Machine where
  tree : Files.Tree
  /-- The working directory of the control program. -/
  cwd : Files.Path
  /-- The variables of the control program. -/
  vars : Variables
  /-- Nanoseconds since the epoch. -/
  clock : Nat
  /-- How many descriptors the control program may have. -/
  descriptorLimit : Nat
  /-- How many bytes a pipe holds. -/
  pipeCapacity : Nat
  /-- What is in each pipe. -/
  pipes : Array ByteArray
  /-- The files that were opened. -/
  opened : Array Machine.OpenFile
  control : List (Fd × Machine.ControlDescriptor)
  processes : List Machine.Process
  nextPid : Pid
  deriving Inhabited

namespace Machine

/-- How many bytes a pipe holds unless a machine says otherwise. -/
def defaultPipeCapacity : Nat := 65536

/-- How many descriptors a program may have unless a machine says otherwise. -/
def defaultDescriptorLimit : Nat := 1024

/-- A machine with files on which nothing runs. -/
def idle (tree : Files.Tree) (cwd : Files.Path) (vars : Variables) : Machine where
  tree
  cwd
  vars
  clock := 1700000000000000000
  descriptorLimit := defaultDescriptorLimit
  pipeCapacity := defaultPipeCapacity
  pipes := #[]
  opened := #[]
  control := []
  processes := []
  nextPid := 1000

/-! ## Processes -/

/-- The process with a number. -/
def process? (m : Machine) (pid : Pid) : Option Process := m.processes.find? (·.pid == pid)

/-- Puts a process in its place. -/
def update (m : Machine) (p : Process) : Machine :=
  { m with processes := m.processes.map fun q => if q.pid == p.pid then p else q }

/-- Forgets a process. -/
def forget (m : Machine) (pid : Pid) : Machine :=
  { m with processes := m.processes.filter (·.pid != pid) }

/-- The descriptors that an expansion has to put back in the end. -/
def Purpose.saved : Purpose → List (Fd × Option Endpoint)
  | .assignments prepared => prepared.saved
  | _ => []

/-- The descriptors that some work has to put back. -/
def Work.saved : Work → List (Fd × Option Endpoint)
  | .restore saved => saved
  | .expand purpose _ => purpose.saved
  | .collect _ _ _ purpose _ => purpose.saved
  | .dispatch prepared => prepared.saved
  | _ => []

/-- Whether an endpoint that some work keeps is of a kind. -/
def Work.keeps (wanted : Endpoint → Bool) (work : Work) : Bool :=
  work.saved.any (fun entry => entry.2.any wanted) ||
    match work with
    | .collect source _ _ _ _ => wanted source
    | .writeTo endpoint _ => wanted endpoint
    | _ => false

/-- Whether a descriptor that a process has open, or keeps to put it back, refers to an endpoint of some
kind. -/
def Process.refers (p : Process) (wanted : Endpoint → Bool) : Bool :=
  p.descriptors.any (fun entry => wanted entry.2) ||
    match p.activity with
    | .shell _ work => work.any (·.keeps wanted)
    | _ => false

/-- Whether a descriptor of a process or of the control program refers to an endpoint of some kind. -/
def refers (m : Machine) (wanted : Endpoint → Bool) : Bool :=
  m.control.any (fun entry => wanted entry.2.endpoint) || m.processes.any (·.refers wanted)

/-- The endpoint of a descriptor. -/
def Process.endpoint? (p : Process) (fd : Fd) : Option Endpoint := p.descriptors.lookup fd

/-- The process with a descriptor referring to an endpoint, or closed. -/
def Process.setDescriptor (p : Process) (fd : Fd) (endpoint : Option Endpoint) : Process :=
  { p with descriptors := p.descriptors.filter (·.1 != fd) ++ endpoint.toList.map fun e => (fd, e) }

/-- A process that has ended: nothing is left to do and nothing is open. -/
def Process.ended (p : Process) (status : WaitStatus) : Process :=
  { p with descriptors := [], activity := .nothing, life := .ended status, pending := [] }

/-! ## Pipes and files -/

/-- What is in a pipe. -/
def pipeContent (m : Machine) (pipe : Nat) : ByteArray := m.pipes[pipe]?.getD .empty

/-- Changes what is in a pipe. -/
def setPipe (m : Machine) (pipe : Nat) (content : ByteArray) : Machine :=
  { m with pipes := m.pipes.setIfInBounds pipe content }

/-- Makes an empty pipe. -/
def newPipe (m : Machine) : Nat × Machine := (m.pipes.size, { m with pipes := m.pipes.push .empty })

/-- Whether something may still be written to a pipe. -/
def hasWriter (m : Machine) (pipe : Nat) : Bool := m.refers (· == .pipeWriter pipe)

/-- Whether something may still be read from a pipe. -/
def hasReader (m : Machine) (pipe : Nat) : Bool := m.refers (· == .pipeReader pipe)

/-- Opens a file: its endpoint. -/
def openFile (m : Machine) (file : OpenFile) : Endpoint × Machine :=
  (.file m.opened.size, { m with opened := m.opened.push file })

/-- What is in a file that was opened. -/
def fileContent (m : Machine) (file : OpenFile) : ByteArray :=
  match file.place with
  | none => file.content
  | some place => match m.tree.at? place with
    | some (.file _ content) => content
    | _ => .empty

/-- What a read or write came to. -/
inductive Transfer where
  /-- These bytes were read, or are left to be written. -/
  | done (bytes : ByteArray)
  /-- It would have to wait. -/
  | wait
  /-- The descriptor does not allow it. -/
  | failed (errno : Os.Errno)
  /-- Nobody can read what is written. -/
  | broken

/-- Reads at most a number of bytes from an endpoint. -/
def readEndpoint (m : Machine) (endpoint : Endpoint) (count : Nat) : Transfer × Machine :=
  match endpoint with
  | .pipeReader pipe =>
    let content := m.pipeContent pipe
    if content.isEmpty then
      if m.hasWriter pipe then (.wait, m) else (.done .empty, m)
    else (.done (content.extract 0 count), m.setPipe pipe (content.extract count content.size))
  | .null => (.done .empty, m)
  | .zero _ => (.done ⟨Array.replicate count 0⟩, m)
  | .file number => match m.opened[number]? with
    | none => (.failed Os.Errno.badDescriptor, m)
    | some file =>
      if !file.readable then (.failed Os.Errno.badDescriptor, m)
      else
        let block := (m.fileContent file).extract file.offset (file.offset + count)
        let file := { file with offset := file.offset + block.size }
        (.done block, { m with opened := m.opened.setIfInBounds number file })
  | .directory => (.failed Os.Errno.isDirectory, m)
  | .pipeWriter _ => (.failed Os.Errno.badDescriptor, m)

/-- A content with bytes written over it at an offset; a gap is filled with zeros. -/
def overwrite (content : ByteArray) (offset : Nat) (bytes : ByteArray) : ByteArray :=
  let front := content.extract 0 offset
  let gap : ByteArray := ⟨Array.replicate (offset - content.size) 0⟩
  front ++ gap ++ bytes ++ content.extract (offset + bytes.size) content.size

/-- Writes bytes to a file that was opened. -/
def writeFile (m : Machine) (number : Nat) (file : OpenFile) (bytes : ByteArray) : Machine :=
  let old := m.fileContent file
  let offset := if file.appending then old.size else file.offset
  let content := overwrite old offset bytes
  let file := { file with offset := offset + bytes.size }
  match file.place with
  | none => { m with opened := m.opened.setIfInBounds number { file with content } }
  | some place =>
    let tree := match m.tree.at? place with
      | some (.file mode _) => m.tree.put place (.file mode content)
      | _ => m.tree
    { m with tree, opened := m.opened.setIfInBounds number file }

/-- Writes bytes to an endpoint, as many as there is room for. -/
def writeEndpoint (m : Machine) (endpoint : Endpoint) (bytes : ByteArray) : Transfer × Machine :=
  match endpoint with
  | .pipeWriter pipe =>
    if !m.hasReader pipe then (.broken, m)
    else
      let content := m.pipeContent pipe
      let room := m.pipeCapacity - content.size
      if room == 0 && !bytes.isEmpty then (.wait, m)
      else
        (.done (bytes.extract room bytes.size), m.setPipe pipe (content ++ bytes.extract 0 room))
  | .null => (.done .empty, m)
  | .zero full => (if full then .failed Os.Errno.noSpace else .done .empty, m)
  | .file number => match m.opened[number]? with
    | none => (.failed Os.Errno.badDescriptor, m)
    | some file =>
      if file.writable then (.done .empty, m.writeFile number file bytes)
      else (.failed Os.Errno.badDescriptor, m)
  | .pipeReader _ => (.failed Os.Errno.badDescriptor, m)
  | .directory => (.failed Os.Errno.badDescriptor, m)

/-- Gives back bytes that were read from a file. -/
def unread (m : Machine) (endpoint : Endpoint) (count : Nat) : Machine :=
  match endpoint with
  | .file number => match m.opened[number]? with
    | some file => { m with opened := m.opened.setIfInBounds number { file with offset := file.offset - count } }
    | none => m
  | _ => m

/-! ## Opening by path -/

/-- How a file is opened. -/
inductive Opening where
  | reading
  /-- Emptied first, and made if it is not there; one that is there is refused if it is to be kept. -/
  | writing (keep : Bool)
  | appending
  | updating
  deriving DecidableEq, Repr

/-- Whether the permissions of a file allow it to be opened so. A file that is to be kept is refused for that. -/
def Opening.isAllowed (how : Opening) (tree : Files.Tree) (entry : Files.Entry) : Bool :=
  match how with
  | reading => tree.mayRead entry
  | writing keep => keep || tree.mayWrite entry
  | appending => tree.mayWrite entry
  | updating => tree.mayRead entry && tree.mayWrite entry

/-- Opens the file at a path for a process with these descriptors. -/
def openPath (m : Machine) (cwd : Files.Path) (mask : Nat) (descriptors : Descriptors) (how : Opening)
    (path : String) : Except Os.Errno (Endpoint × Machine) := do
  if Files.hasNul path then throw Os.Errno.noEntry
  let place ← Files.resolve m.tree cwd path
  let file (readable writable appending : Bool) : OpenFile :=
    { place := some place, content := .empty, offset := 0, readable, writable, appending }
  let mayWrite := how != .reading
  match m.tree.at? place with
  | some (.device .null) => return (.null, m)
  | some (.device .zero) => return (.zero false, m)
  | some (.device .full) => return (.zero true, m)
  | some (.device .terminal) => throw Os.Errno.noDevice
  | some (.device (.descriptor fd)) => match descriptors.lookup fd with
    | some endpoint => return (endpoint, m)
    | none => throw Os.Errno.noEntry
  | some .directory => if mayWrite then throw Os.Errno.isDirectory else return (.directory, m)
  | some (.link _) => throw Os.Errno.linkLoop
  | some (.tool _) =>
    let content := ByteArray.mk #[0x7F, 0x45, 0x4C, 0x46]
    if mayWrite then throw Os.Errno.textBusy
    else return m.openFile { file true false false with place := none, content }
  | some entry@(.file mode _) =>
    if Files.demandsDirectory path then throw Os.Errno.notDirectory
    if !how.isAllowed m.tree entry then throw Os.Errno.accessDenied
    match how with
    | .reading => return m.openFile (file true false false)
    | .writing true => throw Os.Errno.fileExists
    | .writing false => return { m with tree := m.tree.put place (.file mode .empty) }.openFile (file false true false)
    | .appending => return m.openFile (file false true true)
    | .updating => return m.openFile (file true true false)
  | none =>
    if !mayWrite then throw Os.Errno.noEntry
    if !m.tree.isDirectory place.dropLast then
      throw (if (m.tree.at? place.dropLast).isSome then Os.Errno.notDirectory else Os.Errno.noEntry)
    if Files.demandsDirectory path then throw Os.Errno.isDirectory
    let mode := 0o666 &&& (0o777 ^^^ (mask &&& 0o777))
    let m := { m with tree := m.tree.put place (.file mode .empty) }
    return m.openFile (file (how == .updating) true (how == .appending))

end Machine

end BatchRunner
