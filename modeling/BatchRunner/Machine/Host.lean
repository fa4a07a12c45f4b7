import BatchRunner.Machine.Schedule

/-!
# Machines as hosts

The calls of a control program on a machine.
-/

namespace BatchRunner.Machine

/-! ## Descriptors -/

/-- The least descriptor that programs are given; those below it are in use from the start. -/
def firstDescriptor : Fd := 3

/-- The least descriptor that is not in use. The fuel bounds how many are tried. -/
def leastFree (used : List Fd) : Nat → Fd → Fd
  | 0, fd => fd
  | fuel + 1, fd => if used.contains fd then leastFree used fuel (fd + 1) else fd

/-- Opens a descriptor of the control program, unless it has as many as it may. -/
def openDescriptor (m : Machine) (endpoint : Endpoint) : Except Os.Errno (Fd × Machine) :=
  let fd := leastFree (m.control.map (·.1)) m.control.length firstDescriptor
  if m.descriptorLimit ≤ fd then .error Os.Errno.tooManyOpenFiles
  else .ok (fd, { m with control := m.control ++ [(fd, ⟨endpoint, true⟩)] })

/-- The descriptor of the control program with a number. -/
def control? (m : Machine) (fd : Fd) : Option ControlDescriptor := m.control.lookup fd

/-- Changes a descriptor of the control program. -/
def setControl (m : Machine) (fd : Fd) (descriptor : ControlDescriptor) : Machine :=
  { m with control := m.control.map fun entry => if entry.1 == fd then (fd, descriptor) else entry }

/-- Closes a descriptor of the control program. -/
def closeControl (m : Machine) (fd : Fd) : Machine :=
  { m with control := m.control.filter (·.1 != fd) }

/-- Makes a pipe: its reading end, which does not block, and its writing end. -/
def openPipe (m : Machine) : Except Os.Errno (Fd × Fd × Nat × Machine) := do
  let (pipe, m) := m.newPipe
  let (reader, m) ← m.openDescriptor (.pipeReader pipe)
  let (writer, m) ← m.openDescriptor (.pipeWriter pipe)
  return (reader, writer, pipe, m.setControl reader ⟨.pipeReader pipe, false⟩)

/-! ## Processes -/

/-- The variables of a new process: sorted by name, of equal names the last. -/
def processVariables (vars : Variables) : Variables :=
  vars.foldl insert []
where
  /-- Puts a variable in its place. -/
  insert (sorted : Variables) (entry : String × String) : Variables :=
    match sorted with
    | [] => [entry]
    | first :: rest =>
      if first.1 = entry.1 then entry :: rest
      else if entry.1 < first.1 then entry :: first :: rest
      else first :: insert rest entry

/-- Whether anything that a process is started with holds a NUL. -/
def Launch.hasNul (launch : Launch) : Bool :=
  Files.hasNul launch.program || launch.args.any Files.hasNul ||
    launch.vars.any fun v => Files.hasNul v.1 || Files.hasNul v.2

/-- The number that processes of the control program know it by. -/
def controlPid : Pid := 1

/-- The permissions that new files of processes are not given. -/
def controlMask : Nat := 0o022

/-- Starts a process of the control program with descriptors for its output. -/
def startProcess (m : Machine) (launch : Launch) (output errors : Endpoint) :
    Except Os.Fault (Pid × Machine) :=
  if Launch.hasNul launch then .error Os.Fault.nulByte
  else
    let vars := (processVariables launch.vars).map fun v => (Text.octets v.1, Text.octets v.2)
    let start : Start :=
      { setting := { cwd := m.cwd, vars, mask := controlMask }, pid := m.nextPid, parent := controlPid }
    match startByName m.tree start (Text.octets launch.program) (launch.args.map Text.octets) with
    | .error errno => .error (.os errno)
    | .ok activity =>
      let p : Process := {
        pid := m.nextPid
        parent := none
        descriptors := [(0, .null), (1, output), (2, errors)]
        activity
        life := .running
        ignored := []
        pending := [] }
      .ok (m.nextPid, { m with nextPid := m.nextPid + 1, processes := m.processes ++ [p] })

/-- Makes the pipes for a process and starts it. -/
def launch (m : Machine) (launch : Launch) : Except Os.Fault (Child × Machine) :=
  match m.openPipe with
  | .error errno => .error (.os errno)
  | .ok (stdout, stdoutWriter, outPipe, m) =>
    if launch.separateErrors then
      match m.openPipe with
      | .error errno => .error (.os errno)
      | .ok (stderr, stderrWriter, errPipe, m) => do
        let (pid, m) ← m.startProcess launch (.pipeWriter outPipe) (.pipeWriter errPipe)
        return (⟨pid, some stdout, some stderr⟩, (m.closeControl stdoutWriter).closeControl stderrWriter)
    else do
      let (pid, m) ← m.startProcess launch (.pipeWriter outPipe) (.pipeWriter outPipe)
      return (⟨pid, some stdout, none⟩, m.closeControl stdoutWriter)

/-- Starts a process; a failure leaves nothing behind. -/
def spawn (request : Launch) (m : Machine) : Except Os.Fault Child × Machine :=
  match m.launch request with
  | .ok (child, m) => (.ok child, m)
  | .error cause => (.error cause, m)

/-! ## Waiting and reading -/

/-- The conditions of a descriptor. -/
def conditionsOf (m : Machine) (fd : Fd) : Conditions :=
  match m.control? fd with
  | none => ⟨Conditions.invalidBit⟩
  | some d => match d.endpoint with
    | .pipeReader pipe =>
      ⟨(if (m.pipeContent pipe).isEmpty then 0#16 else Conditions.inputBit) |||
        (if m.hasWriter pipe then 0#16 else Conditions.hangUpBit)⟩
    | .pipeWriter pipe => if m.hasReader pipe then Conditions.none else ⟨Conditions.errorBit⟩
    | _ => ⟨Conditions.inputBit⟩

/-- Waits until one of some descriptors has a condition. -/
def poll (fds : List Fd) (m : Machine) : Reply (List Conditions) × Machine :=
  if m.descriptorLimit < fds.length then (.fault (.os Os.Errno.invalidArgument), m)
  else match m.runUntil (fun m => fds.any fun fd => (m.conditionsOf fd).any) passLimit with
    | some m => (.answer (fds.map m.conditionsOf), m)
    | none => (.never, m)

/-- The reply to a transfer that came to something. -/
def Transfer.toReply : Transfer → Reply ByteArray
  | .done bytes => .answer bytes
  | .wait => .fault (.os Os.Errno.tryAgain)
  | .failed errno => .fault (.os errno)
  | .broken => .fault (.os Os.Errno.brokenPipe)

/-- Whether a read from a descriptor would not have to wait. -/
def canRead (m : Machine) (fd : Fd) : Bool :=
  match m.control? fd with
  | some d => match d.endpoint with
    | .pipeReader pipe => !(m.pipeContent pipe).isEmpty || !m.hasWriter pipe
    | _ => true
  | none => true

/-- Reads at most a number of bytes from a descriptor, which may make the control program wait. -/
def read (fd : Fd) (count : Nat) (m : Machine) : Reply ByteArray × Machine :=
  match m.control? fd with
  | none => (.fault (.os Os.Errno.badDescriptor), m)
  | some d =>
    if d.blocking then
      match m.runUntil (·.canRead fd) passLimit with
      | none => (.never, m)
      | some m =>
        let (result, m) := m.readEndpoint d.endpoint count
        (result.toReply, m)
    else
      let (result, m) := m.readEndpoint d.endpoint count
      (result.toReply, m)

/-- Makes reads from a descriptor wait. -/
def setBlocking (fd : Fd) (m : Machine) : Except Os.Fault Unit × Machine :=
  match m.control? fd with
  | none => (.error (.os Os.Errno.badDescriptor), m)
  | some d => (.ok (), m.setControl fd { d with blocking := true })

/-- Waits until a process of the control program has ended; nothing is done about its end. -/
def settle (pid : Pid) (m : Machine) : Option Machine := m.runUntil (·.hasEnded pid) passLimit

/-- What every process is said to have used: no time that can be measured, and some memory. -/
def usageOfProcess : ResourceUsage := { ResourceUsage.zero with peakMemory := 1024 }

/-- Waits until a process of the control program has ended, and forgets it. -/
def wait (pid : Pid) (m : Machine) : Reply (WaitStatus × ResourceUsage) × Machine :=
  match m.process? pid with
  | none => (.fault (.os Os.Errno.noChild), m)
  | some p =>
    if p.parent.isSome then (.fault (.os Os.Errno.noChild), m)
    else match m.settle pid with
      | none => (.never, m)
      | some m => match m.process? pid with
        | none => (.fault (.os Os.Errno.noChild), m)
        | some p => match p.life with
          | .ended status =>
            (.answer (status, usageOfProcess), m.forget pid)
          | _ => (.never, m)

/-- A machine as a host. -/
def host : Host Machine where
  spawn := spawn
  poll := poll
  read := read
  setBlocking := setBlocking
  wait := wait
  close fd m := m.closeControl fd
  vars m := m.vars
  now m := m.clock
  shuffle _ ids := ⟨ids, .refl ids⟩

end BatchRunner.Machine
