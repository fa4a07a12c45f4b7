import BatchRunner.Queue.Runner

/-!
# A prompt host

A small host on which a run can be followed by hand. Its world counts the processes that were started; each
closes its output at once without having written anything, and what is then learnt of its end is given by
its number.
-/

namespace BatchRunner

/-- How a process ends on a prompt host: with an exit code, or so that its end cannot be learnt. -/
abbrev PromptEnds := Pid → Except Os.Fault Nat

/-- The host whose processes write nothing and end at once. A program without a name cannot be started. -/
def Host.prompt (ends : PromptEnds) : Host Nat where
  spawn launch count :=
    if launch.program.isEmpty then (.error (.kind .notFound), count)
    else (.ok ⟨count + 1, some (count + 1), none⟩, count + 1)
  poll fds count := (.answer (fds.map fun _ => ⟨Conditions.hangUpBit⟩), count)
  read _ _ count := (.answer .empty, count)
  setBlocking _ count := (.ok (), count)
  wait pid count :=
    match ends pid with
    | .ok code => (.answer (⟨BitVec.ofNat 32 (code * 256)⟩, .zero), count)
    | .error cause => (.fault cause, count)
  close _ count := count
  vars _ := []
  now _ := 0
  shuffle _ ids := ⟨ids.reverse, ids.reverse_perm⟩

/-- Hooks that are all there and change nothing. Only an exit with zero lets the batch go on. -/
def Hooks.plain {κ W : Type} : Hooks κ W where
  began := some fun _ w => w
  finished := some fun _ code w => (.ofStop (code != 0), w)
  signalled := some fun _ _ w => (.stop, w)
  reported := some fun _ w => w

/-- A task as it is queued, for a program without arguments. -/
def Task.plain (number : Nat) (program : String) : Task Unit where
  id := .ofNat number
  spec := { program }
  context := ()
  separateErrors := false
  state := .preparing
  pid := none
  process := none
  streams := ⟨.empty, .empty⟩
  termination := none
  usage := none
  createdAt := 0
  startedAt := none
  completedAt := none

/-- A queue of programs without arguments, numbered in order, under the strict policy. -/
def Queue.plain (parallelism : Nat) (programs : List String) : Queue Unit where
  kind := .localProcesses
  options := ⟨parallelism, false, .strict⟩
  source := .ambient
  pending := programs.zipIdx.map fun (program, number) => .plain number program
  pids := []
  stats := .zero

end BatchRunner
