import BatchRunner.Proofs.Host.Prompt
import BatchRunner.Proofs.Readiness
import BatchRunner.Proofs.Task.Calls

/-!
# A quiet host

On a quiet host every call succeeds, and every process exits with zero without having written anything
(`Host.Quiet`). What is assumed of it concerns the calls that a batch of one task at a time makes: from an idle
world a process is started, its output ends, it is reaped, and when its pipes are closed the world is idle again.
The calls on a task follow it through these stages.
-/

namespace BatchRunner

open Capture (chunkSize closePipes drainBoth Streams)

/-- How far a process has come. -/
inductive ChildStage where
  | running
  /-- Its standard output has ended. -/
  | ended
  /-- It is known how it ended. -/
  | reaped
  deriving DecidableEq

/-- A host on which every call succeeds and every process exits with zero without having written anything. A world
is idle if no process of the batch is left in it; otherwise `lives` tells how far the one that is there has come. -/
structure Host.Quiet {W : Type} (host : Host W) (idle : W → Prop) (lives : ChildStage → Child → W → Prop) : Prop where
  spawn : ∀ {w}, idle w → ∀ launch, ∃ child w', host.spawn launch w = (.ok child, w') ∧
    child.stdout.isSome = true ∧ lives .running child w'
  poll : ∀ {child fd w}, lives .running child w → child.stdout = some fd → ∃ conditions w',
    host.poll [fd] w = (.answer [conditions], w') ∧ (conditions.isReadable || conditions.isHungUp) = true ∧
      lives .ended child w'
  read : ∀ {stage child fd w}, lives stage child w → stage ≠ .running → child.stdout = some fd →
    ∃ w', host.read fd chunkSize w = (.answer .empty, w') ∧ lives stage child w'
  /-- Standard error may end later than standard output. -/
  readErrors : ∀ {stage child fd w}, lives stage child w → stage ≠ .running → child.stderr = some fd →
    ∃ reply w', host.read fd chunkSize w = (reply, w') ∧
      (reply = .answer .empty ∨ reply = .fault (.os Os.Errno.tryAgain)) ∧ lives stage child w'
  wait : ∀ {child w}, lives .ended child w → ∃ status usage w',
    host.wait child.pid w = (.answer (status, usage), w') ∧ Termination.ofStatus status = .exited 0 ∧
      lives .reaped child w'
  close : ∀ {child w}, lives .reaped child w → idle (closePipes host child w).2

/-- A host on which every process starts and exits with zero at once. Its world counts the processes. -/
def Host.obedient : Host Nat := { Host.prompt fun _ => .ok 0 with
  spawn := fun launch count =>
    (.ok ⟨count + 1, some count, if launch.separateErrors then some count else none⟩, count + 1) }

theorem Host.obedient_quiet : Host.obedient.Quiet (fun _ => True) (fun _ _ _ => True) where
  spawn := fun _ launch => ⟨_, _, rfl, rfl, trivial⟩
  poll := fun _ _ => ⟨⟨Conditions.hangUpBit⟩, _, rfl, rfl, trivial⟩
  read := fun _ _ _ => ⟨_, rfl, trivial⟩
  readErrors := fun _ _ _ => ⟨_, _, rfl, .inl rfl, trivial⟩
  wait := fun _ => ⟨_, _, _, rfl, by decide, trivial⟩
  close := fun _ => trivial

/-- Entries that are of the right form give variables. -/
theorem Environment.ofEntries_of_validate {entries : List String} (h : validate entries = .ok ()) :
    ∃ vars, ofEntries entries = .ok vars := by
  induction entries with
  | nil => exact ⟨[], rfl⟩
  | cons entry entries ih =>
    rw [validate] at h
    split at h
    · cases h
    · next variable_ hentry =>
      obtain ⟨vars, hvars⟩ := ih h
      refine ⟨variable_ :: vars, ?_⟩
      rw [ofEntries] at hvars ⊢
      rw [List.mapM_cons, hentry, hvars]
      rfl

namespace Task

variable {κ : Type}

/-- Nothing was done about a task but to queue it. -/
structure Fresh (task : Task κ) : Prop where
  state : task.state = .preparing
  termination : task.termination = none
  env : Environment.validate task.spec.env = .ok ()

/-- A task whose process was started. -/
def started (task : Task κ) (child : Child) (now : Nat) : Task κ :=
  { task with pid := some child.pid, process := some child, state := .executing, startedAt := some now }

/-- A task whose process exited with zero. -/
def exitedZero (task : Task κ) (usage : ResourceUsage) : Task κ :=
  { task with usage := some usage, termination := some (.exited 0) }

/-- A task whose pipes were closed. -/
def closed (task : Task κ) (child : Child) (now : Nat) : Task κ :=
  { task with
    process := some { child with stdout := none, stderr := none }
    state := .finished
    completedAt := some now }

end Task

namespace Host.Quiet

variable {κ W : Type} {host : Host W} {idle : W → Prop} {lives : ChildStage → Child → W → Prop}
  (hquiet : host.Quiet idle lives) {task : Task κ} {child : Child} {fd : Fd} {stage : ChildStage} {w : W}

include hquiet

theorem execute (hidle : idle w) (hfresh : task.Fresh) (source : EnvironmentSource) :
    ∃ child w', task.execute host source w = .ok (.ok (), task.started child (host.now w'), w') ∧
      child.stdout.isSome = true ∧ lives .running child w' := by
  have hvars : ∃ vars, task.resolveVariables host source w = .ok vars := by
    unfold Task.resolveVariables
    split
    · cases source <;> exact ⟨_, rfl⟩
    · exact Environment.ofEntries_of_validate hfresh.env
  obtain ⟨vars, hvars⟩ := hvars
  obtain ⟨child, w', hspawn, hstdout, hlives⟩ :=
    hquiet.spawn hidle ⟨task.spec.program, task.spec.args, vars, task.separateErrors⟩
  have hmove : task.checkMove .executing = .ok () := by
    rw [Task.checkMove, hfresh.state]
    rfl
  refine ⟨child, w', ?_, hstdout, hlives⟩
  simp [Task.execute, hmove, hvars, hspawn, bind, Except.bind, pure, Except.pure, Task.started]

/-- The output of a process that writes nothing is ended as soon as it is read. -/
theorem drainBoth (hlives : lives stage child w) (hstage : stage ≠ .running) (hstdout : child.stdout = some fd)
    (fuel : Nat) (streams : Streams) :
    ∃ w', Capture.drainBoth host (fuel + 1) child streams w = .ok (.ok .closed, streams, w') ∧
      lives stage child w' := by
  have hempty : ByteArray.empty.isEmpty = true := by decide
  obtain ⟨w₁, hread, hlives₁⟩ := hquiet.read hlives hstage hstdout
  have houtput : Capture.drainOpen host child.stdout (fuel + 1) streams.output w = .ok (.ok .closed, streams.output, w₁) := by
    simp [hstdout, Capture.drainOpen, Capture.drain, hread, hempty]
  unfold Capture.drainBoth
  rw [houtput]
  cases hstderr : child.stderr with
  | none => exact ⟨w₁, rfl, hlives₁⟩
  | some errors =>
    obtain ⟨reply, w₂, hreadErrors, hreply, hlives₂⟩ := hquiet.readErrors hlives₁ hstage hstderr
    refine ⟨w₂, ?_, hlives₂⟩
    -- Standard error has ended, too, or has no more for now; neither keeps the output from being ended.
    have hagain : (Os.Fault.os Os.Errno.tryAgain).isInterruption = false := by decide
    have hblocks : (Os.Fault.os Os.Errno.tryAgain).wouldBlock = true := by decide
    rcases hreply with rfl | rfl <;>
      simp [Capture.drainOpen, Capture.drain, hreadErrors, hempty, hagain, hblocks, bind, Except.bind, pure,
        Except.pure, Except.map]

theorem readAvailable (hlives : lives stage child w) (hstage : stage ≠ .running) (hstdout : child.stdout = some fd)
    (hprocess : task.process = some child) (fuel : Nat) :
    ∃ w', task.readAvailable host (fuel + 1) w = .ok (.ok true, task, w') ∧ lives stage child w' := by
  obtain ⟨w', hdrain, hlives'⟩ := hquiet.drainBoth hlives hstage hstdout fuel task.streams
  refine ⟨w', ?_, hlives'⟩
  unfold Task.readAvailable
  split
  · next hnone =>
    rw [hprocess] at hnone
    cases hnone
  · next other hother =>
    obtain rfl : child = other := Option.some.inj (hprocess.symm.trans hother)
    rw [hdrain]
    rfl

theorem reap (hlives : lives .ended child w) (hprocess : task.process = some child)
    (htermination : task.termination = none) (fuel : Nat) :
    ∃ usage w', task.reap host (fuel + 1) w = .ok (.ok (.exited 0), task.exitedZero usage, w') ∧
      lives .reaped child w' := by
  obtain ⟨status, usage, w', hwait, hstatus, hlives'⟩ := hquiet.wait hlives
  refine ⟨usage, w', ?_, hlives'⟩
  unfold Task.reap
  simp [htermination, hprocess, Capture.awaitEnd, hwait, hstatus, bind, Except.bind, pure, Except.pure,
    Task.exitedZero]

theorem finishIfRunning (hlives : lives .reaped child w) (hstdout : child.stdout = some fd)
    (hprocess : task.process = some child) (hstate : task.state = .executing) (fuel : Nat) :
    ∃ w', task.finishIfRunning host (fuel + 1) w = .ok (.ok (), task.closed child (host.now w'), w') ∧
      idle w' := by
  obtain ⟨w₁, hread, hlives₁⟩ := hquiet.readAvailable hlives (by decide) hstdout hprocess fuel
  refine ⟨(closePipes host child w₁).2, ?_, hquiet.close hlives₁⟩
  have hrunning : task.state.isRunning = true := by
    rw [hstate]
    rfl
  unfold Task.finishIfRunning Task.finishExecution
  rw [if_pos hrunning, hread, hstate]
  simp only [bind, Except.bind, hprocess, pure, Except.pure, Except.map]
  rfl

/-- The wait for output ends with one event, which tells of the end of the output. -/
theorem watch (hlives : lives .running child w) (hstdout : child.stdout = some fd) (id : TaskId) (fuel : Nat) :
    ∃ event w', (ReadinessSet.empty.register fd id).wait host (fuel + 1) w = .ok (.ok [event], w') ∧
      event.index = 0 ∧ event.owner = id ∧ (event.readable || event.hungUp) = true ∧ lives .ended child w' := by
  obtain ⟨conditions, w', hpoll, htells, hlives'⟩ := hquiet.poll hlives hstdout
  have hevent : (ReadinessSet.empty.register fd id).eventsFrom 0 [conditions] =
      [⟨0, id, conditions.isReadable, conditions.isHungUp⟩] := by
    simp [ReadinessSet.eventsFrom, ReadinessSet.eventAt, ReadinessSet.register, ReadinessSet.empty,
      Conditions.any_of_tells htells]
  refine ⟨⟨0, id, conditions.isReadable, conditions.isHungUp⟩, w', ?_, rfl, rfl, htells, hlives'⟩
  have hpolled : host.poll (ReadinessSet.empty.register fd id).descriptors w = (.answer [conditions], w') := hpoll
  rw [ReadinessSet.wait, hpolled]
  exact congrArg (fun events => Except.ok (Except.ok events, w')) hevent

end Host.Quiet

end BatchRunner
