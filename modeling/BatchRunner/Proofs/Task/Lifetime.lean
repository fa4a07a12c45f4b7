import BatchRunner.Proofs.Host.Quiet
import BatchRunner.Proofs.Host.Scripted
import BatchRunner.Proofs.Task.Unbroken

/-!
# The life of a task

The owner of a task may make its calls in any order, and each of them may find the host in any state
(`Task.Called`). What one call can do is said once, as a relation (`Task.Does`, `Task.call_does`). From it follow
what holds of a task at every moment of its life (`Task.Kept`), what later calls leave of it (`Task.Precedes`), and,
with the calls that break a rule (`Task.Refuses`), the whole of its life (`Task.lifetime`).
-/

namespace BatchRunner

open Capture

variable {κ W : Type}

/-! ## What was captured only grows -/

/-- Later bytes begin with earlier ones. -/
def Capture.Extends (bytes captured : ByteArray) : Prop := ∃ more, captured = bytes ++ more

/-- What a reading may make of the bytes captured from a pipe: more of them follow, if the pipe is open. -/
structure Capture.Appends (pipe : Option Fd) (bytes captured : ByteArray) : Prop where
  grows : Extends bytes captured
  closed : pipe = none → captured = bytes

namespace Capture

variable {host : Host W} {pipe : Option Fd} {fd : Fd} {fuel : Nat} {bytes captured : ByteArray} {w w' : W}

theorem Extends.refl (bytes : ByteArray) : Extends bytes bytes := ⟨.empty, ByteArray.append_empty.symm⟩

theorem Extends.trans {a b c : ByteArray} (h : Extends a b) (h' : Extends b c) : Extends a c := by
  obtain ⟨more, rfl⟩ := h
  obtain ⟨more', rfl⟩ := h'
  exact ⟨more ++ more', ByteArray.append_assoc⟩

theorem Extends.append (bytes chunk : ByteArray) : Extends bytes (bytes ++ chunk) := ⟨chunk, rfl⟩

theorem drain_extends {result : Except Os.Fault Drained}
    (hcall : drain host fd fuel bytes w = .ok (result, captured, w')) : Extends bytes captured := by
  induction fuel generalizing bytes w with
  | zero => cases hcall
  | succ fuel ih =>
    rw [drain] at hcall
    split at hcall
    · cases hcall
    · split at hcall
      · cases hcall
        exact .refl _
      · exact (Extends.append _ _).trans (ih hcall)
    · split at hcall
      · exact ih hcall
      · split at hcall <;> cases hcall <;> exact .refl _

theorem readToEnd_extends {result : Except Os.Fault Unit}
    (hcall : readToEnd host fd fuel bytes w = .ok (result, captured, w')) : Extends bytes captured := by
  induction fuel generalizing bytes w with
  | zero => cases hcall
  | succ fuel ih =>
    rw [readToEnd] at hcall
    split at hcall
    · cases hcall
    · split at hcall
      · cases hcall
        exact .refl _
      · exact (Extends.append _ _).trans (ih hcall)
    · split at hcall
      · exact ih hcall
      · cases hcall
        exact .refl _

namespace Appends

theorem refl (pipe : Option Fd) (bytes : ByteArray) : Appends pipe bytes bytes := ⟨.refl bytes, fun _ => rfl⟩

theorem drainOpen {result : Except Os.Fault Drained}
    (hcall : Capture.drainOpen host pipe fuel bytes w = .ok (result, captured, w')) : Appends pipe bytes captured := by
  cases pipe with
  | none =>
    cases hcall
    exact refl none bytes
  | some fd => exact ⟨drain_extends hcall, fun hnone => absurd hnone (Option.some_ne_none fd)⟩

theorem readOpen {result : Except Os.Fault Unit}
    (hcall : Capture.readOpen host pipe fuel bytes w = .ok (result, captured, w')) : Appends pipe bytes captured := by
  cases pipe with
  | none =>
    cases hcall
    exact refl none bytes
  | some fd =>
    rw [Capture.readOpen, Capture.readBlocking] at hcall
    split at hcall
    · cases hcall
      exact refl (some fd) bytes
    · exact ⟨readToEnd_extends hcall, fun hnone => absurd hnone (Option.some_ne_none fd)⟩

end Appends

end Capture

/-- What a reading may make of the bytes captured from the two streams of a process. -/
structure Child.Captures (child : Child) (before after : Streams) : Prop where
  output : Appends child.stdout before.output after.output
  errors : Appends child.stderr before.errors after.errors

namespace Child.Captures

variable {host : Host W} {child : Child} {fuel : Nat} {before after : Streams} {w w' : W}

theorem drainBoth {result : Except Os.Fault Drained}
    (hcall : Capture.drainBoth host fuel child before w = .ok (result, after, w')) : child.Captures before after := by
  unfold Capture.drainBoth at hcall
  obtain ⟨⟨first, output, v⟩, hfirst, hcall⟩ := except_bind_ok.1 hcall
  cases first with
  | error cause =>
    cases hcall
    exact ⟨.drainOpen hfirst, .refl _ _⟩
  | ok drained =>
    obtain ⟨⟨second, errors, v'⟩, hsecond, hcall⟩ := except_bind_ok.1 hcall
    cases hcall
    exact ⟨.drainOpen hfirst, .drainOpen hsecond⟩

theorem readBoth {result : Except Os.Fault Unit}
    (hcall : Capture.readBoth host fuel child before w = .ok (result, after, w')) : child.Captures before after := by
  unfold Capture.readBoth at hcall
  obtain ⟨⟨first, output, v⟩, hfirst, hcall⟩ := except_bind_ok.1 hcall
  cases first with
  | error cause =>
    cases hcall
    exact ⟨.readOpen hfirst, .refl _ _⟩
  | ok drained =>
    obtain ⟨⟨second, errors, v'⟩, hsecond, hcall⟩ := except_bind_ok.1 hcall
    cases hcall
    exact ⟨.readOpen hfirst, .readOpen hsecond⟩

end Child.Captures

/-- What was captured later begins with what was captured before. -/
structure Capture.Streams.Grows (before after : Streams) : Prop where
  output : Extends before.output after.output
  errors : Extends before.errors after.errors

theorem Capture.Streams.Grows.refl (streams : Streams) : streams.Grows streams := ⟨.refl _, .refl _⟩

theorem Capture.Streams.Grows.trans {a b c : Streams} (h : a.Grows b) (h' : b.Grows c) : a.Grows c :=
  ⟨h.output.trans h'.output, h.errors.trans h'.errors⟩

theorem Child.Captures.grows {child : Child} {before after : Streams} (h : child.Captures before after) :
    before.Grows after :=
  ⟨h.output.grows, h.errors.grows⟩

/-- Every process that a host starts has a pipe for its standard output, and one for its standard error exactly if
the two are to be apart. -/
def Host.GivesPipes (host : Host W) : Prop :=
  ∀ {launch w child w'}, host.spawn launch w = (.ok child, w') →
    child.stdout.isSome = true ∧ child.stderr.isSome = launch.separateErrors

theorem Account.Orderly.givesPipes {account : Account W} {host : Host W} {hooks : Hooks κ W}
    (h : account.Orderly host hooks) : host.GivesPipes :=
  fun hspawn => ⟨(h.spawn_ok hspawn).stdout, (h.spawn_ok hspawn).stderr⟩

theorem TaskState.canMoveTo_trans {a b c : TaskState} (h : a.canMoveTo b = true) (h' : b.canMoveTo c = true) :
    a.canMoveTo c = true := by
  cases a <;> cases b <;> cases c <;> simp_all [canMoveTo]

namespace Task

/-! ## Calls -/

/-- The calls that the owner of a task can make on it. -/
inductive Call where
  | execute (source : EnvironmentSource)
  | readAvailable
  | readToClose
  | finishExecution
  | reap

/-- Makes a call. Of its result only the failure is told. -/
def call (task : Task κ) (host : Host W) (fuel : Nat) : Call → W → Except Halt (Step κ W Unit)
  | .execute source, w => task.execute host source w
  | .readAvailable, w => do
    let (result, task, w) ← task.readAvailable host fuel w
    return (result.map fun _ => (), task, w)
  | .readToClose, w => task.readToClose host fuel w
  | .finishExecution, w => task.finishExecution host fuel w
  | .reap, w => do
    let (result, task, w) ← task.reap host fuel w
    return (result.map fun _ => (), task, w)

/-- What becomes of a task by calls that are made one after another, with their results. Each of them may find the
host in any state. -/
inductive Called (host : Host W) (task : Task κ) : List (Call × Except Error Unit) → Task κ → Prop
  | nil : Called host task [] task
  | snoc {calls : List (Call × Except Error Unit)} {between after : Task κ} {c : Call} {result : Except Error Unit}
      {fuel : Nat} {w w' : W} (h : Called host task calls between)
      (hcall : between.call host fuel c w = .ok (result, after, w')) : Called host task (calls ++ [(c, result)]) after

/-- Makes calls one after another. -/
def callAll (task : Task κ) (host : Host W) (fuel : Nat) :
    List Call → W → Except Halt (List (Call × Except Error Unit) × Task κ × W)
  | [], w => .ok ([], task, w)
  | c :: cs, w => do
    let (result, task, w) ← task.call host fuel c w
    let (results, task, w) ← task.callAll host fuel cs w
    return ((c, result) :: results, task, w)

/-- The calls that break a rule: starting what was started, finishing what does not execute, and reaping what has no
process or was reaped. -/
def Refuses (task : Task κ) : Call → Prop
  | .execute _ => task.state ≠ .preparing
  | .finishExecution => task.state ≠ .executing
  | .reap => task.pid = none ∨ task.termination.isSome = true
  | .readAvailable => False
  | .readToClose => False

/-- A task whose process could not be started. -/
def unstarted (task : Task κ) (now : Nat) : Task κ := { task with state := .finished, completedAt := some now }

/-- A task with other bytes captured. -/
def capturing (task : Task κ) (streams : Streams) : Task κ := { task with streams }

/-- A task whose process was reaped. -/
def ended (task : Task κ) (status : WaitStatus) (usage : ResourceUsage) : Task κ :=
  { task with usage := some usage, termination := some (.ofStatus status) }

/-- What a reading may make of the bytes that a task has captured. -/
def Reads (task : Task κ) (streams : Streams) : Prop :=
  streams = task.streams ∨ ∃ child ∈ task.process, child.Captures task.streams streams

/-- What a call on a task can do. -/
inductive Does (host : Host W) (task : Task κ) (w : W) : Call → Except Error Unit → Task κ → W → Prop
  | started {source : EnvironmentSource} {vars : Variables} {child : Child} {w' : W} (hstate : task.state = .preparing)
      (hspawn : host.spawn ⟨task.spec.program, task.spec.args, vars, task.separateErrors⟩ w = (.ok child, w')) :
      Does host task w (.execute source) (.ok ()) (task.started child (host.now w')) w'
  | notStarted {source : EnvironmentSource} {vars : Variables} {cause : Os.Fault} {w' : W}
      (hstate : task.state = .preparing)
      (hspawn : host.spawn ⟨task.spec.program, task.spec.args, vars, task.separateErrors⟩ w = (.error cause, w')) :
      Does host task w (.execute source) (.error (.spawn task.spec.program cause)) (task.unstarted (host.now w')) w'
  | read {c : Call} {result : Except Error Unit} {streams : Streams} {w' : W}
      (hc : c = .readAvailable ∨ c = .readToClose) (hreads : task.Reads streams) :
      Does host task w c result (task.capturing streams) w'
  | finished {result : Except Error Unit} {child : Child} {streams : Streams} {now : Nat} {w' : W}
      (hstate : task.state = .executing) (hprocess : task.process = some child)
      (hstreams : child.Captures task.streams streams) :
      Does host task w .finishExecution result ((task.capturing streams).closed child now) w'
  | reaped {child : Child} {status : WaitStatus} {usage : ResourceUsage} {w' : W}
      (hprocess : task.process = some child) (htermination : task.termination = none) :
      Does host task w .reap (.ok ()) (task.ended status usage) w'
  | notReaped {child : Child} {cause : Os.Fault} {w' : W} (hprocess : task.process = some child) :
      Does host task w .reap (.error (.wait child.pid cause)) task w'

/-! ## One call -/

/-- What holds of a task at every moment of its life. -/
structure Kept (task : Task κ) : Prop where
  env : Environment.validate task.spec.env = .ok ()
  stdout : task.stdout?.isSome = true ↔ task.state = .executing
  closed : task.state = .finished → task.hasOpenPipes = false
  pid : task.pid = task.process.map (·.pid)
  unstarted : task.state = .preparing → task.process = none
  unended : task.process = none → task.termination = none
  merged : task.separateErrors = false → task.streams.errors = .empty ∧ ∀ child ∈ task.process, child.stderr = none

theorem create_kept {id : TaskId} {spec : TaskSpec} {context : κ} {separateByDefault : Bool} {now : Nat}
    {task : Task κ} (hcreate : create id spec context separateByDefault now = .ok task) : task.Kept := by
  obtain ⟨henv, rfl⟩ := create_eq_ok_iff.1 hcreate
  exact {
    env := henv
    stdout := by simp [stdout?, queued]
    closed := nofun
    pid := rfl
    unstarted := fun _ => rfl
    unended := fun _ => rfl
    merged := fun _ => ⟨rfl, nofun⟩ }

namespace Kept

variable {task : Task κ} (h : task.Kept)

include h

/-- A task that executes has a process. -/
theorem process_of_executing (hstate : task.state = .executing) : ∃ child, task.process = some child := by
  obtain ⟨fd, hfd⟩ := Option.isSome_iff_exists.1 (h.stdout.2 hstate)
  obtain ⟨child, hchild, -⟩ := Option.bind_eq_some_iff.1 hfd
  exact ⟨child, hchild⟩

theorem pid_eq_none_iff : task.pid = none ↔ task.process = none := by
  rw [h.pid, Option.map_eq_none_iff]

/-- The variables for the process of a task can be told. -/
theorem resolveVariables (host : Host W) (source : EnvironmentSource) (w : W) :
    ∃ vars, task.resolveVariables host source w = .ok vars := by
  unfold Task.resolveVariables
  split
  · cases source <;> exact ⟨_, rfl⟩
  · exact Environment.ofEntries_of_validate h.env

end Kept

variable {host : Host W} {task after : Task κ} {source : EnvironmentSource} {fuel : Nat} {c : Call}
  {result : Except Error Unit} {w w' : W}

theorem execute_does (hkept : task.Kept) (hcall : task.execute host source w = .ok (result, after, w')) :
    task.Does host w (.execute source) result after w' := by
  unfold execute at hcall
  obtain ⟨⟨⟩, hmove, hcall⟩ := except_bind_ok.1 hcall
  have hstate : task.state = .preparing := by
    unfold checkMove at hmove
    cases hstate : task.state <;> simp [hstate, TaskState.canMoveTo] at hmove ⊢
  obtain ⟨vars, hvars⟩ := hkept.resolveVariables host source w
  rw [hvars] at hcall
  dsimp only at hcall
  split at hcall
  · next child v hspawn =>
    cases hcall
    exact .started hstate hspawn
  · next cause v hspawn =>
    cases hcall
    exact .notStarted hstate hspawn

/-- Reading what is there changes what was captured, and nothing else. -/
theorem readAvailable_reads {ended : Except Error Bool}
    (hcall : task.readAvailable host fuel w = .ok (ended, after, w')) :
    ∃ streams, after = task.capturing streams ∧ task.Reads streams := by
  unfold readAvailable at hcall
  split at hcall
  · cases hcall
    exact ⟨task.streams, rfl, .inl rfl⟩
  · next child hprocess =>
    obtain ⟨⟨drained, streams, v⟩, hdrain, hcall⟩ := except_bind_ok.1 hcall
    have hstreams : child.Captures task.streams streams := .drainBoth hdrain
    refine ⟨streams, ?_, .inr ⟨child, hprocess, hstreams⟩⟩
    cases drained <;> cases hcall <;> rfl

theorem readToClose_reads (hcall : task.readToClose host fuel w = .ok (result, after, w')) :
    ∃ streams, after = task.capturing streams ∧ task.Reads streams := by
  unfold readToClose at hcall
  split at hcall
  · cases hcall
    exact ⟨task.streams, rfl, .inl rfl⟩
  · next child hprocess =>
    obtain ⟨⟨drained, streams, v⟩, hdrain, hcall⟩ := except_bind_ok.1 hcall
    have hstreams : child.Captures task.streams streams := .readBoth hdrain
    refine ⟨streams, ?_, .inr ⟨child, hprocess, hstreams⟩⟩
    cases drained <;> cases hcall <;> rfl

theorem finishExecution_does (hkept : task.Kept)
    (hcall : task.finishExecution host fuel w = .ok (result, after, w')) :
    task.Does host w .finishExecution result after w' := by
  unfold finishExecution at hcall
  split at hcall
  · cases hcall
  · next hnot =>
    have hstate : task.state = .executing := by simpa using hnot
    obtain ⟨child, hprocess⟩ := hkept.process_of_executing hstate
    obtain ⟨⟨ended, drained, v⟩, hread, hcall⟩ := except_bind_ok.1 hcall
    obtain ⟨streams, rfl, hreads⟩ := readAvailable_reads hread
    have hsame : (task.capturing streams).process = some child := hprocess
    simp only [hsame] at hcall
    have hcaptures : child.Captures task.streams streams := by
      rcases hreads with rfl | ⟨other, hother, hcaptures⟩
      · exact ⟨.refl _ _, .refl _ _⟩
      · obtain rfl : child = other := Option.some.inj (hprocess.symm.trans hother)
        exact hcaptures
    cases hcall
    exact .finished hstate hprocess hcaptures

theorem reap_does {learnt : Except Error Termination} (hcall : task.reap host fuel w = .ok (learnt, after, w')) :
    task.Does host w .reap (learnt.map fun _ => ()) after w' := by
  unfold reap at hcall
  split at hcall
  · cases hcall
  · next hsome =>
    have htermination : task.termination = none := by simpa using hsome
    split at hcall
    · cases hcall
    · next child hprocess =>
      obtain ⟨⟨found, v⟩, -, hcall⟩ := except_bind_ok.1 hcall
      cases found with
      | error cause =>
        cases hcall
        exact .notReaped hprocess
      | ok found =>
        cases hcall
        exact .reaped hprocess htermination

/-- A call that gives an answer does what it can do. -/
theorem call_does (hkept : task.Kept) (hcall : task.call host fuel c w = .ok (result, after, w')) :
    task.Does host w c result after w' := by
  cases c with
  | execute source => exact execute_does hkept hcall
  | readAvailable =>
    obtain ⟨⟨ended, read, v⟩, hread, hcall⟩ := except_bind_ok.1 hcall
    obtain ⟨streams, rfl, hreads⟩ := readAvailable_reads hread
    cases hcall
    exact .read (.inl rfl) hreads
  | readToClose =>
    obtain ⟨streams, rfl, hreads⟩ := readToClose_reads hcall
    exact .read (.inr rfl) hreads
  | finishExecution => exact finishExecution_does hkept hcall
  | reap =>
    obtain ⟨⟨learnt, reaped, v⟩, hreap, hcall⟩ := except_bind_ok.1 hcall
    cases hcall
    exact reap_does hreap

namespace Reads

variable {streams : Streams} (h : task.Reads streams)

include h

theorem grows : task.streams.Grows streams := by
  rcases h with rfl | ⟨child, -, hcaptures⟩
  · exact .refl _
  · exact hcaptures.grows

/-- Nothing is read once the pipes are closed. -/
theorem eq_of_closed (hclosed : task.hasOpenPipes = false) : streams = task.streams := by
  rcases h with rfl | ⟨child, hprocess, hcaptures⟩
  · rfl
  · obtain ⟨houtput, herrors⟩ : child.stdout = none ∧ child.stderr = none := by
      have hpipes : ¬(child.stdout.isSome || child.stderr.isSome) = true := by
        simpa [hasOpenPipes, Option.mem_def.1 hprocess] using hclosed
      simpa using hpipes
    calc
      streams = ⟨streams.output, streams.errors⟩ := rfl
      _ = ⟨task.streams.output, task.streams.errors⟩ := by
        rw [hcaptures.output.closed houtput, hcaptures.errors.closed herrors]
      _ = task.streams := rfl

/-- Nothing is read as errors if the streams are not apart. -/
theorem merged (hkept : task.Kept) (hmerged : task.separateErrors = false) : streams.errors = .empty := by
  obtain ⟨hempty, hnone⟩ := hkept.merged hmerged
  rcases h with rfl | ⟨child, hprocess, hcaptures⟩
  · exact hempty
  · rw [hcaptures.errors.closed (hnone child hprocess), hempty]

end Reads

/-- Every call keeps what holds of a task at every moment. -/
theorem Does.kept (hpipes : host.GivesPipes) (h : task.Does host w c result after w') (hkept : task.Kept) :
    after.Kept := by
  cases h with
  | @started source vars child w' hstate hspawn =>
    obtain ⟨hstdout, hstderr⟩ := hpipes hspawn
    exact {
      env := hkept.env
      stdout := iff_of_true hstdout rfl
      closed := fun hfinished => by cases hfinished
      pid := rfl
      unstarted := fun hpreparing => by cases hpreparing
      unended := fun hnone => by cases hnone
      merged := fun hmerged => by
        have hnone : child.stderr = none := by simpa using hstderr.trans hmerged
        refine ⟨(hkept.merged hmerged).1, ?_⟩
        rintro _ ⟨⟩
        exact hnone }
  | notStarted hstate hspawn =>
    have hprocess := hkept.unstarted hstate
    exact {
      env := hkept.env
      stdout := by simp [stdout?, unstarted, hprocess]
      closed := fun _ => by simp [hasOpenPipes, unstarted, hprocess]
      pid := hkept.pid
      unstarted := fun hpreparing => by cases hpreparing
      unended := hkept.unended
      merged := hkept.merged }
  | read hc hreads =>
    exact {
      env := hkept.env
      stdout := hkept.stdout
      closed := hkept.closed
      pid := hkept.pid
      unstarted := hkept.unstarted
      unended := hkept.unended
      merged := fun hmerged => ⟨hreads.merged hkept hmerged, (hkept.merged hmerged).2⟩ }
  | @finished result child streams now w' hstate hprocess hstreams =>
    have hreads : task.Reads streams := .inr ⟨child, hprocess, hstreams⟩
    exact {
      env := hkept.env
      stdout := by simp [stdout?, closed]
      closed := fun _ => rfl
      pid := by rw [closed, capturing, hkept.pid, hprocess]; rfl
      unstarted := fun hpreparing => by cases hpreparing
      unended := fun hnone => by cases hnone
      merged := fun hmerged => by
        refine ⟨hreads.merged hkept hmerged, ?_⟩
        rintro _ ⟨⟩
        rfl }
  | reaped hprocess htermination =>
    exact {
      env := hkept.env
      stdout := hkept.stdout
      closed := hkept.closed
      pid := hkept.pid
      unstarted := hkept.unstarted
      unended := fun hnone => by simp [ended, hprocess] at hnone
      merged := hkept.merged }
  | notReaped hprocess => exact hkept

/-! ## Calls that break a rule -/

/-- A task that can be reaped breaks no rule by it. -/
theorem Kept.leavable (hkept : task.Kept) (hpid : task.pid ≠ none) (htermination : task.termination = none) :
    task.Leavable := by
  have hprocess : task.process ≠ none := fun hnone => hpid (hkept.pid_eq_none_iff.2 hnone)
  refine ⟨Option.isSome_iff_ne_none.2 hprocess, htermination, ?_⟩
  cases hstate : task.state with
  | preparing => exact absurd (hkept.unstarted hstate) hprocess
  | executing => exact .inl rfl
  | finished => exact .inr (hkept.closed hstate)

theorem refuses_of_violation (hkept : task.Kept) {violation : Violation}
    (hcall : task.call host fuel c w = .error (.violation violation)) : task.Refuses c := by
  cases c with
  | execute source => exact fun hstate => execute_unbroken hstate violation hcall
  | readAvailable =>
    have hunbroken : Unbroken (task.call host fuel .readAvailable w) :=
      (readAvailable_unbroken task).bind fun _ _ => .ok _
    exact hunbroken violation hcall
  | readToClose => exact readToClose_unbroken task violation hcall
  | finishExecution => exact fun hstate => finishExecution_unbroken hstate violation hcall
  | reap =>
    by_cases hpid : task.pid = none
    · exact .inl hpid
    · refine .inr (Option.isSome_iff_ne_none.2 fun htermination => ?_)
      have hunbroken : Unbroken (task.call host fuel .reap w) :=
        (reap_unbroken (hkept.leavable hpid htermination)).bind fun _ _ => .ok _
      exact hunbroken violation hcall

theorem violation_of_refuses (hkept : task.Kept) (hrefuses : task.Refuses c) (fuel : Nat) (w : W) :
    ∃ violation, task.call host fuel c w = .error (.violation violation) := by
  cases c with
  | execute source =>
    have hmove : task.checkMove .executing = .error (.violation (.illegalMove task.id task.state .executing)) := by
      unfold checkMove
      cases hstate : task.state with
      | preparing => exact absurd hstate hrefuses
      | executing => rfl
      | finished => rfl
    exact ⟨_, except_bind_error.2 (.inl hmove)⟩
  | readAvailable => exact hrefuses.elim
  | readToClose => exact hrefuses.elim
  | finishExecution =>
    have hne : (task.state != .executing) = true := by simpa [Refuses] using hrefuses
    refine ⟨.finishedEarly task.id task.state, ?_⟩
    show task.finishExecution host fuel w = _
    unfold finishExecution
    rw [if_pos hne]
    rfl
  | reap =>
    cases htermination : task.termination with
    | some termination =>
      refine ⟨.reapedTwice task.id, except_bind_error.2 (.inl ?_)⟩
      simp [reap, htermination]
    | none =>
      have hprocess : task.process = none := by
        rcases hrefuses with hpid | hsome
        · exact hkept.pid_eq_none_iff.1 hpid
        · simp [htermination] at hsome
      refine ⟨.noProcess task.id, except_bind_error.2 (.inl ?_)⟩
      simp [reap, htermination, hprocess]

/-! ## Calls one after another -/

/-- What the calls that are made later leave of a task. -/
structure Precedes (task later : Task κ) : Prop where
  state : later.state = task.state ∨ task.state.canMoveTo later.state = true
  pid : ∀ pid ∈ task.pid, later.pid = some pid
  termination : ∀ termination ∈ task.termination, later.termination = some termination
  streams : task.streams.Grows later.streams
  finished : task.state = .finished → later.pid = task.pid ∧ later.streams = task.streams

namespace Precedes

variable {later : Task κ}

theorem refl (task : Task κ) : task.Precedes task where
  state := .inl rfl
  pid := fun _ hpid => hpid
  termination := fun _ htermination => htermination
  streams := .refl _
  finished := fun _ => ⟨rfl, rfl⟩

/-- A finished task stays finished. -/
theorem state_of_finished (h : task.Precedes later) (hstate : task.state = .finished) : later.state = .finished := by
  rcases h.state with heq | hmove
  · rw [heq, hstate]
  · rw [hstate] at hmove
    cases hmove

theorem trans (h : task.Precedes after) (h' : after.Precedes later) : task.Precedes later where
  state := by
    rcases h.state with heq | hmove
    · rw [← heq]
      exact h'.state
    · rcases h'.state with heq' | hmove'
      · exact .inr (heq' ▸ hmove)
      · -- Two moves lead from preparing to finished, where one may lead as well.
        exact .inr (TaskState.canMoveTo_trans hmove hmove')
  pid := fun pid hpid => h'.pid pid (h.pid pid hpid)
  termination := fun termination htermination => h'.termination termination (h.termination termination htermination)
  streams := h.streams.trans h'.streams
  finished := fun hstate => by
    obtain ⟨hpid, hstreams⟩ := h.finished hstate
    obtain ⟨hpid', hstreams'⟩ := h'.finished (h.state_of_finished hstate)
    exact ⟨hpid'.trans hpid, hstreams'.trans hstreams⟩

end Precedes

theorem Does.precedes (h : task.Does host w c result after w') (hkept : task.Kept) : task.Precedes after := by
  cases h with
  | started hstate hspawn =>
    have hprocess := hkept.unstarted hstate
    exact {
      state := .inr (by rw [hstate]; rfl)
      pid := fun pid hpid => by simp [hkept.pid, hprocess] at hpid
      termination := fun termination htermination => by simp [hkept.unended hprocess] at htermination
      streams := .refl _
      finished := fun hfinished => by simp [hstate] at hfinished }
  | notStarted hstate hspawn =>
    exact {
      state := .inr (by rw [hstate]; rfl)
      pid := fun _ hpid => hpid
      termination := fun _ htermination => htermination
      streams := .refl _
      finished := fun _ => ⟨rfl, rfl⟩ }
  | read hc hreads =>
    exact {
      state := .inl rfl
      pid := fun _ hpid => hpid
      termination := fun _ htermination => htermination
      streams := hreads.grows
      finished := fun hfinished => ⟨rfl, hreads.eq_of_closed (hkept.closed hfinished)⟩ }
  | finished hstate hprocess hstreams =>
    exact {
      state := .inr (by rw [hstate]; rfl)
      pid := fun _ hpid => hpid
      termination := fun _ htermination => htermination
      streams := hstreams.grows
      finished := fun hfinished => by simp [hstate] at hfinished }
  | reaped hprocess htermination =>
    exact {
      state := .inl rfl
      pid := fun _ hpid => hpid
      termination := fun _ hsome => by simp [htermination] at hsome
      streams := .refl _
      finished := fun _ => ⟨rfl, rfl⟩ }
  | notReaped hprocess => exact .refl task

namespace Called

variable {created later : Task κ} {calls calls' : List (Call × Except Error Unit)}

theorem trans (h : Called host task calls after) (h' : Called host after calls' later) :
    Called host task (calls ++ calls') later := by
  induction h' with
  | nil => rwa [List.append_nil]
  | snoc _ hcall ih =>
    rw [← List.append_assoc]
    exact ih.snoc hcall

theorem of_callAll {cs : List Call} (hcalls : task.callAll host fuel cs w = .ok (calls, later, w')) :
    Called host task calls later := by
  induction cs generalizing task calls w with
  | nil =>
    cases hcalls
    exact .nil
  | cons c cs ih =>
    obtain ⟨⟨result, between, v⟩, hcall, hcalls⟩ := except_bind_ok.1 hcalls
    obtain ⟨⟨results, last, v'⟩, hrest, hcalls⟩ := except_bind_ok.1 hcalls
    cases hcalls
    exact trans (Called.nil.snoc hcall) (ih hrest)

theorem kept (h : Called host created calls task) (hpipes : host.GivesPipes) (hkept : created.Kept) : task.Kept := by
  induction h with
  | nil => exact hkept
  | snoc _ hcall ih => exact (call_does ih hcall).kept hpipes ih

theorem precedes (h : Called host task calls later) (hpipes : host.GivesPipes) (hkept : task.Kept) :
    task.Precedes later := by
  induction h with
  | nil => exact .refl task
  | snoc hbefore hcall ih =>
    have hbetween := hbefore.kept hpipes hkept
    exact ih.trans ((call_does hbetween hcall).precedes hbetween)

/-- A task has a number exactly if its process was started by one of the calls. -/
theorem pid_isSome_iff (h : Called host created calls task) (hpipes : host.GivesPipes) (hkept : created.Kept)
    (hpid : created.pid = none) :
    task.pid.isSome = true ↔ ∃ source, (Call.execute source, Except.ok ()) ∈ calls := by
  induction h with
  | nil => simp [hpid]
  | @snoc calls between after c result fuel w w' hbefore hcall ih =>
    have hlast : (∃ source, (Call.execute source, Except.ok ()) ∈ calls ++ [(c, result)]) ↔
        between.pid.isSome = true ∨ ∃ source, c = .execute source ∧ result = .ok () := by
      rw [ih]
      simp only [List.mem_append, List.mem_singleton, Prod.mk.injEq, exists_or, eq_comm]
    rw [hlast]
    cases call_does (hbefore.kept hpipes hkept) hcall with
    | started hstate hspawn => simp [started]
    | notStarted hstate hspawn => simp [unstarted]
    | read hc hreads => rcases hc with rfl | rfl <;> simp [capturing]
    | finished hstate hprocess hstreams => simp [closed, capturing]
    | reaped hprocess htermination => simp [ended]
    | notReaped hprocess => simp

/-- It is known how a task ended exactly if one of the calls reaped it. -/
theorem termination_isSome_iff (h : Called host created calls task) (hpipes : host.GivesPipes)
    (hkept : created.Kept) (htermination : created.termination = none) :
    task.termination.isSome = true ↔ (Call.reap, Except.ok ()) ∈ calls := by
  induction h with
  | nil => simp [htermination]
  | @snoc calls between after c result fuel w w' hbefore hcall ih =>
    have hlast : (Call.reap, Except.ok ()) ∈ calls ++ [(c, result)] ↔
        between.termination.isSome = true ∨ c = .reap ∧ result = .ok () := by
      rw [ih]
      simp only [List.mem_append, List.mem_singleton, Prod.mk.injEq, eq_comm]
    rw [hlast]
    cases call_does (hbefore.kept hpipes hkept) hcall with
    | started hstate hspawn => simp [started]
    | notStarted hstate hspawn => simp [unstarted]
    | read hc hreads => rcases hc with rfl | rfl <;> simp [capturing]
    | finished hstate hprocess hstreams => simp [closed, capturing]
    | reaped hprocess htermination => simp [ended]
    | notReaped hprocess => simp

end Called

/-- The moves that a call makes: a process is started, or cannot be started, or its task is finished. -/
inductive Moves (task : Task κ) : Call → Except Error Unit → Task κ → Prop
  | started {source : EnvironmentSource} {after : Task κ} (hbefore : task.state = .preparing)
      (hafter : after.state = .executing) (hpid : after.pid.isSome = true) : Moves task (.execute source) (.ok ()) after
  | notStarted {source : EnvironmentSource} {cause : Os.Fault} {after : Task κ} (hbefore : task.state = .preparing)
      (hafter : after.state = .finished) (hpid : after.pid = none) :
      Moves task (.execute source) (.error (.spawn task.spec.program cause)) after
  | finished {result : Except Error Unit} {after : Task κ} (hbefore : task.state = .executing)
      (hafter : after.state = .finished) : Moves task .finishExecution result after
  | stays {c : Call} {result : Except Error Unit} {after : Task κ} (hafter : after.state = task.state)
      (hpid : after.pid = task.pid) : Moves task c result after

/-- The life of a task on a host, at the moment when these calls have been made on it. -/
structure Lifetime (host : Host W) (calls : List (Call × Except Error Unit)) (task : Task κ) : Prop where
  kept : task.Kept
  /-- Whatever is called from then on, what was learnt is not unlearnt. -/
  precedes : ∀ {calls later}, Called host task calls later → task.Precedes later
  pid : task.pid.isSome = true ↔ ∃ source, (.execute source, .ok ()) ∈ calls
  termination : task.termination.isSome = true ↔ (.reap, .ok ()) ∈ calls
  moves : ∀ {c fuel w result after w'}, task.call host fuel c w = .ok (result, after, w') → task.Moves c result after
  /-- Starting a queued task gives it the number of its process, or finishes it if there is none. -/
  executes : ∀ source w, task.state = .preparing →
    ∃ vars, task.resolveVariables host source w = .ok vars ∧
      match host.spawn ⟨task.spec.program, task.spec.args, vars, task.separateErrors⟩ w with
      | (.ok child, w') => task.execute host source w = .ok (.ok (), task.started child (host.now w'), w')
      | (.error cause, w') => task.execute host source w =
          .ok (.error (.spawn task.spec.program cause), task.unstarted (host.now w'), w')
  refuses : ∀ c fuel w, (∃ violation, task.call host fuel c w = .error (.violation violation)) ↔ task.Refuses c
  /-- Reading and reaping that fail leave a task where it stands. -/
  fails : ∀ {c fuel w error after w'}, task.call host fuel c w = .ok (.error error, after, w') →
    c = .readAvailable ∨ c = .readToClose ∨ c = .reap →
      after.state = task.state ∧ after.pid = task.pid ∧ after.termination = task.termination
  /-- Once the last reading has come to an end, be it by a failure, an executing task is finished. -/
  finishes : ∀ {fuel w drained read v}, task.state = .executing →
    task.readAvailable host fuel w = .ok (drained, read, v) →
      ∃ after w', task.finishExecution host fuel w = .ok (drained.map fun _ => (), after, w') ∧
        after.state = .finished ∧ after.hasOpenPipes = false ∧ after.streams = read.streams

theorem Does.moves (h : task.Does host w c result after w') (hkept : task.Kept) : task.Moves c result after := by
  cases h with
  | started hstate hspawn => exact .started hstate rfl rfl
  | notStarted hstate hspawn =>
    exact .notStarted hstate rfl (hkept.pid_eq_none_iff.2 (hkept.unstarted hstate))
  | read hc hreads => exact .stays rfl rfl
  | finished hstate hprocess hstreams => exact .finished hstate rfl
  | reaped hprocess htermination => exact .stays rfl rfl
  | notReaped hprocess => exact .stays rfl rfl

theorem Does.fails {error : Error} (h : task.Does host w c (.error error) after w')
    (hc : c = .readAvailable ∨ c = .readToClose ∨ c = .reap) :
    after.state = task.state ∧ after.pid = task.pid ∧ after.termination = task.termination := by
  cases h with
  | notStarted hstate hspawn => simp at hc
  | read hc' hreads => exact ⟨rfl, rfl, rfl⟩
  | finished hstate hprocess hstreams => simp at hc
  | notReaped hprocess => exact ⟨rfl, rfl, rfl⟩

theorem execute_preparing (hkept : task.Kept) (hstate : task.state = .preparing) (host : Host W)
    (source : EnvironmentSource) (w : W) :
    ∃ vars, task.resolveVariables host source w = .ok vars ∧
      match host.spawn ⟨task.spec.program, task.spec.args, vars, task.separateErrors⟩ w with
      | (.ok child, w') => task.execute host source w = .ok (.ok (), task.started child (host.now w'), w')
      | (.error cause, w') => task.execute host source w =
          .ok (.error (.spawn task.spec.program cause), task.unstarted (host.now w'), w') := by
  obtain ⟨vars, hvars⟩ := hkept.resolveVariables host source w
  have hmove : task.checkMove .executing = .ok () := by
    rw [checkMove, hstate]
    rfl
  refine ⟨vars, hvars, ?_⟩
  rcases hspawn : host.spawn ⟨task.spec.program, task.spec.args, vars, task.separateErrors⟩ w with ⟨_ | _, w'⟩ <;>
    simp [execute, hmove, hvars, hspawn, bind, Except.bind, pure, Except.pure, started, unstarted]

theorem finishExecution_finishes (hkept : task.Kept) (hstate : task.state = .executing)
    {drained : Except Error Bool} {read : Task κ} {v : W}
    (hread : task.readAvailable host fuel w = .ok (drained, read, v)) :
    ∃ after w', task.finishExecution host fuel w = .ok (drained.map fun _ => (), after, w') ∧
      after.state = .finished ∧ after.hasOpenPipes = false ∧ after.streams = read.streams := by
  obtain ⟨child, hprocess⟩ := hkept.process_of_executing hstate
  have hsame : read.process = some child := by rw [readAvailable_eq hread, hprocess]
  have hnot : ¬(task.state != .executing) = true := by simp [hstate]
  refine ⟨read.closed child (host.now (closePipes host child v).2), (closePipes host child v).2, ?_, rfl, rfl, rfl⟩
  unfold finishExecution
  rw [if_neg hnot, hread]
  simp only [bind, Except.bind, hsame]
  rfl

/-- The state of a task only moves from preparing to executing to finished, or to finished at once if its process
could not be started. What was learnt of its process is not unlearnt, what was captured only grows, its standard output
is open exactly while it executes, and the calls that break a rule are those that it refuses. -/
theorem lifetime {id : TaskId} {spec : TaskSpec} {context : κ} {separateByDefault : Bool} {now : Nat}
    {created : Task κ} {calls : List (Call × Except Error Unit)} (hpipes : host.GivesPipes)
    (hcreate : create id spec context separateByDefault now = .ok created) (hcalled : Called host created calls task) :
    task.Lifetime host calls := by
  have hcreated : created.Kept := create_kept hcreate
  have hkept : task.Kept := hcalled.kept hpipes hcreated
  obtain ⟨-, hqueued⟩ := create_eq_ok_iff.1 hcreate
  exact {
    kept := hkept
    precedes := fun hlater => hlater.precedes hpipes hkept
    pid := hcalled.pid_isSome_iff hpipes hcreated (by rw [hqueued]; rfl)
    termination := hcalled.termination_isSome_iff hpipes hcreated (by rw [hqueued]; rfl)
    moves := fun hcall => (call_does hkept hcall).moves hkept
    executes := fun source w hstate => execute_preparing hkept hstate host source w
    refuses := fun c fuel w =>
      ⟨fun ⟨_, hcall⟩ => refuses_of_violation hkept hcall, fun hrefuses => violation_of_refuses hkept hrefuses fuel w⟩
    fails := fun hcall hc => (call_does hkept hcall).fails hc
    finishes := fun hstate hread => finishExecution_finishes hkept hstate hread }

/-- A process whose output cannot be read is reaped and its task finished, although the last reading fails. -/
theorem lifetime_of_unreadable :
    let host := Host.scripted 4 fun _ => some [.write false ⟨#[1, 2, 3]⟩]
    let spec : TaskSpec := { program := "three", separateErrors := some true }
    host.GivesPipes ∧ ∃ created calls task, create (.ofNat 7) spec () false 0 = .ok created ∧
      Called host created calls task ∧ calls.map (·.2.isOk) = [true, false, true, false] ∧
      task.state = .finished ∧ task.termination = some (.exited 0) ∧ task.Lifetime host calls := by
  intro host spec
  have hpipes : host.GivesPipes := (Account.scripted_orderly (κ := Unit) 4 _).givesPipes
  have hcreate : create (.ofNat 7) spec () false 0 = .ok (queued (.ofNat 7) spec () false 0) :=
    create_eq_ok_iff.2 ⟨rfl, rfl⟩
  have hends : ((queued (.ofNat 7) spec () false 0).callAll host 9
      [.execute .ambient, .readAvailable, .reap, .finishExecution] (.fresh [0])).toOption.map
        (fun (calls, task, _) => (calls.map (·.2.isOk), task.state, task.termination)) =
      some ([true, false, true, false], .finished, some (.exited 0)) := by
    decide +kernel
  generalize hcalls : (queued (.ofNat 7) spec () false 0).callAll host 9 _ _ = answer at hends
  rcases answer with halt | ⟨calls, task, w⟩
  · cases hends
  obtain ⟨hresults, hstate, htermination⟩ := by
    simpa only [Except.toOption, Option.map_some, Option.some.injEq, Prod.mk.injEq] using hends
  have hcalled : Called host (queued (.ofNat 7) spec () false 0) calls task := .of_callAll hcalls
  exact ⟨hpipes, _, calls, task, hcreate, hcalled, hresults, hstate, htermination,
    lifetime hpipes hcreate hcalled⟩

end Task

end BatchRunner
