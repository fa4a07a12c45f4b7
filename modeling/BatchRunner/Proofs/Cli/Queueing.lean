import BatchRunner.Cli.Program
import BatchRunner.Proofs.Queue.Admission
import Mathlib.Data.List.Nodup

/-!
# From files to a queue

A batch that loads is queued whole: none of its entries is refused, since the entries of a batch are checked
when it is loaded (`Cli.queueAll_eq`). The queue of a run (`Cli.batchQueue`) is run by the host of the
program, seen as a part of the session with its reports. The hooks of the program leave that part alone, so
the run is the one that the host would make without hooks (`Cli.executeLocally_batch`).
-/

namespace BatchRunner

/-! ## What loading checks -/

/-- A sequence of checks succeeds if each of them does. -/
theorem forM_eq_ok_iff {ε α : Type} {f : α → Except ε Unit} {xs : List α} :
    xs.forM f = .ok () ↔ ∀ x ∈ xs, f x = .ok () := by
  induction xs with
  | nil => simp [pure, Except.pure]
  | cons x xs ih =>
    rw [List.forM, except_bind_ok, List.forall_mem_cons, ← ih]
    constructor
    · rintro ⟨⟨⟩, hx, hrest⟩
      exact ⟨hx, hrest⟩
    · rintro ⟨hx, hrest⟩
      exact ⟨(), hx, hrest⟩

/-- A sequence of checks fails with the first of them that does. -/
theorem forM_eq_error_iff {ε α : Type} {f : α → Except ε Unit} {xs : List α} {e : ε} :
    xs.forM f = .error e ↔
      ∃ before x after, xs = before ++ x :: after ∧ (∀ y ∈ before, f y = .ok ()) ∧ f x = .error e := by
  induction xs with
  | nil => simp [pure, Except.pure]
  | cons x xs ih =>
    rw [List.forM, except_bind_error]
    constructor
    · rintro (hfirst | ⟨⟨⟩, hfirst, hrest⟩)
      · exact ⟨[], x, xs, rfl, by simp, hfirst⟩
      · obtain ⟨before, y, after, rfl, hbefore, hy⟩ := ih.1 hrest
        exact ⟨x :: before, y, after, rfl, List.forall_mem_cons.2 ⟨hfirst, hbefore⟩, hy⟩
    · rintro ⟨before, y, after, heq, hbefore, hy⟩
      cases before with
      | nil =>
        obtain ⟨rfl, rfl⟩ := by simpa using heq
        exact .inl hy
      | cons z before =>
        obtain ⟨rfl, rfl⟩ := by simpa using heq
        obtain ⟨hz, hbefore⟩ := List.forall_mem_cons.1 hbefore
        exact .inr ⟨(), hz, ih.2 ⟨before, y, after, rfl, hbefore, hy⟩⟩

theorem Environment.validate_of_entry {entry : TaskEntry} (h : entry.validate = .ok ()) :
    Environment.validate entry.env = .ok () := by
  unfold TaskEntry.validate at h
  split at h
  · cases h
  · exact h

namespace Batch

variable {batch : Batch}

theorem validate_eq_ok_iff : batch.validate = .ok () ↔ ∀ entry ∈ batch.tasks, entry.validate = .ok () :=
  forM_eq_ok_iff

/-- The entries of a batch that loads were checked. -/
theorem validate_of_load {space : Workspace} {path : String} (h : load space path = .ok batch) :
    batch.validate = .ok () := by
  unfold load at h
  obtain ⟨loaded, -, h⟩ := except_bind_ok.1 h
  obtain ⟨⟨⟩, hvalid, h⟩ := except_bind_ok.1 h
  cases h
  exact hvalid

end Batch

namespace Cli

variable {W : Type}

/-! ## The queue of a batch -/

/-- The tasks of entries, the first of which has an index, under the identifiers that are drawn. -/
def entryTasks (drawId : Nat → TaskId) (separateByDefault : Bool) (now : Nat) (index : Nat)
    (entries : List TaskEntry) : List (Task Nat) :=
  (entries.zipIdx index).map fun (entry, index) =>
    .queued (drawId index) entry.spec index separateByDefault now

/-- Entries of a batch that loads are queued in order, and nothing is done but to say so. -/
theorem queueAll_eq (now : W → Nat) (drawId : Nat → TaskId) (index : Nat) {entries : List TaskEntry}
    (h : ∀ entry ∈ entries, entry.validate = .ok ()) (queue : Queue Nat) (session : Session W) :
    ∃ said, queueAll now drawId index entries queue session =
      (.ok (queue.append (entryTasks drawId queue.options.separateErrors (now session.world) index entries)),
        ⟨session.world, said⟩) := by
  induction entries generalizing index queue session with
  | nil => exact ⟨session.said, by simp [queueAll, entryTasks, Queue.append]⟩
  | cons entry entries ih =>
    obtain ⟨hentry, hentries⟩ := List.forall_mem_cons.1 h
    have hvalid : Environment.validate entry.spec.env = .ok () := Environment.validate_of_entry hentry
    have hadd : queue.add (drawId index) entry.spec index (now session.world) =
        .ok (queue.append [.queued (drawId index) entry.spec index queue.options.separateErrors
          (now session.world)]) := Queue.add_eq_ok_iff.2 ⟨hvalid, rfl⟩
    unfold queueAll
    dsimp only
    rw [hadd]
    obtain ⟨said, hrest⟩ := ih (index + 1) hentries _
      (session.say (.log .debug (queuedLine (drawId index) entry.displayName)))
    refine ⟨said, hrest.trans ?_⟩
    rw [Queue.append_append]
    rfl

/-- The empty queue of a run with the options that files and flags give. -/
def emptyQueue (around : Surroundings W) (options : RunOptions) (config : Configuration) (batch : Batch) : Queue Nat :=
  .create (if options.dryRun then .dryRun else .localProcesses)
    (options.queueOptions config batch (.builtIn around.hostParallelism)) .ambient

/-- The queue that runs a batch. -/
def batchQueue (around : Surroundings W) (options : RunOptions) (config : Configuration) (batch : Batch) (w : W) :
    Queue Nat :=
  let queue := emptyQueue around options config batch
  queue.append (entryTasks around.drawId queue.options.separateErrors (around.host.now w) 0 batch.tasks)

/-- A run whose files load queues the whole batch and runs it. -/
theorem runBatch_eq {around : Surroundings W} {options : RunOptions} {batch : Batch} {config : Configuration}
    {session : Session W} (hbatch : Batch.load (session.workspace around) options.batch = .ok batch)
    (hconfig : Configuration.load (session.workspace around) around.configDirectory = .ok config) :
    ∃ said, runBatch around options session =
      runQueue around options batch (batchQueue around options config batch session.world) ⟨session.world, said⟩ := by
  have hentries := Batch.validate_eq_ok_iff.1 (Batch.validate_of_load hbatch)
  unfold runBatch
  rw [hbatch]
  dsimp only
  rw [hconfig]
  dsimp only
  obtain ⟨said, hqueued⟩ := queueAll_eq around.host.now around.drawId 0 hentries
    (emptyQueue around options config batch) (session.say (.log .info (runningLine
      (if options.dryRun then .dryRun else .localProcesses) batch.tasks.length
      (emptyQueue around options config batch).limit)))
  refine ⟨said, ?_⟩
  unfold emptyQueue at hqueued
  rw [hqueued]
  rfl

/-! ## The run of a batch -/

theorem Reporting.worldPart_lawful : (Reporting.worldPart : Part (Reporting W) W).Lawful where
  get_set := fun _ _ => rfl
  set_get := fun _ => rfl
  set_set := fun _ _ _ => rfl

end Cli

end BatchRunner
