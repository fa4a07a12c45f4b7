import BatchRunner.Proofs.Host.Account
import BatchRunner.Proofs.Host.Prompt
import Mathlib.Data.Option.Basic
import Mathlib.Data.List.Basic

/-!
# A host with pipes

A small host on which processes write to pipes that hold only so much. Each process does what its script says,
as far as it comes: a write for which there is no room waits until somebody reads. Between the calls of a queue
every process runs until it has ended or has to wait, and so a call that nothing can answer any more is never
answered. The account of this host is piped (`Account.scripted_piped`).
-/

namespace BatchRunner

namespace Scripted

/-- What a process does next. -/
inductive Act where
  | write (toErrors : Bool) (bytes : ByteArray)
  | closeOutput

/-- A process: what it has left to do, the pipes that it writes to, and how it ends. -/
structure Process where
  script : List Act
  output : Option Fd
  errors : Option Fd
  status : WaitStatus

/-- The pipes of a world, by the descriptors of their reading ends. -/
abbrev Pipes := List (Option Pipe)

structure World where
  pipes : Pipes
  /-- The processes, by their numbers. -/
  processes : List Process
  /-- The numbers of the processes whose ends have not been learnt. -/
  children : List Pid
  /-- The descriptors from which reads wait. -/
  blocking : List Fd
  /-- The descriptors from which reads fail. -/
  faulty : List Fd

namespace Pipes

variable {pipes pipes' pipes'' : Pipes} {fd fd' : Fd}

/-- The pipe behind a descriptor, if its reading end is open. -/
def open? (pipes : Pipes) (fd : Fd) : Option Pipe := pipes[fd]?.join

/-- Changes the pipe behind a descriptor. -/
def alter (pipes : Pipes) (fd : Fd) (f : Pipe → Pipe) : Pipes := pipes.modify fd (Option.map f)

/-- Changes all pipes. -/
def alterAll (pipes : Pipes) (f : Pipe → Pipe) : Pipes := pipes.map (Option.map f)

/-- What may become of pipes that nobody reads from. -/
def Flow (pipes pipes' : Pipes) : Prop := ∀ fd, Option.Rel Pipe.Grows (pipes.open? fd) (pipes'.open? fd)

theorem open?_alter (f : Pipe → Pipe) :
    (pipes.alter fd f).open? fd' = if fd = fd' then (pipes.open? fd').map f else pipes.open? fd' := by
  unfold open? alter
  rw [List.getElem?_modify]
  split <;> rcases pipes[fd']? with _ | _ | _ <;> rfl

theorem open?_alterAll (f : Pipe → Pipe) : (pipes.alterAll f).open? fd = (pipes.open? fd).map f := by
  unfold open? alterAll
  rw [List.getElem?_map]
  rcases pipes[fd]? with _ | _ | _ <;> rfl

theorem Flow.refl (pipes : Pipes) : pipes.Flow pipes := by
  intro fd
  cases pipes.open? fd with
  | none => exact .none
  | some p => exact .some (.refl p)

/-- Pipes that nobody reads from may go on so, step after step. -/
theorem Flow.trans (h : pipes.Flow pipes') (h' : pipes'.Flow pipes'') : pipes.Flow pipes'' := by
  intro fd
  have hfirst := h fd
  have hlast := h' fd
  generalize pipes.open? fd = a, pipes'.open? fd = b, pipes''.open? fd = c at hfirst hlast
  cases hfirst with
  | none => exact hlast
  | some hpq =>
    cases hlast with
    | some hqr => exact .some (hpq.trans hqr)

theorem Flow.alter {f : Pipe → Pipe} (hf : ∀ p : Pipe, p.Grows (f p)) : pipes.Flow (pipes.alter fd f) := by
  intro fd'
  rw [open?_alter]
  split
  · cases pipes.open? fd' with
    | none => exact .none
    | some p => exact .some (hf p)
  · exact Flow.refl pipes fd'

theorem Flow.alterAll {f : Pipe → Pipe} (hf : ∀ p : Pipe, p.Grows (f p)) : pipes.Flow (pipes.alterAll f) := by
  intro fd
  rw [open?_alterAll]
  cases pipes.open? fd with
  | none => exact .none
  | some p => exact .some (hf p)

end Pipes

/-- Lets a process write no more to a pipe. -/
def without (pid : Pid) (p : Pipe) : Pipe := { p with writers := p.writers.filter (· != pid) }

/-- Writes to a pipe, if the process still can. -/
def put (pid : Pid) (bytes : ByteArray) (p : Pipe) : Pipe :=
  if pid ∈ p.writers then { p with unread := p.unread ++ bytes } else p

/-- Takes bytes from a pipe. -/
def take (count : Nat) (p : Pipe) : Pipe :=
  { p with taken := p.taken ++ p.unread.extract 0 count, unread := p.unread.extract count p.unread.size }

/-- A process that writes no more takes nothing from a pipe; if it was the last, the end of what is there is fixed. -/
theorem grows_without (pid : Pid) (p : Pipe) : p.Grows (without pid p) where
  taken := rfl
  unread := ⟨.empty, ByteArray.append_empty.symm⟩
  ended := fun hnone => by rw [without, hnone, List.filter_nil, ← hnone]

/-- Only a process that can still write to a pipe adds to it, so nothing comes after the end. -/
theorem grows_put (pid : Pid) (bytes : ByteArray) (p : Pipe) : p.Grows (put pid bytes p) := by
  unfold put
  split
  · next hmem => exact ⟨rfl, ⟨bytes, rfl⟩, fun hnone => absurd hmem (hnone ▸ List.not_mem_nil)⟩
  · exact .refl p

namespace Process

/-- A process that has ended: it writes to nothing any more. -/
def ended (process : Process) (status : WaitStatus) : Process :=
  { process with script := [], output := none, errors := none, status }

/-- Where a process writes. -/
def target (process : Process) (toErrors : Bool) : Option Fd :=
  if toErrors then process.errors else process.output

/-- Runs a process through a script, until that is done, there is no room for what it writes, or nobody reads
it. -/
def run (capacity : Nat) (pid : Pid) (process : Process) : List Act → Pipes → Process × Pipes
  | [], pipes => (process.ended process.status, pipes.alterAll (without pid))
  | .closeOutput :: acts, pipes =>
    ({ process with output := none } : Process).run capacity pid acts
      (match process.output with
      | some fd => if process.errors = some fd then pipes else pipes.alter fd (without pid)
      | none => pipes)
  | .write toErrors bytes :: acts, pipes =>
    match process.target toErrors with
    | none => process.run capacity pid acts pipes
    | some fd =>
      match pipes.open? fd with
      | none => (process.ended (.signalled 13), pipes.alterAll (without pid))
      | some p =>
        let room := capacity - p.unread.size
        let pipes := pipes.alter fd (put pid (bytes.extract 0 room))
        -- What there is no room for stays to be written.
        if bytes.size ≤ room then process.run capacity pid acts pipes
        else ({ process with script := .write toErrors (bytes.extract room bytes.size) :: acts }, pipes)

/-- A process only writes and closes while it runs. -/
theorem run_flow (capacity : Nat) (pid : Pid) (process : Process) (acts : List Act) (pipes : Pipes) :
    pipes.Flow (process.run capacity pid acts pipes).2 := by
  induction acts generalizing process pipes with
  | nil => exact .alterAll (grows_without pid)
  | cons act acts ih =>
    cases act with
    | closeOutput =>
      refine .trans ?_ (ih _ _)
      split
      · split
        · exact .refl pipes
        · exact .alter (grows_without pid)
      · exact .refl pipes
    | write toErrors bytes =>
      unfold run
      split
      · exact ih process pipes
      · next fd _ =>
        split
        · exact .alterAll (grows_without pid)
        · next p _ =>
          have hput : pipes.Flow (pipes.alter fd (put pid (bytes.extract 0 (capacity - p.unread.size)))) :=
            .alter (grows_put pid _)
          dsimp only
          split
          · exact hput.trans (ih _ _)
          · exact hput

end Process

/-- Runs processes one after the other, numbered from the given one on. -/
def runAll (capacity : Nat) : Pid → List Process → Pipes → List Process × Pipes
  | _, [], pipes => ([], pipes)
  | pid, process :: processes, pipes =>
    let (process, pipes) := process.run capacity pid process.script pipes
    let (processes, pipes) := runAll capacity (pid + 1) processes pipes
    (process :: processes, pipes)

theorem runAll_flow (capacity : Nat) (pid : Pid) (processes : List Process) (pipes : Pipes) :
    pipes.Flow (runAll capacity pid processes pipes).2 := by
  induction processes generalizing pid pipes with
  | nil => exact .refl pipes
  | cons process processes ih => exact (process.run_flow capacity pid process.script pipes).trans (ih _ _)

theorem runAll_length (capacity : Nat) (pid : Pid) (processes : List Process) (pipes : Pipes) :
    (runAll capacity pid processes pipes).1.length = processes.length := by
  induction processes generalizing pid pipes with
  | nil => rfl
  | cons process processes ih => exact congrArg Nat.succ (ih _ _)

namespace World

/-- Lets every process run until it has ended or has to wait. -/
def work (capacity : Nat) (w : World) : World :=
  let (processes, pipes) := runAll capacity 0 w.processes w.pipes
  { w with processes, pipes }

/-- What a wait for output tells of a descriptor. -/
def conditions (w : World) (fd : Fd) : Conditions :=
  match w.pipes.open? fd with
  | none => ⟨Conditions.invalidBit⟩
  | some p =>
    ⟨(if p.unread.isEmpty then 0#16 else Conditions.inputBit) |||
      (if p.writers.isEmpty then Conditions.hangUpBit else 0#16)⟩

/-- A hang-up is told of an open pipe without writers. -/
theorem isHungUp_conditions {w : World} {fd : Fd} {p : Pipe} (h : w.pipes.open? fd = some p) :
    (w.conditions fd).isHungUp = p.writers.isEmpty := by
  simp only [conditions, h]
  cases p.unread.isEmpty <;> cases p.writers.isEmpty <;> rfl

/-- The process that is started next, with the reading ends of its pipes. -/
def child (w : World) (separate : Bool) : Child where
  pid := w.processes.length
  stdout := some w.pipes.length
  stderr := if separate then some (w.pipes.length + 1) else none

/-- The world after it was started. -/
def start (w : World) (script : List Act) (separate : Bool) : World where
  pipes :=
    let fresh := some ⟨.empty, .empty, [w.processes.length]⟩
    w.pipes ++ if separate then [fresh, fresh] else [fresh]
  processes := w.processes ++
    [⟨script, some w.pipes.length, some (if separate then w.pipes.length + 1 else w.pipes.length), .exited 0⟩]
  children := w.processes.length :: w.children
  blocking := w.blocking
  faulty := w.faulty

/-- The world after the end of a process was learnt. -/
def forget (w : World) (pid : Pid) : World :=
  { w with pipes := w.pipes.alterAll (without pid), children := w.children.filter (· != pid) }

/-- No process and no pipe yet, with the descriptors from which reads are going to fail. -/
def fresh (faulty : List Fd) : World := ⟨[], [], [], [], faulty⟩

/-- Whether a process has to wait for room in a pipe that it writes to. -/
def isBlocked (capacity : Nat) (w : World) (pid : Pid) (fd : Fd) : Bool :=
  match w.processes[pid]?, w.pipes.open? fd with
  | some process, some p => match process.script with
    | .write toErrors _ :: _ => process.target toErrors == some fd && p.unread.size == capacity
    | _ => false
  | _, _ => false

end World

end Scripted

open Scripted

/-- The host of a world of scripted processes. A program that has no script cannot be started. -/
def Host.scripted (capacity : Nat) (programs : String → Option (List Act)) : Host World where
  spawn launch w :=
    match programs launch.program with
    | none => (.error (.kind .notFound), w)
    | some script => (.ok (w.child launch.separateErrors), w.start script launch.separateErrors)
  poll fds w :=
    let w := w.work capacity
    let conditions := fds.map w.conditions
    if conditions.any (·.any) then (.answer conditions, w) else (.never, w)
  read fd count w :=
    let w := w.work capacity
    match w.pipes.open? fd with
    | none => (.fault (.os Os.Errno.badDescriptor), w)
    | some p =>
      if w.faulty.contains fd then (.fault (.kind .other), w)
      else if p.unread.isEmpty then
        if p.writers.isEmpty then (.answer .empty, w)
        else if w.blocking.contains fd then (.never, w)
        else (.fault (.os Os.Errno.tryAgain), w)
      else (.answer (p.unread.extract 0 count), { w with pipes := w.pipes.alter fd (take count) })
  setBlocking fd w := (.ok (), { w with blocking := fd :: w.blocking })
  wait pid w :=
    let w := w.work capacity
    match w.processes[pid]? with
    | none => (.fault (.os Os.Errno.noChild), w)
    | some process =>
      if w.children.contains pid then
        if process.script.isEmpty then (.answer (process.status, .zero), w.forget pid) else (.never, w)
      else (.fault (.os Os.Errno.noChild), w)
  close fd w := { w with pipes := w.pipes.set fd none }
  vars _ := []
  now _ := 0
  shuffle _ ids := ⟨ids, .refl ids⟩

/-- A queue of programs without arguments, whose streams are to be kept apart or to share a pipe. -/
def Queue.streaming (parallelism : Nat) (separate : Bool) (programs : List String) : Queue Unit :=
  let queue := Queue.plain parallelism programs
  { queue with pending := queue.pending.map ({ · with separateErrors := separate }) }

/-- The account of a world of scripted processes. -/
def Account.scripted : Account World where
  pipe? w fd := w.pipes.open? fd
  isChild w pid := pid ∈ w.children ∧ pid < w.processes.length

namespace Scripted

variable {capacity : Nat} {programs : String → Option (List Act)} {w w' : World}

/-- Nothing was read, started, learnt or closed. -/
structure Calm (w w' : World) : Prop where
  flow : w.pipes.Flow w'.pipes
  length : w'.processes.length = w.processes.length
  children : w'.children = w.children

/-- Letting all processes run as far as they come reads nothing, starts nothing and learns of no end. -/
theorem World.work_calm (capacity : Nat) (w : World) : Calm w (w.work capacity) :=
  ⟨runAll_flow capacity 0 w.processes w.pipes, runAll_length capacity 0 w.processes w.pipes, rfl⟩

/-- What is in an open pipe only grows while the world is calm. -/
theorem Calm.grows (h : Calm w w') : Account.scripted.Grows [] w w' := by
  intro fd _ p hp
  have hflow := h.flow fd
  rw [show w.pipes.open? fd = some p from hp] at hflow
  generalize hq : w'.pipes.open? fd = q at hflow
  cases hflow with
  | some hpq => exact ⟨_, hq, hpq⟩

/-- No pipe is opened or closed while the world is calm, and no process is forgotten. -/
theorem Calm.keeps (h : Calm w w') : Account.scripted.Keeps [] [] w w' where
  isOpen := fun fd _ hopen => by
    obtain ⟨p, hp⟩ := Option.isSome_iff_exists.1 hopen
    obtain ⟨q, hq, -⟩ := h.grows fd List.not_mem_nil p hp
    exact Option.isSome_iff_exists.2 ⟨q, hq⟩
  wasOpen := fun fd hopen => by
    obtain ⟨q, hq⟩ := Option.isSome_iff_exists.1 hopen
    have hflow := h.flow fd
    rw [show w'.pipes.open? fd = some q from hq] at hflow
    generalize hp : w.pipes.open? fd = p at hflow
    cases hflow with
    | some hpq => exact Option.isSome_iff_exists.2 ⟨_, hp⟩
  isChild := fun pid _ hchild => ⟨h.children ▸ hchild.1, h.length ▸ hchild.2⟩

/-! ### Calls that change more -/

theorem Pipes.open?_close {pipes : Pipes} {fd fd' : Fd} :
    Pipes.open? (pipes.set fd none) fd' = if fd = fd' then none else pipes.open? fd' := by
  unfold Pipes.open?
  rw [List.getElem?_set]
  split
  · split <;> rfl
  · rfl

theorem Pipes.open?_ge {pipes : Pipes} {fd : Fd} (h : pipes.length ≤ fd) : pipes.open? fd = none := by
  rw [Pipes.open?, List.getElem?_eq_none h]
  rfl

theorem Pipes.open?_append {pipes fresh : Pipes} {fd : Fd} (h : fd < pipes.length) :
    Pipes.open? (pipes ++ fresh) fd = pipes.open? fd := by
  rw [Pipes.open?, List.getElem?_append_left h]
  rfl

theorem Pipes.lt_of_open? {pipes : Pipes} {fd : Fd} {p : Pipe} (h : pipes.open? fd = some p) : fd < pipes.length := by
  by_contra hge
  rw [Pipes.open?_ge (Nat.le_of_not_lt hge)] at h
  cases h

theorem World.mem_child {separate : Bool} {fd : Fd} :
    fd ∈ (w.child separate).descriptors ↔ fd = w.pipes.length ∨ separate = true ∧ fd = w.pipes.length + 1 := by
  rw [Child.mem_descriptors]
  cases separate <;> simp [World.child, eq_comm]

/-- A process is started with empty pipes. -/
theorem World.open?_start {script : List Act} {separate : Bool} {fd : Fd}
    (hfd : fd ∈ (w.child separate).descriptors) :
    (w.start script separate).pipes.open? fd = some ⟨.empty, .empty, [w.processes.length]⟩ := by
  unfold World.start Pipes.open?
  rcases World.mem_child.1 hfd with rfl | ⟨rfl, rfl⟩
  · cases separate <;> simp
  · simp

theorem World.open?_start_old {script : List Act} {separate : Bool} {fd : Fd} {p : Pipe}
    (h : w.pipes.open? fd = some p) : (w.start script separate).pipes.open? fd = some p := by
  rw [World.start, Pipes.open?_append (Pipes.lt_of_open? h), h]

/-- A process is started with pipes and a number that nothing else has. -/
theorem World.start_starts (w : World) (script : List Act) (separate : Bool) :
    Account.scripted.Starts separate w (w.child separate) (w.start script separate) where
  stdout := rfl
  stderr := by cases separate <;> rfl
  apart := by cases separate <;> simp [World.child, Child.descriptors]
  fresh := fun fd hfd hopen => by
    have hge : w.pipes.length ≤ fd := by
      rcases World.mem_child.1 hfd with rfl | ⟨-, rfl⟩
      · exact Nat.le_refl _
      · exact Nat.le_succ _
    rw [Account.IsOpen, show Account.scripted.pipe? w fd = none from Pipes.open?_ge hge] at hopen
    cases hopen
  opened := fun fd hfd => Option.isSome_iff_exists.2 ⟨_, World.open?_start hfd⟩
  keptOpen := fun fd hopen => by
    obtain ⟨p, hp⟩ := Option.isSome_iff_exists.1 hopen
    exact Option.isSome_iff_exists.2 ⟨p, World.open?_start_old hp⟩
  freshPid := fun hchild => Nat.lt_irrefl _ hchild.2
  started := ⟨List.mem_cons_self, by simp [World.child, World.start]⟩
  keptChild := fun pid hchild =>
    ⟨List.mem_cons_of_mem _ hchild.1, Nat.lt_of_lt_of_le hchild.2 (by simp [World.start])⟩

theorem read_world (fd : Fd) (count : Nat) (w : World) :
    ((Host.scripted capacity programs).read fd count w).2 = w.work capacity ∨
      ((Host.scripted capacity programs).read fd count w).2 =
        { w.work capacity with pipes := (w.work capacity).pipes.alter fd (take count) } := by
  unfold Host.scripted
  dsimp only
  split
  · exact .inl rfl
  · split
    · exact .inl rfl
    · split
      · split
        · exact .inl rfl
        · split <;> exact .inl rfl
      · exact .inr rfl

/-- What a read replies is what the pipe gives. -/
theorem read_gives {fd : Fd} {count : Nat} {reply : Reply ByteArray} {grown : Pipe} (hcount : 0 < count)
    (hread : (Host.scripted capacity programs).read fd count w = (reply, w'))
    (hgrown : (w.work capacity).pipes.open? fd = some grown) :
    ∃ q, grown.Gives reply q ∧ w'.pipes.open? fd = some q := by
  unfold Host.scripted at hread
  simp only [hgrown] at hread
  split at hread
  · cases hread
    exact ⟨grown, .fault nofun, hgrown⟩
  split at hread
  · next hempty =>
    have hunread : grown.unread = .empty := by
      simpa [ByteArray.isEmpty, ByteArray.size_eq_zero_iff] using hempty
    split at hread
    · next hnone =>
      cases hread
      exact ⟨grown, .ended rfl hunread (List.isEmpty_iff.1 hnone), hgrown⟩
    · split at hread <;> cases hread
      · exact ⟨grown, .never, hgrown⟩
      · exact ⟨grown, .fault fun _ => hunread, hgrown⟩
  · next hsome =>
    cases hread
    refine ⟨take count grown, .bytes ?_ ?_, by rw [Pipes.open?_alter, if_pos rfl, hgrown]; rfl⟩
    · simp only [ByteArray.isEmpty, beq_iff_eq, ByteArray.size_extract, beq_eq_false_iff_ne] at hsome ⊢
      omega
    · rw [ByteArray.extract_append_extract]
      simp

theorem wait_world (pid : Pid) (w : World) :
    ((Host.scripted capacity programs).wait pid w).2 = w.work capacity ∨
      ((Host.scripted capacity programs).wait pid w).2 = (w.work capacity).forget pid := by
  unfold Host.scripted
  dsimp only
  split
  · exact .inl rfl
  · split
    · split
      · exact .inr rfl
      · exact .inl rfl
    · exact .inl rfl

/-- A wait that learns of the end of a process forgets it. -/
theorem wait_answer {pid : Pid} {found : WaitStatus × ResourceUsage}
    (hwait : (Host.scripted capacity programs).wait pid w = (.answer found, w')) : w' = (w.work capacity).forget pid := by
  unfold Host.scripted at hwait
  dsimp only at hwait
  split at hwait
  · cases hwait
  · split at hwait
    · split at hwait <;> cases hwait
      rfl
    · cases hwait

theorem poll_world (fds : List Fd) (w : World) : ((Host.scripted capacity programs).poll fds w).2 = w.work capacity := by
  unfold Host.scripted
  dsimp only
  split <;> rfl

theorem terminated_plain {κ W : Type} (policy : Policy) (task : Task κ) (w : W) :
    ((Hooks.plain : Hooks κ W).terminated policy task w).2 = w := by
  unfold Hooks.terminated Hooks.judge Hooks.tellReported
  cases task.termination with
  | none => rfl
  | some termination => cases termination <;> rfl

theorem keeps_alter {fd : Fd} {f : Pipe → Pipe} (w : World) :
    Account.scripted.Keeps [] [] w { w with pipes := w.pipes.alter fd f } := by
  have hopen : ∀ fd', (Pipes.open? (w.pipes.alter fd f) fd').isSome = (w.pipes.open? fd').isSome := by
    intro fd'
    rw [Pipes.open?_alter]
    split
    · exact Option.isSome_map
    · rfl
  exact ⟨fun fd' _ hold => (hopen fd').trans hold, fun fd' hnew => (hopen fd').symm.trans hnew,
    fun pid _ hchild => hchild⟩

theorem grows_alter {fd : Fd} {f : Pipe → Pipe} (w : World) :
    Account.scripted.Grows [fd] w { w with pipes := w.pipes.alter fd f } := by
  intro fd' hne p hp
  refine ⟨p, ?_, .refl p⟩
  show Pipes.open? (w.pipes.alter fd f) fd' = some p
  rw [Pipes.open?_alter, if_neg (fun heq => hne (List.mem_singleton.2 heq.symm))]
  exact hp

/-- Forgetting a process is calm, but for its number. -/
theorem forget_calm (pid : Pid) (w : World) : Calm w { w.forget pid with children := w.children } :=
  ⟨.alterAll (grows_without pid), rfl, rfl⟩

theorem forget_keeps (pid : Pid) (w : World) : Account.scripted.Keeps [] [pid] w (w.forget pid) where
  isOpen := (forget_calm pid w).keeps.isOpen
  wasOpen := (forget_calm pid w).keeps.wasOpen
  isChild := fun _ hne hchild =>
    ⟨List.mem_filter.2 ⟨hchild.1, bne_iff_ne.2 fun heq => hne (List.mem_singleton.2 heq)⟩, hchild.2⟩

theorem forget_grows (pid : Pid) (w : World) : Account.scripted.Grows [] w (w.forget pid) :=
  (forget_calm pid w).grows

end Scripted

/-- The host of scripted processes keeps the account of its pipes and processes. -/
theorem Account.scripted_orderly {κ : Type} (capacity : Nat) (programs : String → Option (List Act)) :
    Account.scripted.Orderly (Host.scripted capacity programs) (Hooks.plain : Hooks κ World) where
  spawn_ok := fun {launch w child w'} hspawn => by
    unfold Host.scripted at hspawn
    dsimp only at hspawn
    split at hspawn <;> cases hspawn
    exact w.start_starts _ _
  spawn_error := fun {launch w cause w'} hspawn => by
    unfold Host.scripted at hspawn
    dsimp only at hspawn
    split at hspawn <;> cases hspawn
    exact .refl [] [] w
  poll := fun fds w => by
    rw [poll_world]
    exact (w.work_calm capacity).keeps
  read := fun fd count w => by
    have hwork := (w.work_calm capacity).keeps
    rcases read_world fd count w with hworld | hworld <;> rw [hworld]
    · exact hwork
    · exact hwork.trans (keeps_alter _)
  setBlocking := fun fd w => ⟨fun _ _ hopen => hopen, fun _ hopen => hopen, fun _ _ hchild => hchild⟩
  wait := fun pid w => by
    have hwork := (w.work_calm capacity).keeps.mono (List.Subset.refl _) (List.nil_subset [pid])
    rcases wait_world pid w with hworld | hworld <;> rw [hworld]
    · exact hwork
    · exact hwork.trans (forget_keeps pid _)
  close := fun fd w => {
    isOpen := fun fd' hne hopen => by
      refine Eq.trans ?_ hopen
      exact congrArg Option.isSome (Pipes.open?_close.trans (if_neg fun heq => hne (List.mem_singleton.2 heq.symm)))
    wasOpen := fun fd' hopen => by
      have hopen : (Pipes.open? (w.pipes.set fd none) fd').isSome = true := hopen
      rw [Pipes.open?_close] at hopen
      split at hopen
      · cases hopen
      · exact hopen
    isChild := fun _ _ hchild => hchild }
  closed := fun fd w hopen => by
    have hopen : (Pipes.open? (w.pipes.set fd none) fd).isSome = true := hopen
    rw [Pipes.open?_close, if_pos rfl] at hopen
    cases hopen
  tellBegan := fun _ w => .refl [] [] w
  terminated := fun policy task w => by
    rw [terminated_plain]
    exact .refl [] [] w

/-- On the host of scripted processes pipes hand bytes on in order, and end when no writer is left. -/
theorem Account.scripted_piped {κ : Type} (capacity : Nat) (programs : String → Option (List Act)) :
    Account.scripted.Piped (Host.scripted capacity programs) (Hooks.plain : Hooks κ World) where
  toOrderly := Account.scripted_orderly capacity programs
  spawn_grows := fun launch w => by
    unfold Host.scripted
    dsimp only
    split
    · exact .refl [] w
    · exact fun fd _ p hp => ⟨p, World.open?_start_old hp, .refl p⟩
  spawn_untaken := fun {launch w child w'} hspawn fd hfd p hp => by
    unfold Host.scripted at hspawn
    dsimp only at hspawn
    split at hspawn <;> cases hspawn
    obtain rfl := Option.some.inj ((World.open?_start hfd).symm.trans hp)
    rfl
  poll_grows := fun fds w => by
    rw [poll_world]
    exact (w.work_calm capacity).grows
  poll_hangUp := fun {fds w conditions w'} hpoll {index fd c} hfd hc hflag hopen => by
    have hworld : ((Host.scripted capacity programs).poll fds w).2 = w.work capacity := poll_world fds w
    rw [hpoll] at hworld
    obtain rfl : w' = w.work capacity := hworld
    obtain rfl : conditions = fds.map (w.work capacity).conditions := by
      unfold Host.scripted at hpoll
      dsimp only at hpoll
      split at hpoll <;> cases hpoll
      rfl
    rw [List.getElem?_map, hfd] at hc
    obtain rfl : (w.work capacity).conditions fd = c := Option.some.inj hc
    obtain ⟨p, hp⟩ := Option.isSome_iff_exists.1 hopen
    have hp' : (w.work capacity).pipes.open? fd = some p := hp
    rw [World.isHungUp_conditions hp'] at hflag
    exact ⟨p, hp, List.isEmpty_iff.1 hflag⟩
  read_grows := fun fd count w => by
    have hwork := (w.work_calm capacity).grows.mono (List.nil_subset [fd])
    rcases read_world fd count w with hworld | hworld <;> rw [hworld]
    · exact hwork
    · exact hwork.trans (grows_alter _)
  read_gives := fun {fd count w reply w'} hcount hread {p} hp => by
    obtain ⟨grown, hgrown, hgrows⟩ := (w.work_calm capacity).grows fd List.not_mem_nil p hp
    obtain ⟨q, hgives, hq⟩ := read_gives hcount hread hgrown
    exact ⟨grown, q, hgrows, hgives, hq⟩
  setBlocking_grows := fun fd w _ _ p hp => ⟨p, hp, .refl p⟩
  wait_grows := fun pid w => by
    have hwork := (w.work_calm capacity).grows
    rcases wait_world pid w with hworld | hworld <;> rw [hworld]
    · exact hwork
    · exact hwork.trans (forget_grows pid _)
  wait_ended := fun {pid w found w'} hwait {fd p} hp hmem => by
    rw [wait_answer hwait] at hp
    have hp : ((w.work capacity).pipes.alterAll (without pid)).open? fd = some p := hp
    rw [Pipes.open?_alterAll] at hp
    obtain ⟨q, -, rfl⟩ := Option.map_eq_some_iff.1 hp
    simp [without] at hmem
  close_grows := fun fd w fd' hne p hp => by
    refine ⟨p, ?_, .refl p⟩
    exact Pipes.open?_close.trans ((if_neg fun heq => hne (List.mem_singleton.2 heq.symm)).trans hp)
  tellBegan_grows := fun _ w => .refl [] w
  terminated_grows := fun policy task w => by
    rw [terminated_plain]
    exact .refl [] w

end BatchRunner
