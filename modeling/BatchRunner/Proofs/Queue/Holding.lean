import BatchRunner.Proofs.Queue.Tracking
import BatchRunner.Proofs.Task.Effects
import Mathlib.Data.List.Perm.Basic

/-!
# What the tasks of a run hold

A task that was started and not yet given up holds its process and the pipes of it (`Task.Attached`): they are
open, or both were closed because they could not be read. No two tasks hold the same descriptor or the same
process (`Apart`), and the numbers that a run keeps are those of its executing tasks (`Run.Holds`). Every move
of a run keeps this up on an orderly host (`Move.holds`), so it holds wherever a run comes.
-/

namespace BatchRunner

variable {κ W : Type} {account : Account W}

namespace Task

/-- The descriptors of the pipes of a task that are open for reading. -/
def descriptors (task : Task κ) : List Fd := task.process.elim [] Child.descriptors

/-- A task holds the process that was started for it, and the pipes of that process, unless they were closed
before their end. -/
structure Attached (account : Account W) (w : W) (child : Child) (task : Task κ) : Prop where
  process : task.process = some child
  pid : task.pid = some child.pid
  isChild : account.isChild w child.pid
  isOpen : ∀ fd ∈ child.descriptors, account.IsOpen w fd
  state : (task.state = .executing ∧ child.stdout.isSome = true ∧ child.stderr.isSome = task.separateErrors) ∨
    (task.state = .finished ∧ child.descriptors = [])

namespace Attached

variable {task after : Task κ} {child : Child} {w w' : W} {fds : List Fd} {pids : List Pid}

theorem descriptors_eq (h : task.Attached account w child) : task.descriptors = child.descriptors := by
  rw [descriptors, h.process]
  rfl

theorem keeps (h : task.Attached account w child) (hkeeps : account.Keeps fds pids w w')
    (hfds : ∀ fd ∈ child.descriptors, fd ∉ fds) (hpids : child.pid ∉ pids) :
    task.Attached account w' child where
  process := h.process
  pid := h.pid
  isChild := hkeeps.isChild _ hpids h.isChild
  isOpen := fun fd hfd => hkeeps.isOpen fd (hfds fd hfd) (h.isOpen fd hfd)
  state := h.state

theorem read (h : task.Attached account w child) (hafter : after = { task with streams := after.streams }) :
    after.Attached account w child := by
  rw [hafter]
  exact ⟨h.process, h.pid, h.isChild, h.isOpen, h.state⟩

/-- A task that has been finished holds its process, and nothing else any more. -/
theorem finished {host : Host W} {fuel : Nat} {result : Except Error Unit} (h : task.Attached account w child)
    (hkeeps : account.Keeps child.descriptors [] w w')
    (hclose : task.finishExecution host fuel w = .ok (result, after, w')) :
    after.Attached account w' { child with stdout := none, stderr := none } := by
  obtain ⟨ended, drained, v, hread, -, -, hafter⟩ := finishExecution_eq h.process hclose
  have hdrained := readAvailable_eq hread
  rw [hafter]
  exact {
    process := rfl
    pid := by rw [hdrained]; exact h.pid
    isChild := hkeeps.isChild _ List.not_mem_nil h.isChild
    isOpen := fun fd hfd => absurd hfd List.not_mem_nil
    state := .inr ⟨rfl, rfl⟩ }

end Attached

/-- A task has the process that was started for it, and the reading ends of all its pipes are open. -/
structure Whole (account : Account W) (w : W) (child : Child) (task : Task κ) : Prop
    extends task.Attached account w child where
  stdout : child.stdout.isSome = true
  stderr : child.stderr.isSome = task.separateErrors

/-- A task that executes has all its pipes. -/
theorem Attached.whole {task : Task κ} {child : Child} {w : W} (h : task.Attached account w child)
    (hstate : task.state = .executing) : task.Whole account w child := by
  rcases h.state with ⟨-, hout, herr⟩ | ⟨hfinished, -⟩
  · exact ⟨h, hout, herr⟩
  · rw [hstate] at hfinished
    cases hfinished

end Task

/-- Tasks hold their processes and pipes, no two of them the same. -/
structure Apart (account : Account W) (w : W) (tasks : List (Task κ)) : Prop where
  attached : ∀ task ∈ tasks, ∃ child, task.Attached account w child
  descriptors : (tasks.flatMap Task.descriptors).Nodup
  numbers : (tasks.filterMap (·.pid)).Nodup

namespace Apart

variable {task after : Task κ} {tasks tasks' : List (Task κ)} {child : Child} {w w' : W}

theorem nil (account : Account W) (w : W) : Apart account w ([] : List (Task κ)) :=
  ⟨fun _ hmem => absurd hmem List.not_mem_nil, List.nodup_nil, List.nodup_nil⟩

theorem perm (h : Apart account w tasks) (hperm : tasks.Perm tasks') : Apart account w tasks' where
  attached := fun task hmem => h.attached task (hperm.mem_iff.2 hmem)
  descriptors := (hperm.flatMap_right Task.descriptors).nodup_iff.1 h.descriptors
  numbers := (hperm.filterMap _).nodup_iff.1 h.numbers

/-- A task does not hold what another one holds. -/
theorem disjoint (h : Apart account w (task :: tasks)) {other : Task κ} (hmem : other ∈ tasks)
    (hother : other.Attached account w child) :
    (∀ fd ∈ child.descriptors, fd ∉ task.descriptors) ∧ some child.pid ≠ task.pid := by
  have hdescriptors := h.descriptors
  rw [List.flatMap_cons, List.nodup_append] at hdescriptors
  refine ⟨fun fd hfd hfd' => ?_, fun heq => ?_⟩
  · have hmem' : fd ∈ tasks.flatMap Task.descriptors :=
      List.mem_flatMap.2 ⟨other, hmem, by rw [hother.descriptors_eq]; exact hfd⟩
    exact hdescriptors.2.2 fd hfd' fd hmem' rfl
  · have hnumbers := h.numbers
    rw [List.filterMap_cons, ← heq, List.nodup_cons] at hnumbers
    exact hnumbers.1 (List.mem_filterMap.2 ⟨other, hmem, hother.pid⟩)

theorem tail (h : Apart account w (task :: tasks)) : Apart account w tasks where
  attached := fun other hmem => h.attached other (List.mem_cons_of_mem _ hmem)
  descriptors := by
    have hdescriptors := h.descriptors
    rw [List.flatMap_cons] at hdescriptors
    exact (List.nodup_append.1 hdescriptors).2.1
  numbers := h.numbers.sublist ((List.sublist_cons_self ..).filterMap _)

theorem tail_keeps (h : Apart account w (task :: tasks))
    (hkeeps : account.Keeps task.descriptors task.pid.toList w w') : Apart account w' tasks where
  attached := fun other hmem => by
    obtain ⟨child, hother⟩ := h.tail.attached other hmem
    obtain ⟨hfds, hpid⟩ := h.disjoint hmem hother
    exact ⟨child, hother.keeps hkeeps hfds fun hmem => hpid (Option.mem_toList.1 hmem).symm⟩
  descriptors := h.tail.descriptors
  numbers := h.tail.numbers

theorem keeps (h : Apart account w tasks) (hkeeps : account.Keeps [] [] w w') : Apart account w' tasks where
  attached := fun task hmem => by
    obtain ⟨child, hchild⟩ := h.attached task hmem
    exact ⟨child, hchild.keeps hkeeps (fun _ _ => List.not_mem_nil) List.not_mem_nil⟩
  descriptors := h.descriptors
  numbers := h.numbers

/-- A task may go on with no more descriptors than it had, and with the same process. -/
theorem replace (h : Apart account w (task :: tasks)) (hkeeps : account.Keeps task.descriptors [] w w')
    (hafter : after.Attached account w' child) (hfds : after.descriptors.Sublist task.descriptors)
    (hpid : after.pid = task.pid) : Apart account w' (after :: tasks) where
  attached := List.forall_mem_cons.2
    ⟨⟨child, hafter⟩, (h.tail_keeps (hkeeps.mono (List.Subset.refl _) (List.nil_subset _))).attached⟩
  descriptors := by
    refine h.descriptors.sublist ?_
    rw [List.flatMap_cons, List.flatMap_cons]
    exact hfds.append (List.Sublist.refl _)
  numbers := by
    have hnumbers := h.numbers
    rw [List.filterMap_cons] at hnumbers ⊢
    rw [hpid]
    exact hnumbers

/-- A task that is started gets what no other task holds. -/
theorem start (h : Apart account w tasks) {separate : Bool} (hstarts : account.Starts separate w child w')
    (hprocess : after.process = some child) (hpid : after.pid = some child.pid)
    (hstate : after.state = .executing) (hseparate : after.separateErrors = separate) :
    Apart account w' (after :: tasks) := by
  have hdescriptors : after.descriptors = child.descriptors := by rw [Task.descriptors, hprocess]; rfl
  have hnew : after.Attached account w' child :=
    ⟨hprocess, hpid, hstarts.started, hstarts.opened,
      .inl ⟨hstate, hstarts.stdout, hseparate.symm ▸ hstarts.stderr⟩⟩
  refine ⟨List.forall_mem_cons.2 ⟨⟨child, hnew⟩, fun other hmem => ?_⟩, ?_, ?_⟩
  · obtain ⟨child', hother⟩ := h.attached other hmem
    exact ⟨child', hother.process, hother.pid, hstarts.keptChild _ hother.isChild,
      fun fd hfd => hstarts.keptOpen fd (hother.isOpen fd hfd), hother.state⟩
  · rw [List.flatMap_cons, List.nodup_append, hdescriptors]
    refine ⟨hstarts.apart, h.descriptors, fun fd hfd fd' hfd' heq => ?_⟩
    obtain ⟨other, hmem, hfd'⟩ := List.mem_flatMap.1 hfd'
    obtain ⟨child', hother⟩ := h.attached other hmem
    rw [hother.descriptors_eq] at hfd'
    exact hstarts.fresh fd hfd (heq ▸ hother.isOpen fd' hfd')
  · rw [List.filterMap_cons, hpid, List.nodup_cons]
    refine ⟨fun hmem => ?_, h.numbers⟩
    obtain ⟨other, hmem, hother⟩ := List.mem_filterMap.1 hmem
    obtain ⟨child', hchild'⟩ := h.attached other hmem
    rw [hchild'.pid] at hother
    exact hstarts.freshPid (Option.some.inj hother ▸ hchild'.isChild)

end Apart

/-! ## Moments of a run -/

namespace Run

variable {setting : RunSetting κ W} {tasks : List (Task κ)} {first last : Moment κ W}

/-- Reporting and judging a task touch nothing that a task holds. -/
theorem conclude_world (h : account.Orderly setting.host setting.hooks)
    (run : Run κ W) (task : Task κ) :
    account.Keeps [] [] run.world (run.conclude setting task).world := by
  have hkeeps := h.terminated setting.options.policy task run.world
  unfold conclude
  split
  · exact .refl [] [] run.world
  · dsimp only
    split <;> exact hkeeps

/-- The tasks that were started and not yet given up: the executing ones, and one that has left to be
reaped. -/
def Moment.alive (moment : Moment κ W) : List (Task κ) :=
  moment.run.executing.map (·.2) ++ moment.phase.leaving?.toList

/-- The number of the process of each entry. -/
def numbers (entries : List (TaskId × Task κ)) : List (Pid × TaskId) :=
  entries.filterMap fun entry => entry.2.pid.map (·, entry.1)

@[simp] theorem numbers_append (l r : List (TaskId × Task κ)) : numbers (l ++ r) = numbers l ++ numbers r :=
  List.filterMap_append

theorem numbers_cons {id : TaskId} {task : Task κ} {pid : Pid} (hpid : task.pid = some pid)
    (entries : List (TaskId × Task κ)) : numbers ((id, task) :: entries) = (pid, id) :: numbers entries := by
  simp [numbers, hpid]

theorem filter_numbers {pid : Pid} {entries : List (TaskId × Task κ)}
    (h : ∀ entry ∈ entries, entry.2.pid ≠ some pid) :
    (numbers entries).filter (·.1 != pid) = numbers entries := by
  refine List.filter_eq_self.2 fun number hmem => bne_iff_ne.2 ?_
  rintro rfl
  obtain ⟨entry, hentry, hnumber⟩ := List.mem_filterMap.1 hmem
  obtain ⟨held, hheld, rfl⟩ := Option.map_eq_some_iff.1 hnumber
  exact h entry hentry hheld

/-- The tasks of a moment hold their processes and pipes apart, and the numbers that are kept are those of the
executing ones. -/
structure Holds (account : Account W) (moment : Moment κ W) : Prop where
  apart : Apart account moment.run.world moment.alive
  pids : moment.run.pids = numbers moment.run.executing

/-- An executing task stands at one place among the executing ones. -/
theorem executing_split {run : Run κ W} {id : TaskId} {task : Task κ} (hids : run.ids.Nodup)
    (hsome : run.executing? id = some task) :
    ∃ before after, run.executing = before ++ (id, task) :: after ∧ (∀ entry ∈ before, entry.1 ≠ id) ∧
      ∀ entry ∈ after, entry.1 ≠ id := by
  obtain ⟨before, after, hsplit, hbefore⟩ := List.lookup_eq_some_iff.1 hsome
  refine ⟨before, after, hsplit, fun entry hmem => (bne_iff_ne.1 (hbefore entry hmem)).symm, ?_⟩
  intro entry hmem heq
  rw [ids, hsplit, List.map_append, List.map_cons, List.nodup_append, List.nodup_cons] at hids
  exact hids.2.1.1 (List.mem_map.2 ⟨entry, hmem, heq⟩)

section Split

variable {run : Run κ W} {id : TaskId} {task after : Task κ} {l r : List (TaskId × Task κ)}

theorem update_executing (hsplit : run.executing = l ++ (id, task) :: r) (hl : ∀ entry ∈ l, entry.1 ≠ id)
    (hr : ∀ entry ∈ r, entry.1 ≠ id) : (run.update id after).executing = l ++ (id, after) :: r := by
  have hsame : ∀ entries : List (TaskId × Task κ), (∀ entry ∈ entries, entry.1 ≠ id) →
      entries.map (fun entry => if entry.1 = id then (id, after) else entry) = entries :=
    fun entries hne => (List.map_congr_left fun entry hmem => if_neg (hne entry hmem)).trans (List.map_id _)
  simp only [update, hsplit, List.map_append, List.map_cons, hsame l hl, hsame r hr, if_true]

theorem filter_executing (hsplit : run.executing = l ++ (id, task) :: r) (hl : ∀ entry ∈ l, entry.1 ≠ id)
    (hr : ∀ entry ∈ r, entry.1 ≠ id) : run.executing.filter (·.1 != id) = l ++ r := by
  rw [hsplit, List.filter_append, List.filter_cons_of_neg (by simp),
    List.filter_eq_self.2 fun entry hmem => bne_iff_ne.2 (hl entry hmem),
    List.filter_eq_self.2 fun entry hmem => bne_iff_ne.2 (hr entry hmem)]

end Split

theorem Tracked.ids_nodup {limit : Nat} {moment : Moment κ W} (hids : (tasks.map (·.id)).Nodup)
    (h : Tracked tasks limit moment) : moment.run.ids.Nodup := by
  obtain ⟨watched, -, trail⟩ := h
  exact (List.nodup_append.1 (trail.nodup hids)).1

theorem conclude_pids (run : Run κ W) (task : Task κ) : (run.conclude setting task).pids = run.pids := by
  unfold conclude
  split
  · rfl
  · dsimp only
    split <;> rfl

namespace Holds

theorem attached (h : Holds account first) {id : TaskId} {task : Task κ}
    (hsome : first.run.executing? id = some task) : ∃ child, task.Attached account first.run.world child :=
  h.apart.attached task (List.mem_append_left _
    (List.mem_map.2 ⟨_, mem_executing_of_executing? hsome, rfl⟩))

theorem keeps (h : Holds account first) (hkeeps : account.Keeps [] [] first.run.world last.run.world)
    (hexecuting : last.run.executing = first.run.executing) (hpids : last.run.pids = first.run.pids)
    (hphase : last.phase.leaving? = first.phase.leaving?) : Holds account last where
  apart := by
    rw [Moment.alive, hexecuting, hphase]
    exact h.apart.keeps hkeeps
  pids := by rw [hpids, hexecuting, h.pids]

theorem update {run run' : Run κ W} {phase : Phase κ} {id : TaskId} {task after : Task κ} {child : Child}
    (h : Holds account ⟨.serving, run⟩) (hids : run.ids.Nodup) (hsome : run.executing? id = some task)
    (hkeeps : account.Keeps task.descriptors [] run.world run'.world)
    (hafter : after.Attached account run'.world child) (hfds : after.descriptors.Sublist task.descriptors)
    (hpid : after.pid = task.pid) (hexecuting : run'.executing = (run.update id after).executing)
    (hpids : run'.pids = run.pids) (hphase : phase.leaving? = none) : Holds account ⟨phase, run'⟩ := by
  obtain ⟨l, r, hsplit, hl, hr⟩ := executing_split hids hsome
  have happart := h.apart
  simp only [Moment.alive, Phase.leaving?, hsplit, Option.toList_none, List.append_nil, List.map_append,
    List.map_cons] at happart
  constructor
  · simp only [Moment.alive, hphase, hexecuting, update_executing hsplit hl hr, Option.toList_none,
      List.append_nil, List.map_append, List.map_cons]
    exact ((happart.perm List.perm_middle).replace hkeeps hafter hfds hpid).perm List.perm_middle.symm
  · rw [hpids, show run.pids = numbers run.executing from h.pids, hexecuting, update_executing hsplit hl hr, hsplit]
    simp only [numbers, List.filterMap_append, List.filterMap_cons, hpid]

theorem read {run run' : Run κ W} {phase : Phase κ} {id : TaskId} {task after : Task κ}
    (h : Holds account ⟨.serving, run⟩) (hids : run.ids.Nodup) (hsome : run.executing? id = some task)
    (hkeeps : account.Keeps [] [] run.world run'.world) (hafter : after = { task with streams := after.streams })
    (hexecuting : run'.executing = (run.update id after).executing)
    (hpids : run'.pids = run.pids) (hphase : phase.leaving? = none) : Holds account ⟨phase, run'⟩ := by
  obtain ⟨child, hchild⟩ := h.attached hsome
  have hread := (hchild.keeps hkeeps (fun _ _ => List.not_mem_nil) List.not_mem_nil).read hafter
  refine h.update hids hsome (hkeeps.mono (List.nil_subset _) (List.Subset.refl _)) hread ?_ ?_ hexecuting hpids
    hphase
  · rw [hafter]
    exact List.Sublist.refl _
  · rw [hafter]

theorem enter {run run' : Run κ W} {task : Task κ} {child : Child} {separate : Bool} {w : W}
    (h : Holds account ⟨.admitting, run⟩) (hstarts : account.Starts separate run.world child w)
    (hkeeps : account.Keeps [] [] w run'.world) (hprocess : task.process = some child)
    (hpid : task.pid = some child.pid) (hstate : task.state = .executing) (hseparate : task.separateErrors = separate)
    (hexecuting : run'.executing = run.executing ++ [(task.id, task)])
    (hpids : run'.pids = run.pids.filter (·.1 != child.pid) ++ [(child.pid, task.id)]) :
    Holds account ⟨.admitting, run'⟩ := by
  have happart := h.apart
  simp only [Moment.alive, Phase.leaving?, Option.toList_none, List.append_nil] at happart
  have hold : run.pids = numbers run.executing := h.pids
  constructor
  · simp only [Moment.alive, Phase.leaving?, hexecuting, Option.toList_none, List.append_nil, List.map_append,
      List.map_cons, List.map_nil]
    exact ((happart.start hstarts hprocess hpid hstate hseparate).keeps hkeeps).perm
      (List.perm_append_singleton _ _).symm
  · have hfresh : ∀ entry ∈ run.executing, entry.2.pid ≠ some child.pid := by
      intro entry hmem heq
      obtain ⟨child', hchild'⟩ := happart.attached entry.2 (List.mem_map_of_mem hmem)
      rw [hchild'.pid] at heq
      exact hstarts.freshPid (Option.some.inj heq ▸ hchild'.isChild)
    rw [hpids, hexecuting, hold, filter_numbers hfresh, numbers_append, numbers_cons hpid]
    rfl

theorem leave {run run' : Run κ W} {id : TaskId} {task : Task κ} (h : Holds account ⟨.serving, run⟩)
    (hids : run.ids.Nodup) (hsome : run.executing? id = some task) (hworld : run'.world = run.world)
    (hexecuting : run'.executing = (run.leave id task).executing) (hpids : run'.pids = (run.leave id task).pids) :
    Holds account ⟨.leaving task, run'⟩ := by
  obtain ⟨l, r, hsplit, hl, hr⟩ := executing_split hids hsome
  obtain ⟨child, hchild⟩ := h.attached hsome
  have hexecuting' : run'.executing = l ++ r := hexecuting.trans (filter_executing hsplit hl hr)
  have happart := h.apart
  simp only [Moment.alive, Phase.leaving?, hsplit, Option.toList_none, List.append_nil, List.map_append,
    List.map_cons] at happart
  have hfirst : Apart account run.world (task :: (l ++ r).map (·.2)) := by
    rw [List.map_append]
    exact happart.perm List.perm_middle
  constructor
  · simp only [Moment.alive, Phase.leaving?, hexecuting', Option.toList_some, hworld]
    exact hfirst.perm (List.perm_append_singleton _ _).symm
  · have hother : ∀ entry ∈ l ++ r, entry.2.pid ≠ some child.pid := by
      intro entry hmem heq
      obtain ⟨child', hchild'⟩ := hfirst.tail.attached entry.2 (List.mem_map_of_mem hmem)
      rw [hchild'.pid] at heq
      refine (hfirst.disjoint (List.mem_map_of_mem hmem) hchild').2 ?_
      rw [heq, hchild.pid]
    have hold : run.pids = numbers run.executing := h.pids
    have hleft : (run.leave id task).pids = run.pids.filter (·.1 != child.pid) := by
      rw [Run.leave, hchild.pid]
      rfl
    rw [hpids, hleft, hold, hsplit, numbers_append, numbers_cons hchild.pid, List.filter_append,
      List.filter_cons_of_neg (by simp), ← List.filter_append, ← numbers_append, filter_numbers hother,
      hexecuting']

theorem part {run : Run κ W} {task : Task κ} (h : Holds account ⟨.leaving task, run⟩)
    (hkeeps : account.Keeps task.descriptors task.pid.toList run.world last.run.world)
    (hexecuting : last.run.executing = run.executing) (hpids : last.run.pids = run.pids)
    (hphase : last.phase.leaving? = none) : Holds account last where
  apart := by
    have hfirst : Apart account run.world (task :: run.executing.map (·.2)) :=
      h.apart.perm (List.perm_append_singleton _ _)
    simp only [Moment.alive, hphase, hexecuting, Option.toList_none, List.append_nil]
    exact hfirst.tail_keeps hkeeps
  pids := by
    rw [hpids, hexecuting]
    exact h.pids

theorem leaving {run : Run κ W} {task : Task κ} (h : Holds account ⟨.leaving task, run⟩) :
    ∃ child, task.Attached account run.world child :=
  h.apart.attached task (List.mem_append_right _ (by simp [Phase.leaving?]))

end Holds

/-- A move keeps what tasks hold apart. -/
theorem Move.holds (horderly : account.Orderly setting.host setting.hooks)
    (hids : (tasks.map (·.id)).Nodup) (hmove : Move setting first last)
    (htracked : Tracked tasks setting.options.effectiveParallelism first) (h : Holds account first) :
    Holds account last := by
  have hnodup : first.run.ids.Nodup := htracked.ids_nodup hids
  have hsame : ∀ w, account.Keeps [] [] w w := .refl [] []
  cases hmove with
  | @refuse run task rest error after w hroom hpending hcall =>
    have hkeeps : account.Keeps [] [] run.world w := by
      rcases Task.execute_error hcall with rfl | ⟨launch, cause, hspawn⟩
      · exact hsame _
      · exact horderly.spawn_error hspawn
    exact h.keeps hkeeps rfl rfl rfl
  | @accept run task rest after w hroom hpending hcall =>
    obtain ⟨watched, -, trail⟩ := htracked
    have hnew : after.id ∉ run.ids := not_mem_ids_of_pending hids hpending (Task.execute_request hcall) trail
    obtain ⟨vars, child, hspawn, hafter⟩ := Task.execute_ok hcall
    have hpid : after.pid = some child.pid := by rw [hafter]
    refine h.enter (horderly.spawn_ok hspawn) (horderly.tellBegan after w) (by rw [hafter]) hpid (by rw [hafter])
      (by rw [hafter]) (executing_enter _ hnew) ?_
    simp only [Run.enter, hpid]
    rfl
  | watch => exact h.keeps (hsame _) rfl rfl rfl
  | wake hcall => exact h.keeps (horderly.wait_keeps hcall) rfl rfl rfl
  | watchFail hcall => exact h.keeps (horderly.wait_keeps hcall) rfl rfl rfl
  | skip => exact h.keeps (hsame _) rfl rfl rfl
  | read hsome hcall =>
    obtain ⟨child, hchild⟩ := h.attached hsome
    exact h.read hnodup hsome ((horderly.readsAlong _).readAvailable hchild.process hcall)
      (Task.readAvailable_eq hcall) rfl rfl rfl
  | readFail hsome hcall =>
    obtain ⟨child, hchild⟩ := h.attached hsome
    exact h.read hnodup hsome ((horderly.readsAlong _).readAvailable hchild.process hcall)
      (Task.readAvailable_eq hcall) rfl rfl rfl
  | readRest hsome hcall =>
    obtain ⟨child, hchild⟩ := h.attached hsome
    exact h.read hnodup hsome ((horderly.readsAlong _).readToClose hchild.process hcall)
      (Task.readToClose_eq hcall) rfl rfl rfl
  | abandon hsome hread hclose =>
    obtain ⟨child, hchild⟩ := h.attached hsome
    have hkeeps := (horderly.readsAlong _).readToClose hchild.process hread
    have hbetween := (hchild.keeps hkeeps (fun _ _ => List.not_mem_nil) List.not_mem_nil).read
      (Task.readToClose_eq hread)
    have hclosed := hbetween.finished ((horderly.finishesAlong _ _).finishExecution hbetween.process hclose) hclose
    refine h.update hnodup hsome ?_ hclosed (by rw [hclosed.descriptors_eq]; exact List.nil_sublist _) ?_ rfl rfl rfl
    · rw [hchild.descriptors_eq]
      exact (hkeeps.mono (List.nil_subset _) (List.Subset.refl _)).trans
        ((horderly.finishesAlong _ _).finishExecution hbetween.process hclose)
    · exact hclosed.pid.trans hchild.pid.symm
  | @leave run id task watch hsome hwatch => exact h.leave hnodup hsome rfl rfl rfl
  | @lose run task error between v drained after w hreap hclose =>
    obtain ⟨child, hchild⟩ := h.leaving
    refine h.part ?_ rfl rfl rfl
    rw [hchild.descriptors_eq, hchild.pid]
    exact horderly.end_keeps hchild.process hreap hclose
  | @settle run task termination between v drained after w hreap hclose =>
    obtain ⟨child, hchild⟩ := h.leaving
    refine h.part ?_ (conclude_keeps ..).2 (conclude_pids ..) (Phase.leaving?_after drained)
    rw [hchild.descriptors_eq, hchild.pid]
    exact (horderly.end_keeps hchild.process hreap hclose).trans
      ((conclude_world horderly ((run.inWorld w).note (.reaped after.id termination)) after).mono
        (List.nil_subset _) (List.nil_subset _))
  | record => exact h.keeps (hsame _) rfl rfl rfl
  | compact => exact h.keeps (hsame _) rfl rfl rfl
  | clear => exact h.keeps (hsame _) rfl rfl rfl

theorem Moves.holds (horderly : account.Orderly setting.host setting.hooks) (hids : (tasks.map (·.id)).Nodup)
    (hmoves : Moves setting first last) (hsound : Sound tasks first)
    (htracked : Tracked tasks setting.options.effectiveParallelism first) (h : Holds account first) :
    Holds account last := by
  induction hmoves with
  | refl => exact h
  | tail hbefore hmove ih => exact hmove.holds horderly hids (Moves.tracked hids hbefore hsound htracked).2 ih

theorem holds_start (tasks : List (Task κ)) (w : W) : Holds account ⟨.admitting, start tasks w⟩ :=
  ⟨.nil account w, rfl⟩

end Run

end BatchRunner
