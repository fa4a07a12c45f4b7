import BatchRunner.Proofs.Queue.Holding
import BatchRunner.Proofs.Task.Capturing

/-!
# What the tasks of a run have captured

At every moment of a run the buffers of each task that was started and not yet given up hold what was read from
its pipes (`Run.Fills`), and those of queued tasks are empty. Every move keeps this up on a host with pipes
(`Move.fills`): a call on one task reads from no pipe of another.
-/

namespace BatchRunner

variable {κ W : Type} {account : Account W}

/-- A task whose streams are not kept apart has no pipe for standard error. -/
theorem Task.Attached.merged {task : Task κ} {child : Child} {w : W} (h : task.Attached account w child)
    (hseparate : task.separateErrors = false) : child.stderr = none := by
  rcases h.state with ⟨-, -, herr⟩ | ⟨-, hnone⟩
  · rw [hseparate] at herr
    exact Option.isSome_eq_false_iff.1 herr |> Option.isNone_iff_eq_none.1
  · simp [Child.descriptors] at hnone
    exact hnone.2

theorem Apart.readable {task : Task κ} {tasks : List (Task κ)} {child : Child} {w : W}
    (h : Apart account w tasks) (hmem : task ∈ tasks) (hchild : task.Attached account w child) :
    child.Readable account w where
  isOpen := hchild.isOpen
  apart := by
    rw [← hchild.descriptors_eq]
    exact (List.nodup_flatMap.1 h.descriptors).1 task hmem

namespace Run

variable {setting : RunSetting κ W} {tasks : List (Task κ)} {first last : Moment κ W}

/-- The buffers of queued tasks are empty, and those of started ones hold what was read from their pipes. -/
structure Fills (account : Account W) (moment : Moment κ W) : Prop where
  pending : ∀ task ∈ moment.run.pending, task.streams = ⟨.empty, .empty⟩
  alive : ∀ task ∈ moment.alive, ∀ child, task.process = some child → task.Filled account moment.run.world child

/-- An executing task holds its own, apart from what the others hold. -/
theorem Holds.others {run : Run κ W} {id : TaskId} {task : Task κ} (h : Holds account ⟨.serving, run⟩)
    (hids : run.ids.Nodup) (hsome : run.executing? id = some task) :
    ∃ others, Apart account run.world (task :: others) ∧ ∀ entry ∈ run.executing, entry.1 ≠ id → entry.2 ∈ others := by
  obtain ⟨l, r, hsplit, -, -⟩ := executing_split hids hsome
  refine ⟨(l ++ r).map (·.2), ?_, fun entry hmem hne => ?_⟩
  · have happart := h.apart
    simp only [Moment.alive, Phase.leaving?, hsplit, Option.toList_none, List.append_nil, List.map_append,
      List.map_cons] at happart
    rw [List.map_append]
    exact happart.perm List.perm_middle
  · rw [hsplit] at hmem
    rcases List.mem_append.1 hmem with hmem | hmem
    · exact List.mem_map_of_mem (List.mem_append_left r hmem)
    · rcases List.mem_cons.1 hmem with rfl | hmem
      · exact absurd rfl hne
      · exact List.mem_map_of_mem (List.mem_append_right l hmem)

theorem Holds.of_executing {run : Run κ W} {phase : Phase κ} {id : TaskId} {task : Task κ}
    (h : Holds account ⟨phase, run⟩) (hsome : run.executing? id = some task) :
    ∃ child, task.Attached account run.world child ∧ child.Readable account run.world := by
  have hmem : task ∈ Moment.alive ⟨phase, run⟩ :=
    List.mem_append_left _ (List.mem_map.2 ⟨_, mem_executing_of_executing? hsome, rfl⟩)
  obtain ⟨child, hchild⟩ := h.apart.attached task hmem
  exact ⟨child, hchild, h.apart.readable hmem hchild⟩

theorem Holds.of_leaving {run : Run κ W} {task : Task κ} (h : Holds account ⟨.leaving task, run⟩) :
    ∃ child, task.Attached account run.world child ∧ child.Readable account run.world := by
  have hmem : task ∈ Moment.alive ⟨.leaving task, run⟩ := List.mem_append_right _ (by simp [Phase.leaving?])
  obtain ⟨child, hchild⟩ := h.apart.attached task hmem
  exact ⟨child, hchild, h.apart.readable hmem hchild⟩

namespace Fills

/-- What is read from one task's pipes leaves the buffers of the others filled. -/
theorem of_apart {task other : Task κ} {others : List (Task κ)} {child : Child} {w w' : W}
    (happart : Apart account w (task :: others)) (hmem : other ∈ others)
    (hfilled : ∀ child, other.process = some child → other.Filled account w child)
    (hgrows : account.Grows task.descriptors w w') (hprocess : other.process = some child) :
    other.Filled account w' child := by
  obtain ⟨child', hother⟩ := happart.tail.attached other hmem
  obtain rfl : child' = child := Option.some.inj (hother.process.symm.trans hprocess)
  exact (hfilled _ hprocess).grows (happart.tail.readable hmem hother) hgrows (happart.disjoint hmem hother).1

theorem grows (h : Fills account first) (hholds : Holds account first)
    (hgrows : account.Grows [] first.run.world last.run.world) (hpending : last.run.pending ⊆ first.run.pending)
    (hexecuting : last.run.executing = first.run.executing) (hphase : last.phase.leaving? = first.phase.leaving?) :
    Fills account last where
  pending := fun task hmem => h.pending task (hpending hmem)
  alive := by
    rw [Moment.alive, hexecuting, hphase]
    intro task hmem child hprocess
    obtain ⟨child', hchild⟩ := hholds.apart.attached task hmem
    obtain rfl : child' = child := Option.some.inj (hchild.process.symm.trans hprocess)
    exact (h.alive task hmem child' hprocess).grows (hholds.apart.readable hmem hchild) hgrows
      fun _ _ => List.not_mem_nil

/-- What one executing task reads is in its buffers, and not in those of others. -/
theorem update {run run' : Run κ W} {phase : Phase κ} {id : TaskId} {task after : Task κ}
    (h : Fills account ⟨.serving, run⟩) (hholds : Holds account ⟨.serving, run⟩) (hids : run.ids.Nodup)
    (hsome : run.executing? id = some task) (hgrows : account.Grows task.descriptors run.world run'.world)
    (hafter : ∀ child, after.process = some child → after.Filled account run'.world child)
    (hpending : run'.pending = run.pending) (hexecuting : run'.executing = (run.update id after).executing)
    (hphase : phase.leaving? = none) : Fills account ⟨phase, run'⟩ where
  pending := by rw [hpending]; exact h.pending
  alive := by
    simp only [Moment.alive, hphase, Option.toList_none, List.append_nil, hexecuting]
    intro other hmem child hprocess
    obtain ⟨entry, hentry, rfl⟩ := List.mem_map.1 hmem
    obtain ⟨others, happart, hothers⟩ := hholds.others hids hsome
    rcases mem_update hentry with rfl | ⟨hold, hne⟩
    · exact hafter child hprocess
    · have hfilled := h.alive entry.2 (List.mem_append_left _ (List.mem_map_of_mem hold))
      exact of_apart happart (hothers entry hold hne) hfilled hgrows hprocess

theorem part {run : Run κ W} {task : Task κ} (h : Fills account ⟨.leaving task, run⟩)
    (hholds : Holds account ⟨.leaving task, run⟩) (hgrows : account.Grows task.descriptors run.world last.run.world)
    (hpending : last.run.pending = run.pending) (hexecuting : last.run.executing = run.executing)
    (hphase : last.phase.leaving? = none) : Fills account last where
  pending := by rw [hpending]; exact h.pending
  alive := by
    simp only [Moment.alive, hphase, Option.toList_none, List.append_nil, hexecuting]
    intro other hmem child hprocess
    have happart : Apart account run.world (task :: run.executing.map (·.2)) :=
      hholds.apart.perm (List.perm_append_singleton _ _)
    exact of_apart happart hmem (h.alive other (List.mem_append_left _ hmem)) hgrows hprocess

theorem of_executing {run : Run κ W} {phase : Phase κ} {id : TaskId} {task : Task κ}
    (h : Fills account ⟨phase, run⟩) (hholds : Holds account ⟨phase, run⟩) (hsome : run.executing? id = some task) :
    ∃ child, task.Attached account run.world child ∧ child.Readable account run.world ∧
      task.Filled account run.world child := by
  obtain ⟨child, hchild, hreadable⟩ := hholds.of_executing hsome
  have hmem : task ∈ Moment.alive ⟨phase, run⟩ :=
    List.mem_append_left _ (List.mem_map.2 ⟨_, mem_executing_of_executing? hsome, rfl⟩)
  exact ⟨child, hchild, hreadable, h.alive task hmem child hchild.process⟩

theorem readAvailable {run run' : Run κ W} {phase : Phase κ} {host : Host W} {hooks : Hooks κ W} {fuel : Nat}
    {id : TaskId} {task after : Task κ} {result : Except Error Bool} (h : Fills account ⟨.serving, run⟩)
    (hpiped : account.Piped host hooks) (hholds : Holds account ⟨.serving, run⟩) (hids : run.ids.Nodup)
    (hsome : run.executing? id = some task)
    (hcall : task.readAvailable host fuel run.world = .ok (result, after, run'.world))
    (hpending : run'.pending = run.pending) (hexecuting : run'.executing = (run.update id after).executing)
    (hphase : phase.leaving? = none) : Fills account ⟨phase, run'⟩ := by
  obtain ⟨child, hchild, hreadable, hfilled⟩ := h.of_executing hholds hsome
  have hafter := (hreadable.readAvailable hpiped hchild.process hcall).1 hchild.merged hfilled
  refine h.update hholds hids hsome ?_ (fun child' hprocess => ?_) hpending hexecuting hphase
  · rw [hchild.descriptors_eq]
    exact (hpiped.reads_grow _).readAvailable hchild.process hcall
  · rw [Task.readAvailable_eq hcall] at hprocess
    obtain rfl : child = child' := Option.some.inj (hchild.process.symm.trans hprocess)
    exact hafter

end Fills

theorem conclude_grows (h : account.Piped setting.host setting.hooks) (run : Run κ W) (task : Task κ) :
    account.Grows [] run.world (run.conclude setting task).world := by
  have hgrows := h.terminated_grows setting.options.policy task run.world
  unfold conclude
  split
  · exact .refl [] run.world
  · dsimp only
    split <;> exact hgrows

/-- A move keeps the buffers filled. -/
theorem Move.fills (hpiped : account.Piped setting.host setting.hooks) (hids : (tasks.map (·.id)).Nodup)
    (hmove : Move setting first last) (htracked : Tracked tasks setting.options.effectiveParallelism first)
    (hholds : Holds account first) (h : Fills account first) : Fills account last := by
  have hnodup : first.run.ids.Nodup := htracked.ids_nodup hids
  have hsame : ∀ w, account.Grows [] w w := .refl []
  cases hmove with
  | @refuse run task rest error after w hroom hpending hcall =>
    have hgrows : account.Grows [] run.world w := by
      rcases Task.execute_error hcall with rfl | ⟨launch, cause, hspawn⟩
      · exact hsame _
      · exact hpiped.grows_of_spawn hspawn
    have hrest : rest ⊆ run.pending := by rw [hpending]; exact List.subset_cons_self _ _
    exact h.grows hholds hgrows hrest rfl rfl
  | @accept run task rest after w hroom hpending hcall =>
    obtain ⟨vars, child, hspawn, hafter⟩ := Task.execute_ok hcall
    have hempty : task.streams = ⟨.empty, .empty⟩ := h.pending task (by rw [hpending]; exact List.mem_cons_self)
    have hstarts := hpiped.spawn_ok hspawn
    have hgrows := hpiped.grows_of_spawn hspawn
    have htold := hpiped.tellBegan_grows after w
    refine ⟨fun other hmem => h.pending other (by rw [hpending]; exact List.mem_cons_of_mem _ hmem), ?_⟩
    intro other hmem child' hprocess
    simp only [Moment.alive, Phase.leaving?, Option.toList_none, List.append_nil, Run.enter, List.map_append,
      List.map_cons, List.map_nil] at hmem
    -- Starting a process reads from no pipe, and nothing has been read from those of the new one.
    rcases List.mem_append.1 hmem with hold | hnew
    · obtain ⟨entry, hentry, rfl⟩ := List.mem_map.1 hold
      have hmem' : entry.2 ∈ Moment.alive ⟨.admitting, run⟩ :=
        List.mem_append_left _ (List.mem_map_of_mem (List.mem_of_mem_filter hentry))
      obtain ⟨child'', hchild⟩ := hholds.apart.attached entry.2 hmem'
      obtain rfl : child'' = child' := Option.some.inj (hchild.process.symm.trans hprocess)
      exact (h.alive entry.2 hmem' _ hprocess).grows (hholds.apart.readable hmem' hchild)
        (hgrows.trans htold) fun _ _ => List.not_mem_nil
    · obtain rfl := List.mem_singleton.1 hnew
      obtain rfl : child = child' := by rw [hafter] at hprocess; exact Option.some.inj hprocess
      have hstreams : other.streams = ⟨.empty, .empty⟩ := by rw [hafter]; exact hempty
      have hfilled : other.Filled account w child := by
        refine ⟨fun fd hfd p hp => ?_, fun fd hfd p hp => ?_, fun _ => by rw [hstreams]⟩
        · rw [hstreams, hpiped.spawn_untaken hspawn fd (Child.mem_descriptors.2 (.inl hfd)) p hp]
        · rw [hstreams, hpiped.spawn_untaken hspawn fd (Child.mem_descriptors.2 (.inr hfd)) p hp]
      exact hfilled.grows ⟨hstarts.opened, hstarts.apart⟩ htold fun _ _ => List.not_mem_nil
  | watch => exact h.grows hholds (hsame _) (List.Subset.refl _) rfl rfl
  | wake hcall => exact h.grows hholds (hpiped.wait_for_output_grows hcall) (List.Subset.refl _) rfl rfl
  | watchFail hcall => exact h.grows hholds (hpiped.wait_for_output_grows hcall) (List.Subset.refl _) rfl rfl
  | skip => exact h.grows hholds (hsame _) (List.Subset.refl _) rfl rfl
  | read hsome hcall => exact h.readAvailable hpiped hholds hnodup hsome hcall rfl rfl rfl
  | readFail hsome hcall => exact h.readAvailable hpiped hholds hnodup hsome hcall rfl rfl rfl
  | readRest hsome hcall =>
    obtain ⟨child, hchild, hreadable, hfilled⟩ := h.of_executing hholds hsome
    have hafter := (hreadable.readToClose hpiped hchild.process hcall).1 hchild.merged hfilled
    refine h.update hholds hnodup hsome ?_ (fun child' hprocess => ?_) rfl rfl rfl
    · rw [hchild.descriptors_eq]
      exact (hpiped.reads_grow _).readToClose hchild.process hcall
    · rw [Task.readToClose_eq hcall] at hprocess
      obtain rfl : child = child' := Option.some.inj (hchild.process.symm.trans hprocess)
      exact hafter
  | abandon hsome hread hclose =>
    obtain ⟨child, hchild, hreadable, hfilled⟩ := h.of_executing hholds hsome
    have hbetween := (hreadable.readToClose hpiped hchild.process hread).1 hchild.merged hfilled
    have hsame := Task.readToClose_eq hread
    have hprocess : _ = some child := (congrArg Task.process hsame).trans hchild.process
    have hmerged : _ = false → child.stderr = none := fun hseparate =>
      hchild.merged ((congrArg Task.separateErrors hsame).symm.trans hseparate)
    have hreadable' := hreadable.keeps ((hpiped.readsAlong _).readToClose hchild.process hread)
    obtain ⟨ended, drained, u, -, -, hclosed, -⟩ := hreadable'.finishExecution hpiped hprocess hclose
    obtain ⟨_, _, _, -, -, -, hafter⟩ := Task.finishExecution_eq hprocess hclose
    refine h.update hholds hnodup hsome ?_ (fun child' hprocess' => ?_) rfl rfl rfl
    · rw [hchild.descriptors_eq]
      exact ((hpiped.reads_grow _).readToClose hchild.process hread).trans
        ((hpiped.finishes_grow _).finishExecution hprocess hclose)
    · rw [hafter] at hprocess'
      obtain rfl := Option.some.inj hprocess'
      exact ⟨account.captured_none _ _, account.captured_none _ _, (hclosed hmerged hbetween).merged⟩
  | @leave run id task watch hsome hwatch =>
    refine ⟨h.pending, fun other hmem => h.alive other ?_⟩
    rcases List.mem_append.1 hmem with hold | hleft
    · obtain ⟨entry, hentry, rfl⟩ := List.mem_map.1 hold
      exact List.mem_append_left _ (List.mem_map_of_mem (List.mem_of_mem_filter hentry))
    · obtain rfl : other = task := by simpa [Phase.leaving?] using hleft
      exact List.mem_append_left _ (List.mem_map.2 ⟨_, mem_executing_of_executing? hsome, rfl⟩)
  | @lose run task error between v drained after w hreap hclose =>
    obtain ⟨child, hchild⟩ := hholds.leaving
    refine h.part hholds ?_ rfl rfl rfl
    rw [hchild.descriptors_eq]
    exact hpiped.end_grows hchild.process hreap hclose
  | @settle run task termination between v drained after w hreap hclose =>
    obtain ⟨child, hchild⟩ := hholds.leaving
    refine h.part hholds ?_ (conclude_keeps ..).1 (conclude_keeps ..).2 (Phase.leaving?_after drained)
    rw [hchild.descriptors_eq]
    exact (hpiped.end_grows hchild.process hreap hclose).trans
      ((conclude_grows hpiped ((run.inWorld w).note (.reaped after.id termination)) after).mono (List.nil_subset _))
  | record => exact h.grows hholds (hsame _) (List.Subset.refl _) rfl rfl
  | compact => exact h.grows hholds (hsame _) (List.Subset.refl _) rfl rfl
  | clear => exact h.grows hholds (hsame _) (List.Subset.refl _) rfl rfl

theorem Moves.fills (hpiped : account.Piped setting.host setting.hooks) (hids : (tasks.map (·.id)).Nodup)
    (hmoves : Moves setting first last) (hsound : Sound tasks first)
    (htracked : Tracked tasks setting.options.effectiveParallelism first) (hholds : Holds account first)
    (h : Fills account first) : Fills account last := by
  induction hmoves with
  | refl => exact h
  | tail hbefore hmove ih =>
    have hthere := Moves.holds hpiped.toOrderly hids hbefore hsound htracked hholds
    exact hmove.fills hpiped hids (Moves.tracked hids hbefore hsound htracked).2 hthere ih

end Run

namespace Queue

open Run

/-- Nothing was captured for tasks that are queued. -/
def Fresh (queue : Queue κ) : Prop := ∀ task ∈ queue.pending, task.streams = ⟨.empty, .empty⟩

theorem fresh_create (kind : RunnerKind) (options : QueueOptions) (source : EnvironmentSource) :
    (create kind options source : Queue κ).Fresh :=
  List.forall_mem_nil _

theorem Fresh.add {queue queue' : Queue κ} {id : TaskId} {spec : TaskSpec} {context : κ} {now : Nat}
    (h : queue.Fresh) (hadd : queue.add id spec context now = .ok queue') : queue'.Fresh := by
  obtain ⟨task, hcreate, hqueue⟩ := except_bind_ok.1 hadd
  obtain ⟨-, -, htask⟩ := except_bind_ok.1 hcreate
  cases hqueue
  cases htask
  exact List.forall_mem_append.2 ⟨h, List.forall_mem_singleton.2 rfl⟩

theorem Fresh.fills {queue : Queue κ} (h : queue.Fresh) (w : W) :
    Fills account ⟨.admitting, start queue.pending w⟩ :=
  ⟨h, List.forall_mem_nil _⟩

end Queue

end BatchRunner
