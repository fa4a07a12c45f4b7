import BatchRunner.Proofs.Queue.Filling
import BatchRunner.Proofs.Queue.Watching

/-!
# Whose output has ended

A task is retired only when nobody can write to its standard output any more: either its end was read, or a wait
for output told of a hang-up, which stays true while other events are acted on (`Run.Hung`). A task that is let
run to its end is reaped only when both its pipes were read to the end, or given up. These facts are carried from
point to point (`Step.ending`).
-/

namespace BatchRunner

variable {κ W : Type} {account : Account W}

theorem Task.Attached.stdout_eq {task : Task κ} {child : Child} {w : W} (h : task.Attached account w child) :
    task.stdout? = child.stdout := by
  rw [Task.stdout?, h.process]
  rfl

namespace Run

variable {setting : RunSetting κ W} {tasks : List (Task κ)}

/-- Nobody can write to the standard output of a task. -/
def OutputEnded (account : Account W) (w : W) (task : Task κ) : Prop :=
  ∀ fd ∈ task.stdout?, account.IsEnded w fd

/-- Events that tell of a hang-up are right. -/
def Hung (account : Account W) (events : List ReadyEvent) (run : Run κ W) : Prop :=
  ∀ event ∈ events, event.hungUp = true → ∀ task, (event.owner, task) ∈ run.executing →
    OutputEnded account run.world task

/-- What is known at a point of the pipes of tasks that are, or are about to be, taken out. -/
def Ending (account : Account W) (point : Point κ W) : Prop :=
  match point.stage with
  | .serving events => Hung account events point.run
  | .retiring task events => OutputEnded account point.run.world task ∧ Hung account events point.run
  | .parting task _ => ∀ fd ∈ task.descriptors, account.Complete point.run.world fd
  | _ => True

namespace Hung

variable {run run' : Run κ W} {event : ReadyEvent} {events : List ReadyEvent}

theorem tail (h : Hung account (event :: events) run) : Hung account events run :=
  fun other hmem => h other (List.mem_cons_of_mem _ hmem)

theorem head (h : Hung account (event :: events) run) (hhung : event.hungUp = true) {task : Task κ}
    (hmem : (event.owner, task) ∈ run.executing) : OutputEnded account run.world task :=
  h event List.mem_cons_self hhung task hmem

theorem listen (h : Hung account events run) (hpiped : account.Piped setting.host setting.hooks)
    (hholds : Holds account ⟨.serving, run⟩) {heard : ReadyEvent} {task : Task κ} {result : Except Error Bool}
    (hsome : run.executing? heard.owner = some task)
    (hcall : run.listen setting heard task = .ok (result, run')) : Hung account events run' := by
  rcases listen_ok hcall with ⟨-, rfl⟩ | ⟨after, w, failed, hread, rfl⟩
  · exact h
  · obtain ⟨child, hchild⟩ := hholds.attached hsome
    intro event hevent hhung other hother fd hfd
    have hended : account.IsEnded run.world fd := by
      rcases mem_update hother with heq | ⟨hold, -⟩
      · obtain ⟨howner, rfl⟩ := Prod.mk.inj heq
        rw [Task.readAvailable_eq hread] at hfd
        exact h event hevent hhung task (howner ▸ mem_executing_of_executing? hsome) fd hfd
      · exact h event hevent hhung other hold fd hfd
    exact (hpiped.reads_isEnded fd child.descriptors).readAvailable hchild.process hread hended

end Hung

/-- Nobody but a task that has left uses its pipes while it is reaped. -/
theorem settle_grows (hpiped : account.Piped setting.host setting.hooks) {run run' : Run κ W} {task : Task κ}
    (hholds : Holds account ⟨.leaving task, run⟩) {result : Except Error Unit}
    (hcall : run.settle setting task = .ok (result, run')) :
    account.Grows task.descriptors run.world run'.world := by
  obtain ⟨child, hchild⟩ := hholds.leaving
  obtain ⟨reaped, between, v, drained, after, w, hreap, hclose, h⟩ := settle_ok hcall
  rw [hchild.descriptors_eq]
  have hgrows := hpiped.end_grows hchild.process hreap hclose
  rcases h with ⟨error, -, -, rfl⟩ | ⟨termination, -, -, rfl⟩
  · exact hgrows
  · exact hgrows.trans
      ((conclude_grows hpiped ((run.inWorld w).note (.reaped after.id termination)) after).mono (List.nil_subset _))

theorem Holds.stdout_ne {run : Run κ W} {task other : Task κ} {id : TaskId}
    (h : Holds account ⟨.leaving task, run⟩) (hmem : (id, other) ∈ run.executing) {fd : Fd}
    (hfd : other.stdout? = some fd) : fd ∉ task.descriptors := by
  have happart : Apart account run.world (task :: run.executing.map (·.2)) :=
    h.apart.perm (List.perm_append_singleton _ _)
  have hmem' : other ∈ run.executing.map (·.2) := List.mem_map.2 ⟨_, hmem, rfl⟩
  obtain ⟨child, hchild⟩ := happart.tail.attached other hmem'
  refine (happart.disjoint hmem' hchild).1 fd (Child.mem_descriptors.2 (.inl ?_))
  rw [← hchild.stdout_eq]
  exact hfd

/-- A wait for output tells of hang-ups rightly. -/
theorem hung_of_wait (hpiped : account.Piped setting.host setting.hooks) {run : Run κ W} {w : W}
    {events : List ReadyEvent} (hidle : Idle run.watch run.executing) (hids : run.ids.Nodup)
    (hholds : Holds account ⟨.serving, run.inWorld w⟩)
    (hcall : run.watch.wait setting.host setting.patience run.world = .ok (.ok events, w)) :
    Hung account events (run.inWorld w) := by
  intro event hevent hhung task hmem fd hfd
  rcases ReadinessSet.wait_ok hcall with rfl | ⟨v, conditions, hpoll, rfl⟩
  · cases hevent
  · obtain ⟨c, -, hc, hat⟩ := ReadinessSet.mem_eventsFrom hevent
    obtain ⟨-, howner, -, hflags⟩ := ReadinessSet.eventAt_eq_some hat
    obtain ⟨hlt, -⟩ := List.getElem?_eq_some_iff.1 howner
    obtain ⟨fd', hfd'⟩ : ∃ fd', run.watch.descriptors[event.index]? = some fd' :=
      ⟨_, List.getElem?_eq_getElem (hidle.mirrors.aligned.owners ▸ hlt)⟩
    -- No entry was marked, so the descriptor at the index of the event is what its owner writes to.
    obtain ⟨task', hmem', hout⟩ := hidle.descriptor howner hfd'
    have hfound : ∀ {found : Task κ}, (event.owner, found) ∈ run.executing → run.executing? event.owner = some found :=
      (lookup_eq_some_iff_mem hids).2
    obtain rfl : task' = task := Option.some.inj ((hfound hmem').symm.trans (hfound hmem))
    obtain rfl : fd' = fd := Option.some.inj (hout.symm.trans hfd)
    obtain ⟨child, hchild⟩ := hholds.apart.attached task' (List.mem_append_left _ (List.mem_map.2 ⟨_, hmem, rfl⟩))
    refine hpiped.poll_hangUp hpoll hfd' hc (hflags ▸ hhung) (hchild.isOpen fd' (Child.mem_descriptors.2 (.inl ?_)))
    rw [← hchild.stdout_eq]
    exact hout

/-- After an event that told of a hang-up, or after reading to the end, nobody can write to the standard output of
its owner. -/
theorem outputEnded_of_listen (hpiped : account.Piped setting.host setting.hooks) {run run' : Run κ W}
    {event : ReadyEvent} {events : List ReadyEvent} {task after : Task κ} {ended : Bool}
    (hholds : Holds account ⟨.serving, run⟩) (hhung : Hung account (event :: events) run)
    (hsome : run.executing? event.owner = some task) (hcall : run.listen setting event task = .ok (.ok ended, run'))
    (hend : (event.hungUp || ended) = true) (hafter : run'.executing? event.owner = some after) :
    OutputEnded account run'.world after := by
  rcases Bool.or_eq_true_iff.1 hend with hflag | rfl
  · exact (hhung.listen hpiped hholds hsome hcall).head hflag (mem_executing_of_executing? hafter)
  · rcases listen_ok hcall with ⟨hfalse, -⟩ | ⟨put, w, failed, hread, rfl⟩
    · cases hfalse
    · obtain ⟨child, hchild, hreadable⟩ := hholds.of_executing hsome
      obtain rfl : after = put := eq_of_executing?_update hafter
      intro fd hfd
      rw [Task.readAvailable_eq hread] at hfd
      have hout : fd ∈ child.stdout := hchild.stdout_eq ▸ hfd
      exact (((hreadable.readAvailable hpiped hchild.process hread).2 true rfl).2 (.inl rfl) fd hout).isEnded

/-- Reading a task to its end leaves its pipes complete, unless they were given up and closed. -/
theorem complete_of_readRest (hpiped : account.Piped setting.host setting.hooks) {run run' : Run κ W} {id : TaskId}
    {task after : Task κ} (hholds : Holds account ⟨.serving, run⟩) (hsome : run.executing? id = some task)
    (hcall : run.readRest setting id task = .ok run') (hafter : run'.executing? id = some after) :
    ∀ fd ∈ after.descriptors, account.Complete run'.world fd := by
  obtain ⟨child, hchild, hreadable⟩ := hholds.of_executing hsome
  rcases readRest_ok hcall with ⟨put, w, hread, rfl⟩ | ⟨error, between, v, result, put, w, hread, hclose, rfl⟩
  · obtain rfl : after = put := eq_of_executing?_update hafter
    have hsame : after.descriptors = child.descriptors := by
      rw [Task.readToClose_eq hread]
      exact hchild.descriptors_eq
    rw [hsame]
    exact (hreadable.readToClose hpiped hchild.process hread).2 rfl
  · obtain rfl : after = put := eq_of_executing?_update hafter
    have hprocess : between.process = some child := by rw [Task.readToClose_eq hread]; exact hchild.process
    obtain ⟨_, _, _, -, -, -, hclosed⟩ := Task.finishExecution_eq hprocess hclose
    have hnone : after.descriptors = [] := by rw [hclosed]; rfl
    rw [hnone]
    exact List.forall_mem_nil _

/-- What is known of the pipes of tasks that are taken out stays known, and is known of those that are next. -/
theorem Step.ending {first last : Point κ W} (hpiped : account.Piped setting.host setting.hooks)
    (hids : (tasks.map (·.id)).Nodup) (hstep : Step setting first last)
    (htracked : Tracked tasks setting.options.effectiveParallelism first.moment) (hwatched : Watched first)
    (hholds : Holds account first.moment) (hholds' : Holds account last.moment) (h : Ending account first) :
    Ending account last := by
  have hnodup : first.run.ids.Nodup := htracked.ids_nodup hids
  cases hstep with
  | launch hroom hpending hcall => trivial
  | watch hsome hbusy => trivial
  | wake hcall => exact hung_of_wait hpiped hwatched hnodup hholds' hcall
  | watchFail hcall => trivial
  | compact => trivial
  | skip hnone => exact Hung.tail h
  | readFail hsome hcall => trivial
  | read hsome hcall hmore => exact (Hung.listen h hpiped hholds hsome hcall).tail
  | retire hsome hcall hend hafter =>
    have hended := outputEnded_of_listen hpiped hholds h hsome hcall hend hafter
    refine ⟨hended, ?_⟩
    have hhung := (Hung.listen h hpiped hholds hsome hcall).tail
    exact fun event hevent hflag task hmem => hhung event hevent hflag task (List.mem_of_mem_filter hmem)
  | @settle run run' task events hcall =>
    -- The task that left reads from its own pipes only, so what was told of the others stays true.
    have hgrows := settle_grows hpiped hholds hcall
    intro event hevent hflag other hmem fd hfd
    rw [(settle_keeps hcall).1] at hmem
    exact hgrows.isEnded (hholds.stdout_ne hmem hfd) (h.2 event hevent hflag other hmem fd hfd)
  | settleFail hcall => trivial
  | abort hsome => trivial
  | pass hnone => trivial
  | part hsome hcall hafter =>
    have hcomplete := complete_of_readRest hpiped hholds hsome hcall hafter
    exact hcomplete
  | finish hcall => trivial
  | finishFail hcall => trivial

end Run

namespace Queue

open Run

variable {queue : Queue κ} {host : Host W} {hooks : Hooks κ W} {fuel : Nat} {w : W} {point : Point κ W}

theorem OnCourse.ending (hpiped : account.Piped host hooks) (hids : (queue.pending.map (·.id)).Nodup)
    (h : queue.OnCourse host hooks fuel w point) : Ending account point := by
  induction h with
  | refl => trivial
  | tail hbefore hstep ih =>
    have hbefore : queue.OnCourse host hooks fuel w _ := hbefore
    have hafter : queue.OnCourse host hooks fuel w _ := hbefore.tail hstep
    exact hstep.ending hpiped hids (hbefore.tracked hids).2 (hbefore.watched hids)
      (hbefore.holds hpiped.toOrderly hids) (hafter.holds hpiped.toOrderly hids) ih

end Queue

end BatchRunner
