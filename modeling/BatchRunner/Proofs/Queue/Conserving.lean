import BatchRunner.Proofs.Queue.Admission
import BatchRunner.Proofs.Queue.Holding
import Mathlib.Data.List.Count

/-!
# No task is lost or counted twice

At every point of a run the tasks whose process was started are, each of them once, those that are alive, the
one whose end is being dealt with, those whose end was judged, and those whose end could not be learnt
(`Ledger.Trail.spawned_perm`). The counts of exits and deaths are those of the ends that were judged
(`Run.Tallied`), and the numbers that a run keeps belong to executing tasks (`Run.Numbered`). When a run has
ended no task is alive any more, so its counts account for every task of the queue
(`Queue.tasks_conserved`).
-/

namespace BatchRunner

namespace RunEvent

/-- The task whose end was reported. -/
def reported? : RunEvent → Option TaskId
  | reported id => some id
  | _ => none

/-- The task whose end was judged, with how it ended. -/
def ended? : RunEvent → Option (TaskId × Termination)
  | judged id termination _ => some (id, termination)
  | _ => none

/-- The task whose end could not be learnt. -/
def lost? : RunEvent → Option TaskId
  | lost id _ _ => some id
  | _ => none

end RunEvent

/-- The task whose end a call of a hook reports. -/
def HookCall.reported? : HookCall → Option TaskId
  | reported id => some id
  | _ => none

/-- A hook for reports is called for the tasks that are reported. -/
theorem Hooks.filterMap_reported? {κ W : Type} {hooks : Hooks κ W} (h : hooks.reported.isSome = true)
    (events : List RunEvent) :
    (events.filterMap hooks.call?).filterMap HookCall.reported? = events.filterMap RunEvent.reported? := by
  rw [List.filterMap_filterMap]
  refine List.filterMap_congr fun event _ => ?_
  cases hcall : hooks.call? event with
  | none =>
    cases event with
    | reported id => simp [call?, h] at hcall
    | _ => rfl
  | some call =>
    cases call with
    | reported id => rw [eq_reported_of_call? hcall]; rfl
    | _ =>
      cases event with
      | reported id => simp [call?, h] at hcall
      | _ => rfl

namespace Duty

/-- The task whose end is being dealt with, and is not judged yet. -/
def unjudged? : Duty → Option TaskId
  | part id | report id _ | judge id _ => some id
  | _ => none

/-- The task whose end was reported, and is not judged yet. -/
def judging? : Duty → Option TaskId
  | judge id _ => some id
  | _ => none

@[simp] theorem unjudged?_ofCut (cut : Option Error) : (ofCut cut).unjudged? = none := by
  cases cut <;> rfl

@[simp] theorem judging?_ofCut (cut : Option Error) : (ofCut cut).judging? = none := by
  cases cut <;> rfl

end Duty

/-! ## Where the started tasks are -/

namespace Ledger

open RunEvent

variable {κ : Type} {tasks : List (Task κ)} {limit : Nat} {ledger : Ledger} {events : List RunEvent}
  {ids : List TaskId}

/-- Taking a task out of distinct ones leaves the others. -/
theorem count_filter_ne {alive : List TaskId} {id : TaskId} (hnodup : alive.Nodup) (hid : id ∈ alive)
    (other : TaskId) : alive.count other = [id].count other + (alive.filter (· != id)).count other := by
  have hperm : alive.Perm (id :: alive.filter (· != id)) := by
    rw [← hnodup.erase_eq_filter]
    exact List.perm_cons_erase hid
  rw [hperm.count_eq, ← List.singleton_append, List.count_append]

theorem Trail.spawned_perm (hids : ids.Nodup) (h : Trail tasks limit (start ids) events ledger) :
    (events.filterMap spawned?).Perm (ledger.alive ++ ledger.duty.unjudged?.toList ++
      (events.filterMap ended?).map (·.1) ++ events.filterMap lost?) := by
  rw [List.perm_iff_count]
  intro other
  induction h with
  | nil => rfl
  | @snoc events ledger event next trail step ih =>
    simp only [List.count_append, List.filterMap_append, List.map_append] at ih ⊢
    rw [ih]
    cases step with
    -- A task that starts to be retired is counted where it was: it leaves the living and becomes the one at hand.
    | @retiring queued alive held id hid =>
      have hnodup : alive.Nodup := (List.nodup_append.1 (trail.nodup hids)).1
      have halive := count_filter_ne hnodup hid other
      simp only [List.filterMap_cons, List.filterMap_nil, spawned?, ended?, lost?, Duty.unjudged?, halive,
        Option.toList_none, Option.toList_some, List.map_nil, List.count_nil]
      omega
    | settled => simp [spawned?, ended?, lost?, Duty.unjudged?_ofCut]; rfl
    | _ =>
      simp only [List.filterMap_cons, List.filterMap_nil, List.map_cons, List.map_nil, spawned?, ended?, lost?,
        Duty.unjudged?, List.count_append, List.count_nil, Option.toList_none, Option.toList_some]
      omega

theorem Trail.reported_eq (h : Trail tasks limit (start ids) events ledger) :
    events.filterMap reported? = (events.filterMap ended?).map (·.1) ++ ledger.duty.judging?.toList := by
  induction h with
  | nil => rfl
  | snoc trail step ih =>
    rw [List.filterMap_append, ih, List.filterMap_append, List.map_append, List.append_assoc, List.append_assoc]
    congr 1
    cases step with
    | settled => simp only [Duty.judging?_ofCut]; rfl
    | _ => rfl

/-- An end is judged as it was learnt. -/
theorem Trail.reaped_of_ended (hids : ids.Nodup) (h : Trail tasks limit (start ids) events ledger)
    {id : TaskId} {termination : Termination} (hended : (id, termination) ∈ events.filterMap ended?) :
    .reaped id termination ∈ events := by
  obtain ⟨event, hevent, hsome⟩ := List.mem_filterMap.1 hended
  obtain ⟨life, story, -⟩ := h.story hids id
  cases event with
  | judged id' termination' verdict =>
    obtain ⟨rfl, rfl⟩ : id' = id ∧ termination' = termination := by simpa [ended?] using hsome
    have htold : .judged id' termination' verdict ∈ life.told id' := by
      rw [← story.tellings_eq]
      exact List.mem_filter.2 ⟨hevent, by simp [told?]⟩
    rw [story.reaped_mem_iff]
    cases life <;> simp_all [Life.told, Life.termination?]
  | _ => cases hsome

end Ledger

namespace Run

variable {κ W : Type} {setting : RunSetting κ W} {tasks : List (Task κ)} {first last : Moment κ W}

/-! ## The counts of ends -/

/-- The ends that were judged in a history that is kept last first. -/
def ends (history : List RunEvent) : List (TaskId × Termination) := history.reverse.filterMap RunEvent.ended?

/-- The exits and the deaths that a run counts are those of the ends that were judged. -/
structure Tallied (run : Run κ W) : Prop where
  exited : run.stats.exited = (ends run.history).countP (·.2.exitCode?.isSome)
  signalled : run.stats.signalled = (ends run.history).countP (·.2.signal?.isSome)

theorem ends_cons (event : RunEvent) (history : List RunEvent) :
    ends (event :: history) = ends history ++ event.ended?.toList := by
  simp only [ends, List.reverse_cons, List.filterMap_append]
  cases event <;> rfl

/-- An event that is no judgement leaves the tally as it is. -/
theorem Tallied.quiet {run run' : Run κ W} {event : RunEvent} (h : Tallied run) (hquiet : event.ended? = none)
    (hhistory : run'.history = event :: run.history) (hexited : run'.stats.exited = run.stats.exited)
    (hsignalled : run'.stats.signalled = run.stats.signalled) : Tallied run' := by
  have hends : ends run'.history = ends run.history := by
    rw [hhistory, ends_cons, hquiet, Option.toList_none, List.append_nil]
  refine ⟨?_, ?_⟩
  · rw [hexited, hends, h.exited]
  · rw [hsignalled, hends, h.signalled]

theorem Tallied.judge {run : Run κ W} (h : Tallied run) (id : TaskId) (termination : Termination)
    (verdict : Verdict) (w : W) : Tallied (run.judge id termination verdict w) := by
  have hends : ends (run.judge id termination verdict w).history = ends run.history ++ [(id, termination)] := by
    simp only [Run.judge, note, ends_cons, RunEvent.ended?, Option.toList_none, List.append_nil, Option.toList_some]
  have hexited := h.exited
  have hsignalled := h.signalled
  refine ⟨?_, ?_⟩
  · rw [hends, List.countP_append, ← hexited]
    cases termination <;> rfl
  · rw [hends, List.countP_append, ← hsignalled]
    cases termination <;> rfl

theorem Tallied.conclude (setting : RunSetting κ W) {run : Run κ W} {task : Task κ} (h : Tallied run) :
    Tallied (run.conclude setting task) := by
  cases htermination : task.termination with
  | none =>
    unfold Run.conclude
    rw [htermination]
    exact h
  | some termination =>
    cases hverdict : setting.hooks.terminated setting.options.policy task run.world with
    | mk verdict w =>
      have hjudged := h.judge task.id termination verdict w
      rw [conclude_eq htermination hverdict]
      split
      · exact hjudged.quiet rfl rfl rfl rfl
      · exact hjudged

theorem Move.tallied (hmove : Move setting first last) (h : Tallied first.run) : Tallied last.run := by
  cases hmove with
  | @refuse run task rest error after w hroom hpending hcall =>
    have hfailed : Tallied ((run.pop rest w).note (.spawnFailed after.id error)) := h.quiet rfl rfl rfl rfl
    exact hfailed.quiet rfl rfl rfl rfl
  | @accept run task rest after w hroom hpending hcall =>
    have hspawned : Tallied ((run.pop rest w).note (.spawned after.id)) := h.quiet rfl rfl rfl rfl
    have hbegan : RunEvent.ended? (.began after.id) = none := rfl
    exact hspawned.quiet hbegan rfl rfl rfl
  | watch | watchFail | readFail | abandon | leave | lose | record => exact h.quiet rfl rfl rfl rfl
  | wake | skip | read | readRest | compact | clear => exact ⟨h.exited, h.signalled⟩
  | @settle run task termination between v drained after w hreap hclose =>
    have hreaped : Tallied ((run.inWorld w).note (.reaped after.id termination)) := h.quiet rfl rfl rfl rfl
    exact (hreaped.conclude setting).quiet rfl rfl rfl rfl

theorem Moves.tallied (hmoves : Moves setting first last) (h : Tallied first.run) : Tallied last.run := by
  induction hmoves with
  | refl => exact h
  | tail _ hmove ih => exact hmove.tallied ih

/-! ## The numbers of processes -/

/-- The numbers that a run keeps are those of executing tasks. -/
def Numbered (run : Run κ W) : Prop :=
  ∀ number ∈ run.pids, ∃ task, (number.2, task) ∈ run.executing ∧ task.pid = some number.1

theorem Numbered.of_eq {run run' : Run κ W} (h : Numbered run) (hpids : run'.pids = run.pids)
    (hexecuting : run'.executing = run.executing) : Numbered run' := by
  intro number hnumber
  rw [hpids] at hnumber
  rw [hexecuting]
  exact h number hnumber

theorem Numbered.update {run run' : Run κ W} {id : TaskId} {task after : Task κ} (h : Numbered run)
    (hnodup : run.ids.Nodup) (hsome : run.executing? id = some task) (hpid : after.pid = task.pid)
    (hpids : run'.pids = run.pids) (hexecuting : run'.executing = (run.update id after).executing) :
    Numbered run' := by
  obtain ⟨l, r, hsplit, hl, hr⟩ := executing_split hnodup hsome
  intro number hnumber
  rw [hpids] at hnumber
  obtain ⟨known, hknown, hnumbered⟩ := h number hnumber
  rw [hexecuting, update_executing hsplit hl hr]
  rw [hsplit, List.mem_append, List.mem_cons] at hknown
  rcases hknown with hleft | heq | hright
  · exact ⟨known, by simp [hleft], hnumbered⟩
  · obtain ⟨hid, rfl⟩ := Prod.mk.inj heq
    exact ⟨after, by simp [hid], hpid.trans hnumbered⟩
  · exact ⟨known, by simp [hright], hnumbered⟩

theorem Numbered.enter {run : Run κ W} {task : Task κ} (h : Numbered run) (hnew : task.id ∉ run.ids) :
    Numbered (run.enter task) := by
  intro number hnumber
  rw [executing_enter run hnew]
  have hcases : number ∈ run.pids ∨ number.2 = task.id ∧ task.pid = some number.1 := by
    unfold Run.enter at hnumber
    cases hpid : task.pid with
    | none =>
      simp only [hpid] at hnumber
      exact .inl hnumber
    | some pid =>
      simp only [hpid, List.mem_append, List.mem_filter, List.mem_singleton] at hnumber
      rcases hnumber with ⟨hold, -⟩ | rfl
      · exact .inl hold
      · exact .inr ⟨rfl, rfl⟩
  rcases hcases with hold | ⟨hid, hpid⟩
  · obtain ⟨known, hknown, hnumbered⟩ := h number hold
    exact ⟨known, List.mem_append_left _ hknown, hnumbered⟩
  · exact ⟨task, by simp [hid], hpid⟩

theorem Numbered.leave {run : Run κ W} {id : TaskId} {task : Task κ} (h : Numbered run)
    (hnodup : run.ids.Nodup) (hsome : run.executing? id = some task) : Numbered (run.leave id task) := by
  obtain ⟨l, r, hsplit, hl, hr⟩ := executing_split hnodup hsome
  intro number hnumber
  have hold : number ∈ run.pids ∧ task.pid ≠ some number.1 := by
    unfold Run.leave note at hnumber
    cases hpid : task.pid with
    | none =>
      simp only [hpid] at hnumber
      exact ⟨hnumber, nofun⟩
    | some pid =>
      simp only [hpid, List.mem_filter, bne_iff_ne] at hnumber
      exact ⟨hnumber.1, fun heq => hnumber.2 (Option.some.inj heq).symm⟩
  obtain ⟨known, hknown, hnumbered⟩ := h number hold.1
  refine ⟨known, ?_, hnumbered⟩
  show _ ∈ run.executing.filter (·.1 != id)
  rw [filter_executing hsplit hl hr]
  rw [hsplit, List.mem_append, List.mem_cons] at hknown
  rcases hknown with hleft | heq | hright
  · exact List.mem_append_left _ hleft
  · obtain ⟨-, rfl⟩ := Prod.mk.inj heq
    exact absurd hnumbered hold.2
  · exact List.mem_append_right _ hright

theorem Move.numbered (hids : (tasks.map (·.id)).Nodup) (hmove : Move setting first last)
    (htracked : Tracked tasks setting.options.effectiveParallelism first) (h : Numbered first.run) :
    Numbered last.run := by
  have hnodup : first.run.ids.Nodup := htracked.ids_nodup hids
  cases hmove with
  | @accept run task rest after w hroom hpending hcall =>
    obtain ⟨watched, -, trail⟩ := htracked
    have hnew : after.id ∉ run.ids := not_mem_ids_of_pending hids hpending (Task.execute_request hcall) trail
    have htold : Numbered ((run.pop rest w).tell setting after) := h.of_eq rfl rfl
    exact htold.enter hnew
  | read hsome hcall =>
    refine h.update hnodup hsome ?_ rfl rfl
    rw [Task.readAvailable_eq hcall]
  | readFail hsome hcall =>
    refine h.update hnodup hsome ?_ rfl rfl
    rw [Task.readAvailable_eq hcall]
  | readRest hsome hcall =>
    refine h.update hnodup hsome ?_ rfl rfl
    rw [Task.readToClose_eq hcall]
  | abandon hsome hread hclose =>
    refine h.update hnodup hsome ?_ rfl rfl
    rw [Task.finishExecution_pid hclose, Task.readToClose_eq hread]
  | leave hsome hwatch => exact Numbered.leave (h.of_eq rfl rfl) hnodup hsome
  | settle => exact h.of_eq (conclude_pids ..) (conclude_keeps ..).2
  | refuse | watch | wake | watchFail | skip | lose | record | compact | clear => exact h.of_eq rfl rfl

theorem Moves.numbered (hids : (tasks.map (·.id)).Nodup) (hmoves : Moves setting first last)
    (hsound : Sound tasks first) (htracked : Tracked tasks setting.options.effectiveParallelism first)
    (h : Numbered first.run) : Numbered last.run := by
  induction hmoves with
  | refl => exact h
  | tail hbefore hmove ih => exact hmove.numbered hids (Moves.tracked hids hbefore hsound htracked).2 ih

end Run

namespace Queue

variable {κ W : Type} {queue : Queue κ} {host : Host W} {hooks : Hooks κ W} {fuel : Nat} {w : W}
  {outcome : BatchOutcome κ W}

theorem reached_tallied (queue : Queue κ) (host : Host W) (hooks : Hooks κ W) (fuel : Nat) (w : W) :
    (queue.reached host hooks fuel w).Tallied := by
  obtain ⟨phase, hmoves⟩ := queue.reached_moves host hooks fuel w
  exact hmoves.tallied ⟨rfl, rfl⟩

theorem reached_numbered (hids : (queue.pending.map (·.id)).Nodup) (host : Host W) (hooks : Hooks κ W)
    (fuel : Nat) (w : W) : (queue.reached host hooks fuel w).Numbered := by
  obtain ⟨phase, hmoves⟩ := queue.reached_moves host hooks fuel w
  exact hmoves.numbered hids (Run.sound_start w) (Run.tracked_start _ w) fun _ hmem => absurd hmem List.not_mem_nil

/-- A run that has ended keeps no number: there is no executing task to which one could belong. -/
theorem pids_of_ended (hids : (queue.pending.map (·.id)).Nodup)
    (h : queue.executeLocally host hooks fuel w = .ok outcome) :
    (queue.reached host hooks fuel w).pids = [] := by
  obtain ⟨-, hended⟩ := ended_trail hids h
  refine List.eq_nil_iff_forall_not_mem.2 fun number hnumber => ?_
  obtain ⟨task, htask, -⟩ := reached_numbered hids host hooks fuel w number hnumber
  rw [hended.executing] at htask
  exact List.not_mem_nil htask

/-- Every end is an exit or a death. -/
theorem length_eq_countP (ends : List (TaskId × Termination)) :
    ends.length = ends.countP (·.2.exitCode?.isSome) + ends.countP (·.2.signal?.isSome) := by
  induction ends with
  | nil => rfl
  | cons entry ends ih =>
    obtain ⟨id, termination⟩ := entry
    rw [List.length_cons, ih, List.countP_cons, List.countP_cons]
    cases termination with
    | exited code => simp [Termination.exitCode?, Termination.signal?]; omega
    | signalled signal => simp [Termination.exitCode?, Termination.signal?]; omega

/-- In a run that has ended every task of the queue is accounted for: it was started, or it was dropped, or it
is the one at most that could not be started. The tasks that were started are, each once, those that were
reported with an exit or a death, as they are counted, and those whose end could not be learnt. Tasks are
dropped only if the run fails, and nothing is left behind. -/
theorem tasks_conserved (hids : (queue.pending.map (·.id)).Nodup)
    (h : queue.executeLocally host hooks fuel w = .ok outcome) :
    let stats := outcome.queue.stats
    let refused := outcome.history.filterMap RunEvent.refused?
    let ends := outcome.history.filterMap RunEvent.ended?
    let lost := outcome.history.filterMap RunEvent.lost?
    (queue.pending.length = stats.launched + stats.dropped + refused.length ∧ refused.length ≤ 1) ∧
      (stats.launched = (outcome.history.filterMap RunEvent.spawned?).length ∧
        (outcome.history.filterMap RunEvent.spawned?).Nodup ∧
        (outcome.history.filterMap RunEvent.spawned?).Perm (ends.map (·.1) ++ lost) ∧
        stats.launched = stats.exited + stats.signalled + lost.length) ∧
      (outcome.history.filterMap RunEvent.reported? = ends.map (·.1) ∧
        (∀ id termination, (id, termination) ∈ ends → .reaped id termination ∈ outcome.history) ∧
        (hooks.reported.isSome = true →
          (queue.hookCalls host hooks fuel w).filterMap HookCall.reported? = ends.map (·.1)) ∧
        stats.exited = ends.countP (·.2.exitCode?.isSome) ∧
        stats.signalled = ends.countP (·.2.signal?.isSome)) ∧
      (0 < stats.dropped → ∃ error, outcome.result = .error error) ∧
      outcome.queue.pending = [] ∧ (queue.reached host hooks fuel w).executing = [] ∧
      (queue.reached host hooks fuel w).pids = [] ∧ outcome.queue.pids = [] := by
  intro stats refused ends lost
  obtain ⟨⟨watched, trail⟩, hended⟩ := ended_trail hids h
  rw [← history_of_executeLocally h] at trail
  have hreached := (runLocally_of_executeLocally h).2
  have hstats : stats = { (queue.reached host hooks fuel w).stats with
      dropped := (queue.reached host hooks fuel w).pending.length } := by
    simp only [stats, hreached]
    rfl
  have hdropped : stats.dropped = (queue.reached host hooks fuel w).pending.length := by rw [hstats]
  have hlaunched : stats.launched = (outcome.history.filterMap RunEvent.spawned?).length := by
    rw [history_of_executeLocally h, events, ← (reached_counted hids host hooks fuel w).launched, hstats]
  -- What was taken from the queue was started or refused; what is left in it is dropped.
  have htaken := congrArg List.length trail.attempted_append_queued
  rw [trail.attempted_eq.1, List.length_append, List.length_append, List.length_map, List.length_map] at htaken
  have hrefused : refused.length ≤ 1 := by
    rcases trail.attempted_eq.2 with hnil | ⟨hone, -⟩
    · simp only [refused, hnil]
      exact Nat.zero_le 1
    · exact Nat.le_of_eq hone
  have hperm : (outcome.history.filterMap RunEvent.spawned?).Perm (ends.map (·.1) ++ lost) := by
    simpa [Duty.unjudged?] using trail.spawned_perm hids
  have hnodup : (outcome.history.filterMap RunEvent.spawned?).Nodup := by
    have hattempted := trail.attempted_append_queued
    rw [trail.attempted_eq.1, List.append_assoc] at hattempted
    rw [← hattempted] at hids
    exact (List.nodup_append.1 hids).1
  have hreported : outcome.history.filterMap RunEvent.reported? = ends.map (·.1) := by
    rw [trail.reported_eq]
    exact List.append_nil _
  obtain ⟨hexited, hsignalled⟩ := queue.reached_tallied host hooks fuel w
  have hends : Run.ends (queue.reached host hooks fuel w).history = ends := by
    simp only [ends, history_of_executeLocally h]
    rfl
  rw [hends] at hexited hsignalled
  have hexited' : stats.exited = ends.countP (·.2.exitCode?.isSome) := by rw [← hexited, hstats]
  have hsignalled' : stats.signalled = ends.countP (·.2.signal?.isSome) := by rw [← hsignalled, hstats]
  have hall : queue.pending.length = stats.launched + stats.dropped + refused.length := by
    simp only [hlaunched, hdropped, refused]
    omega
  have hlength := hperm.length_eq
  rw [List.length_append, List.length_map, length_eq_countP ends] at hlength
  refine ⟨⟨hall, hrefused⟩, ⟨hlaunched, hnodup, hperm, by omega⟩,
    ⟨hreported, fun id termination hmem => trail.reaped_of_ended hids hmem, fun hhook => ?_, hexited',
      hsignalled'⟩,
    fun hpositive => ?_, ?_, hended.executing, pids_of_ended hids h, ?_⟩
  · rw [hookCalls_eq, Hooks.filterMap_reported? hhook, ← history_of_executeLocally h, hreported]
  · have hheld : (queue.reached host hooks fuel w).held.isSome = true := by
      refine hended.pending.resolve_left fun hnil => ?_
      rw [hdropped, hnil] at hpositive
      exact absurd hpositive (Nat.lt_irrefl 0)
    obtain ⟨error, herror⟩ := Option.isSome_iff_exists.1 hheld
    exact ⟨error, by rw [result_of_executeLocally h, resultOf_eq_error_iff, herror]⟩
  · rw [hreached]
    rfl
  · rw [hreached]
    rfl

/-- Of five tasks, three at once, the first exits with one, which stops the batch, the second exits with zero,
the end of the third cannot be learnt, and the others are dropped. -/
theorem tasks_conserved_of_five :
    let queue := Queue.plain 3 ["first", "second", "third", "fourth", "fifth"]
    let host := Host.prompt fun pid => if pid = 3 then .error (.kind .deadlock) else .ok (2 - pid)
    let outcome := queue.outcome (queue.reached host .plain 9 0)
    (queue.pending.map (·.id)).Nodup ∧ queue.executeLocally host .plain 9 0 = .ok outcome ∧
      outcome.queue.stats = ⟨3, 2, 0, 2, 3⟩ ∧ outcome.history.filterMap RunEvent.lost? = [.ofNat 2] ∧
      (outcome.history.filterMap RunEvent.spawned?).Perm
        ((outcome.history.filterMap RunEvent.ended?).map (·.1) ++ [.ofNat 2]) ∧
      ∃ error, outcome.result = .error error := by
  intro queue host outcome
  have hids : (queue.pending.map (·.id)).Nodup := by decide
  have hok : queue.executeLocally host .plain 9 0 = .ok outcome := executeLocally_of_isOk (by decide +kernel)
  have hstats : outcome.queue.stats = ⟨3, 2, 0, 2, 3⟩ := by decide +kernel
  have hlost : outcome.history.filterMap RunEvent.lost? = [.ofNat 2] := by decide +kernel
  obtain ⟨-, ⟨-, -, hperm, -⟩, -, hfails, -⟩ := tasks_conserved hids hok
  rw [hlost] at hperm
  exact ⟨hids, hok, hstats, hlost, hperm, hfails (by rw [hstats]; decide)⟩

end Queue

end BatchRunner
