import BatchRunner.Proofs.Queue.Control
import BatchRunner.Proofs.Queue.Ledger
import Mathlib.Data.List.Nodup

/-!
# Runs keep to the law of histories

The ledger of a moment is read off its run and its phase. Every move adds events to the history that the law
allows and that lead to the ledger of the next moment (`Move.tracked`). So the history of every run of a
queue is a trail (`trail_of_runLocally`), of whatever length and however the run ends, and what is proved of
trails is true of runs.
-/

namespace BatchRunner

namespace Run

variable {κ W : Type} {setting : RunSetting κ W} {tasks : List (Task κ)}

/-! ## The tasks of a run are those of its queue -/

/-- A task that was asked for as one of the given tasks was. -/
def Known (tasks : List (Task κ)) (task : Task κ) : Prop := ∃ origin ∈ tasks, task.request = origin.request

theorem Known.of_request_eq {task after : Task κ} (h : Known tasks task)
    (heq : after.request = task.request) : Known tasks after := by
  obtain ⟨origin, hmem, horigin⟩ := h
  exact ⟨origin, hmem, heq.trans horigin⟩

/-- The tasks of a run come from the queue, and executing ones are kept under their own identifiers. -/
structure Sound (tasks : List (Task κ)) (moment : Moment κ W) : Prop where
  pending : ∀ task ∈ moment.run.pending, Known tasks task
  executing : ∀ entry ∈ moment.run.executing, entry.2.id = entry.1 ∧ Known tasks entry.2
  leaving : ∀ task, moment.phase.leaving? = some task → Known tasks task

theorem mem_executing_of_executing? {run : Run κ W} {id : TaskId} {task : Task κ}
    (h : run.executing? id = some task) : (id, task) ∈ run.executing := by
  obtain ⟨before, after, hsplit, -⟩ := List.lookup_eq_some_iff.1 h
  rw [hsplit]
  exact List.mem_append_right _ List.mem_cons_self

theorem mem_update {run : Run κ W} {id : TaskId} {after : Task κ} {entry : TaskId × Task κ}
    (h : entry ∈ (run.update id after).executing) : entry = (id, after) ∨ entry ∈ run.executing ∧ entry.1 ≠ id := by
  obtain ⟨old, hold, rfl⟩ := List.mem_map.1 h
  split
  · exact .inl rfl
  · next hne => exact .inr ⟨hold, hne⟩

/-- The task that was put in its place is there. -/
theorem eq_of_executing?_update {run : Run κ W} {id : TaskId} {after found : Task κ}
    (h : (run.update id after).executing? id = some found) : found = after := by
  rcases mem_update (mem_executing_of_executing? h) with heq | ⟨-, hne⟩
  · exact (Prod.mk.inj heq).2
  · exact absurd rfl hne

theorem Sound.of_executing? {moment : Moment κ W} {id : TaskId} {task : Task κ} (h : Sound tasks moment)
    (hsome : moment.run.executing? id = some task) : task.id = id ∧ Known tasks task :=
  h.executing _ (mem_executing_of_executing? hsome)

/-- Both the first queued task and those behind it come from the queue. -/
theorem Sound.of_pending {moment : Moment κ W} {task : Task κ} {rest : List (Task κ)} (h : Sound tasks moment)
    (hpending : moment.run.pending = task :: rest) :
    Known tasks task ∧ ∀ other ∈ rest, Known tasks other := by
  have hknown := h.pending
  rw [hpending] at hknown
  exact List.forall_mem_cons.1 hknown

/-- A change that leaves the tasks where they are keeps them sound. -/
theorem Sound.of_eq {first last : Moment κ W} (h : Sound tasks first)
    (hpending : last.run.pending = first.run.pending) (hexecuting : last.run.executing = first.run.executing)
    (hphase : last.phase.leaving? = none) : Sound tasks last where
  pending := by rw [hpending]; exact h.pending
  executing := by rw [hexecuting]; exact h.executing
  leaving := fun task heq => by rw [hphase] at heq; cases heq

/-- Putting a task in its place keeps the entries sound if it is the task that was there. -/
theorem Sound.update {first last : Moment κ W} {id : TaskId} {task after : Task κ} (h : Sound tasks first)
    (hsome : first.run.executing? id = some task) (hrequest : after.request = task.request)
    (hpending : last.run.pending = first.run.pending)
    (hexecuting : last.run.executing =
      first.run.executing.map fun entry => if entry.1 = id then (id, after) else entry)
    (hphase : last.phase.leaving? = none) : Sound tasks last where
  pending := by rw [hpending]; exact h.pending
  executing := by
    rw [hexecuting]
    intro entry hentry
    obtain ⟨old, hold, rfl⟩ := List.mem_map.1 hentry
    obtain ⟨hid, hknown⟩ := h.of_executing? hsome
    by_cases heq : old.1 = id
    · rw [if_pos heq]
      exact ⟨(Task.id_eq_of_request_eq hrequest).trans hid, hknown.of_request_eq hrequest⟩
    · rw [if_neg heq]
      exact h.executing old hold
  leaving := fun task heq => by rw [hphase] at heq; cases heq

theorem Phase.leaving?_after {α : Type} (result : Except Error α) :
    (Phase.after result : Phase κ).leaving? = none := by
  cases result <;> rfl

theorem Move.sound {first last : Moment κ W} (hmove : Move setting first last) (h : Sound tasks first) :
    Sound tasks last := by
  cases hmove with
  | @refuse run task rest error after w hroom hpending hcall =>
    exact ⟨(h.of_pending hpending).2, h.executing, fun _ heq => by cases heq⟩
  | @accept run task rest after w hroom hpending hcall =>
    obtain ⟨hknown, hrest⟩ := h.of_pending hpending
    refine ⟨hrest, ?_, fun _ heq => by cases heq⟩
    intro entry hentry
    rcases List.mem_append.1 hentry with hold | hnew
    · exact h.executing entry (List.mem_of_mem_filter hold)
    · rw [List.mem_singleton.1 hnew]
      exact ⟨rfl, hknown.of_request_eq (Task.execute_request hcall)⟩
  | read hsome hcall => exact h.update hsome (Task.readAvailable_keeps hcall).1 rfl rfl rfl
  | readFail hsome hcall => exact h.update hsome (Task.readAvailable_keeps hcall).1 rfl rfl rfl
  | readRest hsome hcall => exact h.update hsome (Task.readToClose_request hcall) rfl rfl rfl
  | abandon hsome hread hclose =>
    have hrequest := (Task.finishExecution_keeps hclose).1.trans (Task.readToClose_request hread)
    exact h.update hsome hrequest rfl rfl rfl
  | @leave run id task watch hsome hwatch =>
    refine ⟨h.pending, fun entry hentry => h.executing entry (List.mem_of_mem_filter hentry), ?_⟩
    intro other heq
    cases heq
    exact (h.of_executing? hsome).2
  | @settle run task termination between v drained after w hreap hclose =>
    exact h.of_eq (conclude_keeps ..).1 (conclude_keeps ..).2 (Phase.leaving?_after drained)
  | watch => exact h.of_eq rfl rfl rfl
  | wake => exact h.of_eq rfl rfl rfl
  | watchFail => exact h.of_eq rfl rfl rfl
  | skip => exact h.of_eq rfl rfl rfl
  | lose => exact h.of_eq rfl rfl rfl
  | record => exact h.of_eq rfl rfl rfl
  | compact => exact h.of_eq rfl rfl rfl
  | clear => exact h.of_eq rfl rfl rfl

/-! ## The ledger of a moment -/

/-- What a run is in the middle of in a phase. -/
def Phase.duty : Phase κ → Duty
  | admitting | serving => .free
  | leaving task => .part task.id
  | failing error => .record error

/-- The ledger of a moment; `watched` says whether output was ever waited for. -/
def Moment.ledger (moment : Moment κ W) (watched : Bool) : Ledger :=
  ⟨moment.run.pending.map (·.id), moment.run.ids, moment.run.held, watched, moment.phase.duty⟩

/-- The history so far is a trail to the ledger of the moment. Past the first starting of tasks, output was
waited for. -/
def Tracked (tasks : List (Task κ)) (limit : Nat) (moment : Moment κ W) : Prop :=
  ∃ watched, (moment.phase.isAdmitting = false → watched = true) ∧
    Ledger.Trail tasks limit (.start (tasks.map (·.id))) moment.run.history.reverse (moment.ledger watched)

/-- While tasks are started it does not matter whether output was ever waited for. -/
theorem Tracked.of_admitting {limit : Nat} {run : Run κ W} (watched : Bool)
    (trail : Ledger.Trail tasks limit (.start (tasks.map (·.id))) run.history.reverse
      (Moment.ledger ⟨.admitting, run⟩ watched)) : Tracked tasks limit ⟨.admitting, run⟩ :=
  ⟨watched, fun h => (by cases h), trail⟩

/-- The first queued task on the ledger, under its identifier after a call on it. -/
theorem ledger_of_pending {run : Run κ W} {task after : Task κ} {rest : List (Task κ)} (watched : Bool)
    (hpending : run.pending = task :: rest) (hrequest : after.request = task.request) :
    Moment.ledger ⟨.admitting, run⟩ watched =
      ⟨after.id :: rest.map (·.id), run.ids, run.held, watched, .free⟩ := by
  simp [Moment.ledger, hpending, Task.id_eq_of_request_eq hrequest, Phase.duty]

/-- The first queued task does not execute. -/
theorem not_mem_ids_of_pending {run : Run κ W} {task after : Task κ} {rest : List (Task κ)} {limit : Nat}
    {watched : Bool} (hids : (tasks.map (·.id)).Nodup) (hpending : run.pending = task :: rest)
    (hrequest : after.request = task.request)
    (trail : Ledger.Trail tasks limit (.start (tasks.map (·.id))) run.history.reverse
      (Moment.ledger ⟨.admitting, run⟩ watched)) : after.id ∉ run.ids := by
  rw [ledger_of_pending watched hpending hrequest] at trail
  intro hmem
  exact (List.nodup_append.1 (trail.nodup hids)).2.2 _ hmem _ List.mem_cons_self rfl

/-- A task that is taken in does not push out another one. -/
theorem executing_enter (run : Run κ W) {task : Task κ} (h : task.id ∉ run.ids) :
    (run.enter task).executing = run.executing ++ [(task.id, task)] := by
  have hfilter : run.executing.filter (·.1 != task.id) = run.executing := by
    refine List.filter_eq_self.2 fun entry hentry => bne_iff_ne.2 ?_
    exact ne_of_mem_of_not_mem (List.mem_map_of_mem hentry) h
  rw [enter, hfilter]

theorem ids_enter (run : Run κ W) {task : Task κ} (h : task.id ∉ run.ids) :
    (run.enter task).ids = run.ids ++ [task.id] := by
  rw [ids, executing_enter run h, List.map_append, ids]
  rfl

theorem hasRoom_iff {run : Run κ W} :
    run.hasRoom setting = true ↔
      run.held = none ∧ run.ids.length < setting.options.effectiveParallelism := by
  simp [hasRoom, isStopped, ids]

/-- Waiting for output begins when there is no room or no task. -/
theorem busy_of_full {run : Run κ W} (h : run.hasRoom setting = false ∨ run.pending = []) :
    setting.options.effectiveParallelism ≤ run.ids.length ∨ run.pending.map (·.id) = [] ∨
      run.held.isSome := by
  rcases h with hroom | hnil
  · by_cases hheld : run.held = none
    · left
      by_contra hlt
      rw [hasRoom_iff.2 ⟨hheld, Nat.lt_of_not_le hlt⟩] at hroom
      cases hroom
    · exact .inr (.inr (Option.isSome_iff_ne_none.2 hheld))
  · exact .inr (.inl (by rw [hnil, List.map_nil]))

/-- With distinct identifiers, the error that a stopping verdict on a task records is the one that the tasks
of the queue tell. -/
theorem Known.stopErrors {task : Task κ} (hknown : Known tasks task) (hids : (tasks.map (·.id)).Nodup)
    (termination : Termination) : stopErrors tasks task.id termination = [stopError task termination] := by
  obtain ⟨origin, hmem, hrequest⟩ := hknown
  have hfind : tasks.find? (·.id == task.id) = some origin := by
    cases hfound : tasks.find? (·.id == task.id) with
    | none =>
      have hne := List.find?_eq_none.1 hfound origin hmem
      exact absurd (beq_iff_eq.2 (Task.id_eq_of_request_eq hrequest).symm) hne
    | some found =>
      have hname := List.find?_some hfound
      have heq : found.id = origin.id := (beq_iff_eq.1 hname).trans (Task.id_eq_of_request_eq hrequest)
      exact congrArg some (List.inj_on_of_nodup_map hids (List.mem_of_find?_eq_some hfound) hmem heq)
  simp [BatchRunner.stopErrors, hfind, stopError, Task.spec_eq_of_request_eq hrequest]

/-- Reporting, judging and, for a stopping verdict, recording are what the law asks for after an end was
learnt. -/
theorem conclude_trail (setting : RunSetting κ W) (run : Run κ W) {task : Task κ}
    {termination : Termination} {limit : Nat} {first : Ledger} {queued alive : List TaskId}
    (hids : (tasks.map (·.id)).Nodup) (hknown : Known tasks task)
    (htermination : task.termination = some termination)
    (trail : Ledger.Trail tasks limit first run.history.reverse
      ⟨queued, alive, run.held, true, .report task.id termination⟩) :
    Ledger.Trail tasks limit first (run.conclude setting task).history.reverse
      ⟨queued, alive, (run.conclude setting task).held, true, .settle task.id⟩ := by
  cases hverdict : setting.hooks.terminated setting.options.policy task run.world with
  | mk verdict w =>
    rw [conclude_eq htermination hverdict]
    cases verdict with
    | proceed => exact (trail.note .reported).note .passed
    | stop =>
      exact ((trail.note .reported).note (.stopped (hknown.stopErrors hids termination))).note .recordedStop

/-- A move adds only events that the law allows. -/
theorem Move.tracked {first last : Moment κ W} (hids : (tasks.map (·.id)).Nodup)
    (hmove : Move setting first last) (hsound : Sound tasks first)
    (h : Tracked tasks setting.options.effectiveParallelism first) :
    Tracked tasks setting.options.effectiveParallelism last := by
  obtain ⟨watched, hwatched, trail⟩ := h
  cases hmove with
  | @refuse run task rest error after w hroom hpending hcall =>
    obtain ⟨hheld, hlength⟩ := hasRoom_iff.1 hroom
    rw [ledger_of_pending watched hpending (Task.execute_request hcall)] at trail
    exact .of_admitting watched ((trail.note (.spawnFailed hheld hlength)).note .recorded)
  | @accept run task rest after w hroom hpending hcall =>
    obtain ⟨hheld, hlength⟩ := hasRoom_iff.1 hroom
    have hrequest : after.request = task.request := Task.execute_request hcall
    have hnew : after.id ∉ run.ids := not_mem_ids_of_pending hids hpending hrequest trail
    rw [ledger_of_pending watched hpending hrequest] at trail
    have hids' : (((run.pop rest w).tell setting after).enter after).ids = run.ids ++ [after.id] :=
      ids_enter ((run.pop rest w).tell setting after) hnew
    refine .of_admitting watched ?_
    rw [Moment.ledger, hids']
    exact (trail.note (.spawned hheld hlength)).note .began
  | @watch run hsome hbusy =>
    have hsome' : run.ids ≠ [] := by simpa [ids] using hsome
    have hstep : Ledger.Step tasks setting.options.effectiveParallelism
        (Moment.ledger ⟨.admitting, run⟩ watched)
        (.waiting run.watch run.ids run.pids (run.pending.map (·.id)).length run.held.isSome)
        (Moment.ledger ⟨.serving, run⟩ true) := .waiting hsome' (busy_of_full hbusy)
    rw [List.length_map] at hstep
    exact ⟨true, fun _ => rfl, trail.note hstep⟩
  | wake hcall => exact ⟨watched, hwatched, trail⟩
  | watchFail hcall =>
    obtain rfl := hwatched rfl
    exact ⟨true, fun _ => rfl, trail.note .watchFailed⟩
  | skip hnone => exact ⟨watched, hwatched, trail⟩
  | read hsome hcall =>
    refine ⟨watched, hwatched, ?_⟩
    rw [Moment.ledger, ids_update]
    exact trail
  | readFail hsome hcall =>
    obtain rfl := hwatched rfl
    refine ⟨true, fun _ => rfl, ?_⟩
    rw [Moment.ledger, ids_note, ids_update]
    exact trail.note (.readFailed (mem_ids_of_executing? hsome))
  | readRest hsome hcall =>
    refine ⟨watched, hwatched, ?_⟩
    rw [Moment.ledger, ids_update]
    exact trail
  | abandon hsome hread hclose =>
    obtain rfl := hwatched rfl
    refine ⟨true, fun _ => rfl, ?_⟩
    rw [Moment.ledger, ids_note, ids_update]
    exact trail.note (.readFailed (mem_ids_of_executing? hsome))
  | @leave run id task watch hsome hwatch =>
    obtain rfl := hwatched rfl
    have hid : task.id = id := (hsound.of_executing? hsome).1
    refine ⟨true, fun _ => rfl, ?_⟩
    rw [Moment.ledger, ids_leave, Phase.duty, hid]
    exact trail.note (.retiring (mem_ids_of_executing? hsome))
  | @lose run task error between v drained after w hreap hclose =>
    obtain rfl := hwatched rfl
    have hrequest : after.request = task.request :=
      (Task.finishIfRunning_keeps hclose).1.trans (Task.reap_request hreap)
    rw [Moment.ledger, Phase.duty, ← Task.id_eq_of_request_eq hrequest] at trail
    exact ⟨true, fun _ => rfl, trail.note .lost⟩
  | @settle run task termination between v drained after w hreap hclose =>
    obtain rfl := hwatched rfl
    have hrequest : after.request = task.request :=
      (Task.finishIfRunning_keeps hclose).1.trans (Task.reap_request hreap)
    have htermination : after.termination = some termination :=
      (Task.finishIfRunning_keeps hclose).2.trans (Task.reap_termination hreap)
    have hknown : Known tasks after := (hsound.leaving task rfl).of_request_eq hrequest
    rw [Moment.ledger, Phase.duty, ← Task.id_eq_of_request_eq hrequest] at trail
    have hjudged := conclude_trail setting ((run.inWorld w).note (.reaped after.id termination)) hids
      hknown htermination (trail.note .reaped)
    refine ⟨true, fun _ => rfl, ?_⟩
    rw [Moment.ledger, ids_note, ids_conclude, note, (conclude_keeps ..).1]
    cases drained with
    | ok _ => exact hjudged.note .settled
    | error error => exact hjudged.note .settled
  | record =>
    obtain rfl := hwatched rfl
    exact ⟨true, fun _ => rfl, trail.note .recorded⟩
  | compact => exact .of_admitting watched trail
  | clear => exact ⟨watched, hwatched, trail⟩

/-- What holds at a moment and is kept by moves holds wherever moves lead. -/
theorem Moves.tracked {first last : Moment κ W} (hids : (tasks.map (·.id)).Nodup)
    (hmoves : Moves setting first last) (hsound : Sound tasks first)
    (h : Tracked tasks setting.options.effectiveParallelism first) :
    Sound tasks last ∧ Tracked tasks setting.options.effectiveParallelism last := by
  induction hmoves with
  | refl => exact ⟨hsound, h⟩
  | tail _ hmove ih => exact ⟨hmove.sound ih.1, hmove.tracked hids ih.1 ih.2⟩

theorem sound_start (w : W) : Sound tasks ⟨.admitting, start tasks w⟩ where
  pending := fun task hmem => ⟨task, hmem, rfl⟩
  executing := fun _ hmem => absurd hmem List.not_mem_nil
  leaving := fun _ heq => by cases heq

theorem tracked_start (limit : Nat) (w : W) : Tracked tasks limit ⟨.admitting, start tasks w⟩ :=
  .of_admitting false .nil

end Run

end BatchRunner
