import BatchRunner.Proofs.Queue.Move
import Mathlib.Data.List.Basic

/-!
# The control loop makes moves

Each function of the control loop leads from moment to moment by moves of a run. What is needed of the
moment at its end is part of the same statement: starting tasks ends when there is no room or no task, and
a whole run ends with no task executing and either none queued or an error held (`complete_leads`).
-/

namespace BatchRunner

namespace Run

variable {κ W : Type} {setting : RunSetting κ W}

/-! ## Starting tasks -/

theorem launch_leads {run : Run κ W} {task : Task κ} {rest : List (Task κ)} (hroom : run.hasRoom setting)
    (hpending : run.pending = task :: rest) :
    Leads setting ⟨.admitting, run⟩ (run.launch setting task rest)
      fun run' last => last = ⟨.admitting, run'⟩ ∧ run'.pending = rest := by
  refine .await fun ⟨result, after, w⟩ hcall => ?_
  cases result with
  | error error => exact .of_move (.refuse hroom hpending hcall) (.ok ⟨rfl, rfl⟩)
  | ok _ => exact .of_move (.accept hroom hpending hcall) (.ok ⟨rfl, rfl⟩)

/-- The number of queued tasks is enough fuel to start tasks until there is no room or no task. -/
theorem launchAll_leads {fuel : Nat} {run : Run κ W} (hfuel : run.pending.length ≤ fuel) :
    Leads setting ⟨.admitting, run⟩ (run.launchAll setting fuel)
      fun run' last => last = ⟨.admitting, run'⟩ ∧ (run'.hasRoom setting = false ∨ run'.pending = []) := by
  induction fuel generalizing run with
  | zero => exact .ok ⟨rfl, .inr (List.eq_nil_of_length_eq_zero (Nat.le_zero.1 hfuel))⟩
  | succ fuel ih =>
    unfold launchAll
    split
    · next hroom =>
      split
      · next hnil => exact .ok ⟨rfl, .inr hnil⟩
      · next task rest hpending =>
        refine (launch_leads hroom hpending).bind fun run' last ⟨hlast, hrest⟩ => ?_
        rw [hlast]
        rw [hpending, List.length_cons] at hfuel
        exact ih (by rw [hrest]; exact Nat.le_of_succ_le_succ hfuel)
    · next hroom => exact .ok ⟨rfl, .inl (by simpa using hroom)⟩

/-! ## Taking tasks out -/

@[simp] theorem ids_note (run : Run κ W) (event : RunEvent) : (run.note event).ids = run.ids := rfl

@[simp] theorem ids_update (run : Run κ W) (id : TaskId) (task : Task κ) :
    (run.update id task).ids = run.ids := by
  simp only [ids, update, List.map_map]
  refine List.map_congr_left fun entry _ => ?_
  by_cases h : entry.1 = id <;> simp [h]

@[simp] theorem ids_leave (run : Run κ W) (id : TaskId) (task : Task κ) :
    (run.leave id task).ids = run.ids.filter (· != id) := by
  simp [ids, leave, note, List.filter_map, Function.comp_def]

/-- Reporting and judging a task that was reaped, opened up to its verdict. -/
theorem conclude_eq {run : Run κ W} {task : Task κ} {termination : Termination} {verdict : Verdict} {w : W}
    (htermination : task.termination = some termination)
    (hverdict : setting.hooks.terminated setting.options.policy task run.world = (verdict, w)) :
    run.conclude setting task =
      if verdict.isStop then (run.judge task.id termination verdict w).record (stopError task termination)
      else run.judge task.id termination verdict w := by
  rw [conclude, htermination]
  dsimp only
  rw [hverdict]

/-- Reporting and judging a task leaves the tasks of a run where they are. -/
theorem conclude_keeps (run : Run κ W) (task : Task κ) :
    (run.conclude setting task).pending = run.pending ∧
      (run.conclude setting task).executing = run.executing := by
  unfold conclude
  split
  · exact ⟨rfl, rfl⟩
  · dsimp only
    split <;> exact ⟨rfl, rfl⟩

/-- Reporting and judging a task notes no more than that, and the error if the verdict is to stop. -/
theorem conclude_notes (setting : RunSetting κ W) (run : Run κ W) (task : Task κ) :
    ∃ added, (run.conclude setting task).history = added ++ run.history ∧
      ∀ event ∈ added, event = .reported task.id ∨
        (∃ termination verdict, event = .judged task.id termination verdict) ∨ ∃ error, event = .recorded error := by
  unfold conclude
  split
  · exact ⟨[], rfl, List.forall_mem_nil _⟩
  · dsimp only
    split
    · exact ⟨[_, _, _], rfl, by simp⟩
    · exact ⟨[_, _], rfl, by simp⟩

/-- What is true of every event of a history and of what is noted of a task that is reported stays true when it is. -/
theorem conclude_forall {run : Run κ W} {task : Task κ} {p : RunEvent → Prop} (h : ∀ event ∈ run.history, p event)
    (hreported : p (.reported task.id)) (hjudged : ∀ termination verdict, p (.judged task.id termination verdict))
    (hrecorded : ∀ error, p (.recorded error)) : ∀ event ∈ (run.conclude setting task).history, p event := by
  obtain ⟨added, hadded, hevents⟩ := conclude_notes setting run task
  rw [hadded]
  refine List.forall_mem_append.2 ⟨fun event hevent => ?_, h⟩
  rcases hevents event hevent with rfl | ⟨termination, verdict, rfl⟩ | ⟨error, rfl⟩
  · exact hreported
  · exact hjudged termination verdict
  · exact hrecorded error

@[simp] theorem ids_conclude (run : Run κ W) (task : Task κ) :
    (run.conclude setting task).ids = run.ids := by
  rw [ids, (conclude_keeps run task).2, ids]

/-- A task that is not found does not execute. -/
theorem executing?_eq_none_iff {run : Run κ W} {id : TaskId} :
    run.executing? id = none ↔ id ∉ run.ids := by
  simp only [executing?, ids, List.lookup_eq_none_iff, List.mem_map, not_exists, not_and, bne_iff_ne]
  exact ⟨fun h entry hmem heq => h entry hmem heq.symm, fun h entry hmem heq => h entry hmem heq.symm⟩

theorem mem_ids_of_executing? {run : Run κ W} {id : TaskId} {task : Task κ}
    (h : run.executing? id = some task) : id ∈ run.ids := by
  by_contra hmem
  rw [executing?_eq_none_iff.2 hmem] at h
  cases h

theorem settle_leads {run : Run κ W} {task : Task κ} :
    Leads setting ⟨.leaving task, run⟩ (run.settle setting task)
      fun result last => last = ⟨.after result.1, result.2⟩ ∧ result.2.ids = run.ids := by
  refine .await fun ⟨reaped, between, v⟩ hreap => .await fun ⟨drained, after, w⟩ hclose => ?_
  dsimp only
  split
  · exact ⟨_, .refl, rfl⟩
  · cases reaped with
    | error error => exact .of_move (.lose hreap hclose) (.ok ⟨rfl, rfl⟩)
    | ok termination => exact .of_move (.settle hreap hclose) (.ok ⟨rfl, ids_conclude ..⟩)

/-- Retiring takes a task out, whatever becomes of the calls on it. -/
theorem retire_leads {run : Run κ W} {id : TaskId} (watch : ReadinessSet) (hmem : id ∈ run.ids)
    (hwatch : watch = run.watch ∨ ∃ index, watch = run.watch.markFinished index) :
    Leads setting ⟨.serving, run⟩ ((run.watching watch).retire setting id)
      fun result last => last = ⟨.after result.1, result.2⟩ ∧ result.2.ids = run.ids.filter (· != id) := by
  unfold retire
  split
  · next hnone => exact absurd hmem (executing?_eq_none_iff.1 hnone)
  · next task hsome =>
    exact .of_move (.leave hsome hwatch)
      (settle_leads.imp fun result last ⟨hlast, hids⟩ => ⟨hlast, hids.trans (ids_leave ..)⟩)

/-! ## Reading -/

theorem readNow_leads {run : Run κ W} {id : TaskId} {task : Task κ} (hsome : run.executing? id = some task) :
    Leads setting ⟨.serving, run⟩ (run.readNow setting id task)
      fun result last => last = ⟨.after result.1, result.2⟩ ∧ result.2.ids = run.ids := by
  refine .await fun ⟨ended, after, w⟩ hcall => ?_
  cases ended with
  | error error => exact .of_move (.readFail hsome hcall) (.ok ⟨rfl, ids_update ..⟩)
  | ok ended => exact .of_move (.read hsome hcall) (.ok ⟨rfl, ids_update ..⟩)

theorem listen_leads {run : Run κ W} {event : ReadyEvent} {task : Task κ}
    (hsome : run.executing? event.owner = some task) :
    Leads setting ⟨.serving, run⟩ (run.listen setting event task)
      fun result last => last = ⟨.after result.1, result.2⟩ ∧ result.2.ids = run.ids := by
  unfold listen
  split
  · exact readNow_leads hsome
  · exact .ok ⟨rfl, rfl⟩

theorem service_leads {run : Run κ W} {event : ReadyEvent} :
    Leads setting ⟨.serving, run⟩ (run.service setting event)
      fun result last => last = ⟨.after result.1, result.2⟩ := by
  unfold service
  split
  · next hnone => exact .of_move (.skip hnone) (.ok rfl)
  · next task hsome =>
    refine (listen_leads hsome).bind fun ⟨ended, run'⟩ last ⟨hlast, hids⟩ => ?_
    rw [hlast]
    cases ended with
    | error error => exact .ok rfl
    | ok ended =>
      dsimp only
      split
      · have hmem : event.owner ∈ run'.ids := hids ▸ mem_ids_of_executing? hsome
        exact (retire_leads _ hmem (.inr ⟨_, rfl⟩)).imp fun _ _ h => h.1
      · exact .ok rfl

theorem serviceAll_leads {events : List ReadyEvent} {run : Run κ W} :
    Leads setting ⟨.serving, run⟩ (run.serviceAll setting events)
      fun result last => last = ⟨.after result.1, result.2⟩ := by
  induction events generalizing run with
  | nil => exact .ok rfl
  | cons event events ih =>
    unfold serviceAll
    refine service_leads.bind fun ⟨result, run'⟩ last hlast => ?_
    rw [hlast]
    cases result with
    | error error => exact .ok rfl
    | ok _ => exact ih

/-! ## Rounds -/

/-- A run at the end of its rounds: after a failure, or because there is nothing left to do. -/
def AtRest (run : Run κ W) (last : Moment κ W) : Prop :=
  (last = ⟨.serving, run⟩ ∧ run.held.isSome) ∨
    (last = ⟨.admitting, run⟩ ∧ run.executing = [] ∧ (run.pending = [] ∨ run.held.isSome))

theorem held_record (run : Run κ W) (error : Error) : (run.record error).held.isSome := by
  cases h : run.held <;> simp [record, note, h]

theorem round_leads {run : Run κ W} :
    Leads setting ⟨.admitting, run⟩ (run.round setting) fun result last =>
      (result.1 = true ∧ last = ⟨.serving, result.2⟩ ∧ result.2.held.isSome) ∨
        (result.1 = false ∧ last = ⟨.admitting, result.2⟩) := by
  unfold round
  refine (launchAll_leads (Nat.le_refl _)).bind fun run₁ last ⟨hlast, hfull⟩ => ?_
  rw [hlast]
  split
  · exact .ok (.inr ⟨rfl, rfl⟩)
  · next hsome =>
    refine .of_move (.watch (by simpa using hsome) hfull.symm.symm) ?_
    refine .await fun ⟨result, w⟩ hcall => ?_
    cases result with
    | error cause =>
      exact .of_move (.watchFail hcall) (.of_move .record (.ok (.inl ⟨rfl, rfl, held_record ..⟩)))
    | ok events =>
      refine .of_move (.wake hcall) (serviceAll_leads.bind fun ⟨result, run₂⟩ last hlast => ?_)
      rw [hlast]
      cases result with
      | error error => exact .of_move .record (.ok (.inl ⟨rfl, rfl, held_record ..⟩))
      | ok _ => exact .of_move .compact (.ok (.inr ⟨rfl, rfl⟩))

theorem rounds_leads {fuel : Nat} {run : Run κ W} :
    Leads setting ⟨.admitting, run⟩ (run.rounds setting fuel) AtRest := by
  induction fuel generalizing run with
  | zero => exact ⟨_, .refl, rfl⟩
  | succ fuel ih =>
    unfold rounds
    split
    · refine round_leads.bind fun ⟨failed, run'⟩ last h => ?_
      rcases h with ⟨hfailed, hlast, hheld⟩ | ⟨hfailed, hlast⟩
      · obtain rfl : failed = true := hfailed
        exact .ok (.inl ⟨hlast, hheld⟩)
      · obtain rfl : failed = false := hfailed
        rw [hlast]
        exact ih
    · next hdone =>
      refine .ok (.inr ⟨rfl, ?_⟩)
      simp only [isActive, isStopped, Bool.or_eq_true, Bool.and_eq_true, Bool.not_eq_true',
        List.isEmpty_eq_false_iff, not_or, not_and, ne_eq, not_not, Bool.not_eq_false] at hdone
      refine ⟨hdone.2, ?_⟩
      by_cases hpending : run.pending = []
      · exact .inl hpending
      · exact .inr (hdone.1 hpending)

/-! ## Finishing after a failure -/

theorem readRest_leads {run : Run κ W} {id : TaskId} {task : Task κ} (hsome : run.executing? id = some task) :
    Leads setting ⟨.serving, run⟩ (run.readRest setting id task)
      fun run' last => last = ⟨.serving, run'⟩ ∧ run'.ids = run.ids := by
  refine .await fun ⟨result, between, v⟩ hread => ?_
  cases result with
  | ok _ => exact .of_move (.readRest hsome hread) (.ok ⟨rfl, ids_update ..⟩)
  | error error =>
    refine .await fun ⟨result, after, w⟩ hclose => ?_
    exact .of_move (.abandon hsome hread hclose) (.of_move .record (.ok ⟨rfl, ids_update ..⟩))

theorem finishOff_leads {run : Run κ W} {id : TaskId} :
    Leads setting ⟨.serving, run⟩ (run.finishOff setting id)
      fun run' last => last = ⟨.serving, run'⟩ ∧ run'.ids = run.ids.filter (· != id) := by
  unfold finishOff
  split
  · next hnone =>
    refine .ok ⟨rfl, ?_⟩
    have hmem : id ∉ run.ids := executing?_eq_none_iff.1 hnone
    exact (List.filter_eq_self.2 fun other hother => bne_iff_ne.2 (ne_of_mem_of_not_mem hother hmem)).symm
  · next task hsome =>
    refine (readRest_leads hsome).bind fun run₁ last ⟨hlast, hids₁⟩ => ?_
    rw [hlast]
    have hmem : id ∈ run₁.ids := hids₁ ▸ mem_ids_of_executing? hsome
    refine (retire_leads run₁.watch hmem (.inl rfl)).bind
      fun ⟨result, run₂⟩ last ⟨hlast, hids₂⟩ => ?_
    rw [hlast, ← hids₁, ← hids₂]
    cases result with
    | error error => exact .of_move .record (.ok ⟨rfl, rfl⟩)
    | ok _ => exact .ok ⟨rfl, rfl⟩

theorem finishAll_leads {ids : List TaskId} {run : Run κ W} :
    Leads setting ⟨.serving, run⟩ (run.finishAll setting ids)
      fun run' last => last = ⟨.serving, run'⟩ ∧ run'.ids = run.ids.filter (· ∉ ids) := by
  induction ids generalizing run with
  | nil => exact .ok ⟨rfl, by simp⟩
  | cons id ids ih =>
    unfold finishAll
    refine finishOff_leads.bind fun run₁ last ⟨hlast, hids⟩ => ?_
    rw [hlast]
    refine ih.imp fun run' last ⟨hlast, hids'⟩ => ⟨hlast, ?_⟩
    rw [hids', hids, List.filter_filter]
    refine List.filter_congr fun other _ => ?_
    by_cases hid : other = id
    · simp [hid]
    · simp [hid, bne_iff_ne.2 hid]

/-- After an abort no task executes. -/
theorem abort_leads {run : Run κ W} :
    Leads setting ⟨.serving, run⟩ (run.abort setting)
      fun run' last => last = ⟨.serving, run'⟩ ∧ run'.executing = [] := by
  refine .of_move .clear (finishAll_leads.imp fun run' last ⟨hlast, hids⟩ => ⟨hlast, ?_⟩)
  have hnil : run'.ids = [] := by
    rw [hids, List.filter_eq_nil_iff]
    intro id hmem
    have hvisited := (setting.host.shuffle run.world run.ids).property.mem_iff.2 hmem
    simpa using hvisited
  exact List.map_eq_nil_iff.1 hnil

/-! ## Whole runs -/

/-- A run that has ended: no task executes, and none is queued unless an error is held. -/
structure Ended (run : Run κ W) : Prop where
  executing : run.executing = []
  pending : run.pending = [] ∨ run.held.isSome

theorem held_conclude (run : Run κ W) {task : Task κ} (h : run.held.isSome) :
    (run.conclude setting task).held.isSome := by
  unfold conclude
  split
  · exact h
  · dsimp only
    split
    · exact held_record ..
    · exact h

theorem Move.held_isSome {first last : Moment κ W} (h : Move setting first last)
    (hheld : first.run.held.isSome) : last.run.held.isSome := by
  cases h with
  | refuse => exact held_record ..
  | record => exact held_record ..
  | @settle run _ termination _ _ _ after w =>
    exact held_conclude ((run.inWorld w).note (.reaped after.id termination)) hheld
  | _ => exact hheld

/-- An error that is held stays held. -/
theorem Moves.held_isSome {first last : Moment κ W} (h : Moves setting first last)
    (hheld : first.run.held.isSome) : last.run.held.isSome := by
  induction h with
  | refl => exact hheld
  | tail _ hmove ih => exact hmove.held_isSome ih

theorem complete_leads {fuel : Nat} {run : Run κ W} :
    Leads setting ⟨.admitting, run⟩ (run.complete setting fuel) fun run' last =>
      (last = ⟨.serving, run'⟩ ∨ last = ⟨.admitting, run'⟩) ∧ Ended run' := by
  unfold complete
  refine rounds_leads.bind fun run₁ last hrest => ?_
  rcases hrest with ⟨hlast, hheld⟩ | ⟨hlast, hnone, hpending⟩
  · rw [hlast]
    split
    · next hnone => exact .ok ⟨.inl rfl, List.isEmpty_iff.1 hnone, .inr hheld⟩
    · refine abort_leads.with_moves.imp fun run' last ⟨hmoves, hlast, hnone⟩ => ?_
      have hheld' : last.run.held.isSome := Moves.held_isSome hmoves hheld
      rw [hlast] at hheld'
      exact ⟨.inl hlast, hnone, .inr hheld'⟩
  · rw [hlast, hnone]
    exact .ok ⟨.inr rfl, hnone, hpending⟩

end Run

namespace Queue

variable {κ W : Type}

/-- A run of a queue is a sequence of moves from its start, whether it ends or is interrupted. -/
theorem runLocally_leads (queue : Queue κ) (host : Host W) (hooks : Hooks κ W) (fuel : Nat) (w : W) :
    Run.Leads ⟨host, hooks, queue.options, queue.source, fuel⟩ ⟨.admitting, .start queue.pending w⟩
      (queue.runLocally host hooks fuel w) fun run last =>
        (last = ⟨.serving, run⟩ ∨ last = ⟨.admitting, run⟩) ∧ run.Ended :=
  Run.complete_leads

end Queue

end BatchRunner
