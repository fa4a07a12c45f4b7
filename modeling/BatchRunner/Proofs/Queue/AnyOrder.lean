import BatchRunner.Proofs.Host.Prompt
import BatchRunner.Proofs.Queue.Following
import BatchRunner.Proofs.Queue.Sight
import BatchRunner.Proofs.Queue.Unbroken
import BatchRunner.Proofs.Task.RunningOut
import Mathlib.Data.List.Perm.Basic

/-!
# Aborting in any order

After a failure the tasks that still execute are let run to their ends in whatever order the host gives. Nothing that a
caller is told depends on that order (`Queue.abort_in_any_order`), if what becomes of each process does not depend on
what is done about the others (`Run.FixedResults`): the error was held before, each task adds to the counts and to the
reports what its own end adds, and counting is commutative.
-/

namespace BatchRunner

namespace Run

variable {κ W : Type}

/-- Lets the tasks that still execute run to their ends, in the order given. -/
def abortIn (setting : RunSetting κ W) (order : List TaskId) (run : Run κ W) : Except (Interrupted κ W) (Run κ W) :=
  (run.watching .empty).finishAll setting order

/-- The order of an abort is the one that the host gives. -/
theorem abort_eq_abortIn (setting : RunSetting κ W) (run : Run κ W) :
    run.abort setting = run.abortIn setting (setting.host.shuffle run.world run.ids).val := rfl

/-- What becomes of each executing process is fixed: the calls on it give the same answers in worlds that are the same
to it, and neither the calls on the others nor the hooks change what a world is to it. -/
structure FixedResults (setting : RunSetting κ W) (run : Run κ W) (same : TaskId → W → W → Prop) : Prop where
  refl : ∀ id w, same id w w
  trans : ∀ id {w w' w''}, same id w w' → same id w' w'' → same id w w''
  repeats : ∀ {id task child}, run.executing? id = some task → task.process = some child →
    setting.host.Repeats (same id) child.descriptors child.pid
  spares : ∀ {id other task child}, other ≠ id → run.executing? other = some task → task.process = some child →
    setting.host.Spares (same id) child.descriptors child.pid
  hooks : ∀ id policy task w, same id w (setting.hooks.terminated policy task w).2

/-- Where no answer depends on the world, all worlds are the same. -/
theorem FixedResults.of_constant {setting : RunSetting κ W} {run : Run κ W}
    (hread : ∀ fd w v, (setting.host.read fd Capture.chunkSize w).1 = (setting.host.read fd Capture.chunkSize v).1)
    (hblocking : ∀ fd w v, (setting.host.setBlocking fd w).1 = (setting.host.setBlocking fd v).1)
    (hwait : ∀ pid w v, (setting.host.wait pid w).1 = (setting.host.wait pid v).1) :
    run.FixedResults setting fun _ _ _ => True where
  refl := fun _ _ => trivial
  trans := fun _ {_ _ _} _ _ => trivial
  repeats := fun _ _ => {
    read := fun fd _ {w v} _ => ⟨hread fd w v, trivial⟩
    setBlocking := fun fd _ {w v} _ => ⟨hblocking fd w v, trivial⟩
    close := fun _ _ {_ _} _ => trivial
    wait := fun {w v} _ => ⟨hwait _ w v, trivial⟩ }
  spares := fun _ _ _ => {
    refl := fun _ => trivial
    trans := fun {_ _ _} _ _ => trivial
    read := fun _ _ _ => trivial
    setBlocking := fun _ _ _ => trivial
    close := fun _ _ _ => trivial
    wait := fun _ => trivial }
  hooks := fun _ _ _ _ => trivial

/-! ## One task -/

/-- Counts the end of a task that was reported. -/
def countReport (stats : BatchStats) (report : EndReport) : BatchStats := countEnd stats report.termination

/-- What there is to report of a task that was let run to its end. -/
def reportOf (step : Task.Step κ W Termination) : Option EndReport :=
  match step.1 with
  | .ok _ => step.2.1.report?
  | .error _ => none

/-- The world after the caller was told what there is to report. -/
def worldAfter (setting : RunSetting κ W) (step : Task.Step κ W Termination) : W :=
  match step.1 with
  | .ok _ => (setting.hooks.terminated setting.options.policy step.2.1 step.2.2).2
  | .error _ => step.2.2

/-- A run that went on with the same error held and the same tasks queued, to what is stated of the rest. -/
structure GoesTo (run run' : Run κ W) (executing : List (TaskId × Task κ)) (stats : BatchStats) (w : W) : Prop where
  held : run'.held = run.held
  pending : run'.pending = run.pending
  executing : run'.executing = executing
  stats : run'.stats = stats
  world : run'.world = w

variable {setting : RunSetting κ W} {run run' : Run κ W} {id : TaskId} {task : Task κ}

theorem record_held_of_isSome (hheld : run.held.isSome) (error : Error) : (run.record error).held = run.held := by
  obtain ⟨first, hfirst⟩ := Option.isSome_iff_exists.1 hheld
  simp [record, note, hfirst]

theorem executing?_update (hsome : run.executing? id = some task) (after : Task κ) :
    (run.update id after).executing? id = some after := by
  have hmem : id ∈ (run.update id after).ids := by
    rw [ids_update]
    exact mem_ids_of_executing? hsome
  cases hfound : (run.update id after).executing? id with
  | none => exact absurd hmem (executing?_eq_none_iff.1 hfound)
  | some found => rw [eq_of_executing?_update hfound]

theorem update_filter (after : Task κ) :
    (run.update id after).executing.filter (·.1 != id) = run.executing.filter (·.1 != id) := by
  simp only [update]
  induction run.executing with
  | nil => rfl
  | cons entry entries ih =>
    by_cases hid : entry.1 = id
    · simpa [hid] using ih
    · simpa [hid] using ih

theorem readRest_of_readOut (setting : RunSetting κ W) (id : TaskId) (task : Task κ) (hheld : run.held.isSome) :
    match task.readOut setting.host setting.patience run.world with
    | .ok (_, after, w) => ∃ run', run.readRest setting id task = .ok run' ∧
        run.GoesTo run' (run.update id after).executing run.stats w
    | .error _ => ∃ interrupted, run.readRest setting id task = .error interrupted := by
  unfold Task.readOut readRest
  cases task.readToClose setting.host setting.patience run.world with
  | error halt => exact ⟨_, rfl⟩
  | ok read =>
    obtain ⟨result, between, v⟩ := read
    cases result with
    | ok _ => exact ⟨_, rfl, rfl, rfl, rfl, rfl, rfl⟩
    | error error =>
      dsimp only [bind, Except.bind, await]
      cases between.finishExecution setting.host setting.patience v with
      | error halt => exact ⟨_, rfl⟩
      | ok finished =>
        have hkept : (run.held <|> some error) = run.held := record_held_of_isSome hheld error
        exact ⟨_, rfl, hkept, rfl, rfl, rfl, rfl⟩

/-- Concluding a task counts and tells what there is to report of it. -/
theorem conclude_goesTo (setting : RunSetting κ W) (run : Run κ W) (task : Task κ) (hheld : run.held.isSome) :
    run.GoesTo (run.conclude setting task) run.executing (task.report?.toList.foldl countReport run.stats)
      (setting.hooks.terminated setting.options.policy task run.world).2 := by
  cases htermination : task.termination with
  | none =>
    have hworld : setting.hooks.terminated setting.options.policy task run.world = (.proceed, run.world) := by
      simp [Hooks.terminated, Hooks.tellReported, Hooks.judge, htermination]
    rw [conclude, Task.report?, htermination, hworld]
    exact ⟨rfl, rfl, rfl, rfl, rfl⟩
  | some termination =>
    cases hverdict : setting.hooks.terminated setting.options.policy task run.world with
    | mk verdict w =>
      have hkept : (run.held <|> some (stopError task termination)) = run.held := record_held_of_isSome hheld _
      rw [conclude_eq htermination hverdict, Task.report?, htermination]
      split
      · exact ⟨hkept, rfl, rfl, rfl, rfl⟩
      · exact ⟨rfl, rfl, rfl, rfl, rfl⟩

theorem settle_of_reapOut (setting : RunSetting κ W) (run : Run κ W) (task : Task κ) (hheld : run.held.isSome) :
    match task.reapOut setting.host setting.patience run.world with
    | .ok step => ∃ result run', run.settle setting task = .ok (result, run') ∧
        run.GoesTo run' run.executing ((reportOf step).toList.foldl countReport run.stats) (worldAfter setting step)
    | .error _ => ∃ interrupted, run.settle setting task = .error interrupted := by
  unfold Task.reapOut settle
  cases task.reap setting.host setting.patience run.world with
  | error halt => exact ⟨_, rfl⟩
  | ok reaping =>
    obtain ⟨reaped, between, v⟩ := reaping
    dsimp only [bind, Except.bind, await]
    cases between.finishIfRunning setting.host setting.patience v with
    | error halt => exact ⟨_, rfl⟩
    | ok finishing =>
      obtain ⟨drained, after, w⟩ := finishing
      dsimp only
      by_cases hopen : after.hasOpenPipes = true
      · rw [if_pos hopen, if_pos hopen]
        exact ⟨_, rfl⟩
      · rw [if_neg hopen, if_neg hopen]
        cases reaped with
        | error error => exact ⟨_, _, rfl, rfl, rfl, rfl, rfl, rfl⟩
        | ok termination =>
          have hconclude := conclude_goesTo setting ((run.inWorld w).note (.reaped after.id termination)) after hheld
          exact ⟨_, _, rfl, hconclude.held, hconclude.pending, hconclude.executing, hconclude.stats, hconclude.world⟩

/-- Finishing off a task does what letting it run to its end does, and counts and tells what there is to report. -/
theorem finishOff_of_runOut (setting : RunSetting κ W) (hheld : run.held.isSome)
    (hsome : run.executing? id = some task) :
    match task.runOut setting.host setting.patience run.world with
    | .ok step => ∃ run', run.finishOff setting id = .ok run' ∧ run.GoesTo run'
        (run.executing.filter (·.1 != id)) ((reportOf step).toList.foldl countReport run.stats)
        (worldAfter setting step)
    | .error _ => ∃ interrupted, run.finishOff setting id = .error interrupted := by
  have hread := readRest_of_readOut setting id task hheld
  unfold finishOff Task.runOut
  simp only [hsome]
  cases hout : task.readOut setting.host setting.patience run.world with
  | error halt =>
    rw [hout] at hread
    obtain ⟨interrupted, hread⟩ := hread
    exact ⟨interrupted, by rw [hread]; rfl⟩
  | ok read =>
    obtain ⟨result, after, w⟩ := read
    rw [hout] at hread
    obtain ⟨run₁, hread, hgoes⟩ := hread
    rw [hread]
    have hafter : run₁.executing? id = some after := by
      rw [executing?, hgoes.executing]
      exact executing?_update hsome after
    have hsettle := settle_of_reapOut setting (run₁.leave id after) after (hgoes.held ▸ hheld)
    have hworld : (run₁.leave id after).world = w := hgoes.world
    rw [hworld] at hsettle
    dsimp only [bind, Except.bind]
    simp only [retire, hafter]
    cases hreap : after.reapOut setting.host setting.patience w with
    | error halt =>
      rw [hreap] at hsettle
      obtain ⟨interrupted, hsettle⟩ := hsettle
      exact ⟨interrupted, by rw [hsettle]⟩
    | ok step =>
      rw [hreap] at hsettle
      obtain ⟨settled, run₂, hsettle, hleft⟩ := hsettle
      have hexecuting : run₂.executing = run.executing.filter (·.1 != id) := by
        rw [hleft.executing, ← update_filter after, ← hgoes.executing]
        rfl
      have hstats : run₂.stats = (reportOf step).toList.foldl countReport run.stats := by
        rw [hleft.stats, ← hgoes.stats]
        rfl
      have hheld₂ : run₂.held = run.held := hleft.held.trans hgoes.held
      have hpending₂ : run₂.pending = run.pending := hleft.pending.trans hgoes.pending
      rw [hsettle]
      cases settled with
      | ok _ => exact ⟨run₂, rfl, hheld₂, hpending₂, hexecuting, hstats, hleft.world⟩
      | error error =>
        have hkept : (run₂.record error).held = run₂.held := record_held_of_isSome (hheld₂ ▸ hheld) error
        exact ⟨run₂.record error, rfl, hkept.trans hheld₂, hpending₂, hexecuting, hstats, hleft.world⟩

/-! ## One task among others -/

/-- What becomes of the executing task under an identifier if it is let run to its end, if anything does. -/
def outcome? (setting : RunSetting κ W) (run : Run κ W) (id : TaskId) : Option (Task.Step κ W Termination) :=
  (run.executing? id).bind fun task => (task.runOut setting.host setting.patience run.world).toOption

/-- What is then reported of it. -/
def report? (setting : RunSetting κ W) (run : Run κ W) (id : TaskId) : Option EndReport :=
  (run.outcome? setting id).bind reportOf

/-- A caller keeps the reports in the world, one after the other, and nothing else changes them there. -/
structure Tells (setting : RunSetting κ W) (told : W → List EndReport) : Prop where
  host : ∀ fds pid, setting.host.Spares (fun w w' => told w' = told w) fds pid
  hooks : ∀ policy task w, told (setting.hooks.terminated policy task w).2 = told w ++ task.report?.toList

variable {first : Run κ W} {same : TaskId → W → W → Prop} {told : W → List EndReport} {other : TaskId} {w : W}
  {step : Task.Step κ W Termination}

theorem reportOf_eq_of_told {alike : W → W → Prop} {a b : Task.Step κ W Termination} (h : Task.Told alike a b) :
    reportOf a = reportOf b := by
  obtain ⟨reaped, task, w⟩ := a
  obtain ⟨reaped', task', v⟩ := b
  obtain ⟨hreaped, htask, -⟩ := h
  obtain rfl : reaped = reaped' := hreaped
  obtain ⟨time, rfl⟩ := Task.eq_of_untimed_eq htask
  rfl

/-- What becomes of a task is the same wherever the world is the same to its process. -/
theorem FixedResults.runOut_told (h : first.FixedResults setting same) (hsome : first.executing? id = some task)
    (hsame : same id first.world w) : Echoes (Task.Told (same id))
      (task.runOut setting.host setting.patience first.world) (task.runOut setting.host setting.patience w) := by
  cases hprocess : task.process with
  | none =>
    obtain ⟨halt, herror⟩ := Task.runOut_of_process_eq_none setting.host setting.patience hprocess
    rw [herror, herror]
    exact .error halt
  | some child =>
    exact Task.runOut_told (h.repeats hsome hprocess) (Task.within_of_process hprocess) rfl hsame

/-- What is done about one task leaves the world the same to the process of another. -/
theorem FixedResults.same_worldAfter (h : first.FixedResults setting same) (hne : other ≠ id)
    (hsome : first.executing? other = some task)
    (hcall : task.runOut setting.host setting.patience w = .ok step) : same id w (worldAfter setting step) := by
  obtain ⟨reaped, after, v⟩ := step
  have hcalls : same id w v := Task.runOut_spares (fun child hprocess => h.spares hne hsome hprocess) hcall
  cases reaped with
  | error error => exact hcalls
  | ok termination => exact h.trans id hcalls (h.hooks id setting.options.policy after v)

/-- What is done about a task adds to the reports what there is to report of it. -/
theorem Tells.told_worldAfter (h : Tells setting told)
    (hcall : task.runOut setting.host setting.patience w = .ok step) :
    told (worldAfter setting step) = told w ++ (reportOf step).toList := by
  obtain ⟨reaped, after, v⟩ := step
  have hcalls : told v = told w :=
    Task.runOut_spares (R := fun w w' => told w' = told w) (fun child _ => h.host child.descriptors child.pid) hcall
  cases reaped with
  | error error => exact hcalls.trans (List.append_nil _).symm
  | ok termination =>
    have htold := h.hooks setting.options.policy after v
    rw [hcalls] at htold
    exact htold

theorem executing?_of_filter {run' : Run κ W} (hexecuting : run'.executing = run.executing.filter (·.1 != id))
    (hne : other ≠ id) : run'.executing? other = run.executing? other := by
  rw [executing?, executing?, hexecuting]
  induction run.executing with
  | nil => rfl
  | cons entry entries ih =>
    by_cases hid : entry.1 = id
    · have hother : (other == entry.1) = false := by simpa [hid] using hne
      rw [List.filter_cons_of_neg (by simp [hid]), ih, List.lookup_cons, hother]
    · rw [List.filter_cons_of_pos (by simp [hid]), List.lookup_cons, List.lookup_cons, ih]

/-! ## All of them -/

/-- A run on the way of an abort: an error is held, and to the processes of the tasks that are left the world is what
it was at first. -/
structure Aborting (first : Run κ W) (same : TaskId → W → W → Prop) (ids : List TaskId) (run : Run κ W) : Prop where
  held : run.held.isSome
  executing : ∀ id ∈ ids, run.executing? id = first.executing? id ∧ (first.executing? id).isSome
  same : ∀ id ∈ ids, same id first.world run.world

theorem Aborting.tail {ids : List TaskId} {run' : Run κ W} {stats : BatchStats}
    (h : Aborting first same (id :: ids) run) (hids : (id :: ids).Nodup) (hfixed : first.FixedResults setting same)
    (hsome : first.executing? id = some task) (hcall : task.runOut setting.host setting.patience run.world = .ok step)
    (hgoes : run.GoesTo run' (run.executing.filter (·.1 != id)) stats (worldAfter setting step)) :
    Aborting first same ids run' := by
  have hne : ∀ other ∈ ids, other ≠ id := fun other hmem heq => (List.nodup_cons.1 hids).1 (heq ▸ hmem)
  refine ⟨hgoes.held ▸ h.held, fun other hmem => ?_, fun other hmem => ?_⟩
  · rw [executing?_of_filter hgoes.executing (hne other hmem)]
    exact h.executing other (List.mem_cons_of_mem _ hmem)
  · rw [hgoes.world]
    exact hfixed.trans other (h.same other (List.mem_cons_of_mem _ hmem))
      (hfixed.same_worldAfter (hne other hmem).symm hsome hcall)

/-- What an abort adds to a run: each task counts and is reported as if it were alone. -/
structure Gathers (setting : RunSetting κ W) (told : W → List EndReport) (first : Run κ W) (ids : List TaskId)
    (run last : Run κ W) : Prop where
  outcomes : ∀ id ∈ ids, (first.outcome? setting id).isSome
  held : last.held = run.held
  pending : last.pending = run.pending
  stats : last.stats = (ids.filterMap (first.report? setting)).foldl countReport run.stats
  told : told last.world = told run.world ++ ids.filterMap (first.report? setting)

/-- Letting tasks run to their ends comes to an end itself exactly if each of them does. -/
theorem finishAll_gathers {ids : List TaskId} (hfixed : first.FixedResults setting same) (htells : Tells setting told)
    (hids : ids.Nodup) (habort : Aborting first same ids run) :
    (∃ last, run.finishAll setting ids = .ok last ∧ Gathers setting told first ids run last) ∨
      (∃ interrupted, run.finishAll setting ids = .error interrupted) ∧
        ∃ id ∈ ids, first.outcome? setting id = none := by
  -- `Aborting` carries that the tasks still to be visited, and the world to their processes, are as they were at first.
  induction ids generalizing run with
  | nil =>
    refine .inl ⟨run, rfl, List.forall_mem_nil _, rfl, rfl, rfl, (List.append_nil _).symm⟩
  | cons id ids ih =>
    obtain ⟨hhere, hsome⟩ := habort.executing id List.mem_cons_self
    obtain ⟨task, hsome⟩ := Option.isSome_iff_exists.1 hsome
    have hechoes := hfixed.runOut_told hsome (habort.same id List.mem_cons_self)
    have hfinish := finishOff_of_runOut setting habort.held (hhere.trans hsome)
    have houtcome : first.outcome? setting id = (task.runOut setting.host setting.patience first.world).toOption := by
      rw [outcome?, hsome]
      rfl
    unfold finishAll
    cases hcall : task.runOut setting.host setting.patience run.world with
    | error halt =>
      rw [hcall] at hechoes hfinish
      obtain ⟨interrupted, hfinish⟩ := hfinish
      generalize task.runOut setting.host setting.patience first.world = alone at hechoes houtcome
      cases hechoes
      exact .inr ⟨⟨interrupted, by rw [hfinish]; rfl⟩, id, List.mem_cons_self, houtcome⟩
    | ok step =>
      rw [hcall] at hechoes hfinish
      obtain ⟨run', hfinish, hgoes⟩ := hfinish
      generalize task.runOut setting.host setting.patience first.world = alone at hechoes houtcome
      cases hechoes with
      | @ok step' _ htold =>
        have hreport : first.report? setting id = reportOf step := by
          rw [report?, houtcome, ← reportOf_eq_of_told htold]
          rfl
        have htold' : told run'.world = told run.world ++ (reportOf step).toList := by
          rw [hgoes.world]
          exact htells.told_worldAfter hcall
        rw [hfinish]
        rcases ih (List.nodup_cons.1 hids).2 (habort.tail hids hfixed hsome hcall hgoes) with
          ⟨last, hlast, hgathers⟩ | ⟨hinterrupted, lost, hmem, hnone⟩
        · have hsome' : (first.outcome? setting id).isSome := by
            rw [houtcome]
            rfl
          have hreports : (id :: ids).filterMap (first.report? setting) =
              (reportOf step).toList ++ ids.filterMap (first.report? setting) := by
            rw [List.filterMap_cons, hreport]
            cases reportOf step <;> rfl
          refine .inl ⟨last, hlast, List.forall_mem_cons.2 ⟨hsome', hgathers.outcomes⟩, hgathers.held.trans hgoes.held,
            hgathers.pending.trans hgoes.pending, ?_, ?_⟩
          · rw [hgathers.stats, hgoes.stats, hreports, List.foldl_append]
          · rw [hgathers.told, htold', hreports, List.append_assoc]
        · exact .inr ⟨hinterrupted, lost, List.mem_cons_of_mem _ hmem, hnone⟩

theorem countReport_comm (stats : BatchStats) (a b : EndReport) :
    countReport (countReport stats a) b = countReport (countReport stats b) a := by
  unfold countReport
  cases a.termination <;> cases b.termination <;> rfl

/-! ## Reports -/

end Run

/-- The same hooks, with a list kept of the reports that are made to them, or that would be made to them. -/
def Hooks.reporting {κ W : Type} (hooks : Hooks κ W) : Hooks κ (W × List EndReport) where
  began := hooks.began.map fun hook task v => (hook task v.1, v.2)
  finished := hooks.finished.map fun hook task code v => ((hook task code v.1).1, (hook task code v.1).2, v.2)
  signalled := hooks.signalled.map fun hook task signal v =>
    ((hook task signal v.1).1, (hook task signal v.1).2, v.2)
  reported := some fun task v => (hooks.tellReported task v.1, v.2 ++ task.report?.toList)

namespace Hooks

variable {κ W : Type} (hooks : Hooks κ W) (policy : Policy) (task : Task κ) (v : W × List EndReport)

theorem reporting_tellReported :
    hooks.reporting.tellReported task v = (hooks.tellReported task v.1, v.2 ++ task.report?.toList) := by
  cases htermination : task.termination with
  | none => simp [tellReported, Task.report?, htermination]
  | some termination => simp [tellReported, reporting, htermination]

/-- Keeping a list of the reports does not disturb hooks. -/
theorem reporting_terminated : hooks.reporting.terminated policy task v =
    ((hooks.terminated policy task v.1).1, (hooks.terminated policy task v.1).2, v.2 ++ task.report?.toList) := by
  unfold terminated
  rw [reporting_tellReported]
  unfold judge reporting
  cases task.termination with
  | none => rfl
  | some termination =>
    cases termination with
    | exited code => cases hooks.finished <;> rfl
    | signalled signal => cases hooks.signalled <;> rfl

theorem reporting_over : hooks.reporting.Over Part.beside hooks where
  tellBegan := fun task v => by
    unfold tellBegan reporting
    cases hooks.began <;> rfl
  terminated := fun policy task v => by
    rw [reporting_terminated]
    rfl

end Hooks

namespace Run

variable {κ W : Type}

/-- The same setting, with a list of the reports beside the world. -/
def reporting (setting : RunSetting κ W) : RunSetting κ (W × List EndReport) :=
  setting.within Part.beside setting.hooks.reporting

/-- A run with no report made so far. -/
def unreported (run : Run κ W) : Run κ (W × List EndReport) := { run with world := (run.world, []) }

/-- The reports that are made when the tasks that still execute are let run to their ends in an order. -/
def reportsIn (setting : RunSetting κ W) (order : List TaskId) (run : Run κ W) : List EndReport :=
  match run.unreported.abortIn (reporting setting) order with
  | .ok last => last.world.2
  | .error interrupted => interrupted.run.world.2

variable {setting : RunSetting κ W} {run : Run κ W} {same : TaskId → W → W → Prop}

theorem tells_reporting : Tells (reporting setting) Prod.snd where
  host := fun _ _ => {
    refl := fun _ => rfl
    trans := fun h h' => h'.trans h
    read := fun _ _ _ => rfl
    setBlocking := fun _ _ _ => rfl
    close := fun _ _ _ => rfl
    wait := fun _ => rfl }
  hooks := fun policy task v => congrArg (·.2.2) (setting.hooks.reporting_terminated policy task v)

/-- Results that are fixed are so beside a list of reports. -/
theorem FixedResults.reporting (h : run.FixedResults setting same) :
    (run.unreported.watching .empty).FixedResults (Run.reporting setting) fun id v v' => same id v.1 v'.1 where
  refl := fun id v => h.refl id v.1
  trans := fun id _ _ _ hfirst hsecond => h.trans id hfirst hsecond
  repeats := fun hsome hprocess => by
    have hrepeats := h.repeats hsome hprocess
    exact {
      read := fun fd hfd _ _ hworlds => hrepeats.read fd hfd hworlds
      setBlocking := fun fd hfd _ _ hworlds => hrepeats.setBlocking fd hfd hworlds
      close := fun fd hfd _ _ hworlds => hrepeats.close fd hfd hworlds
      wait := fun hworlds => hrepeats.wait hworlds }
  spares := fun hne hsome hprocess => by
    have hspares := h.spares hne hsome hprocess
    exact {
      refl := fun v => h.refl _ v.1
      trans := fun hfirst hsecond => h.trans _ hfirst hsecond
      read := fun fd hfd v => hspares.read fd hfd v.1
      setBlocking := fun fd hfd v => hspares.setBlocking fd hfd v.1
      close := fun fd hfd v => hspares.close fd hfd v.1
      wait := fun v => hspares.wait v.1 }
  hooks := fun id policy task v => by
    have hworld := congrArg (·.2.1) (setting.hooks.reporting_terminated policy task v)
    exact hworld ▸ h.hooks id policy task v.1

/-! ## Where an abort begins -/

/-- Each identifier stands for one executing task. -/
theorem Move.ids_nodup {first last : Moment κ W} (hmove : Move setting first last) (h : first.run.ids.Nodup) :
    last.run.ids.Nodup := by
  cases hmove with
  | @accept run task rest after w =>
    have hids : (((run.pop rest w).tell setting after).enter after).ids =
        run.ids.filter (· != after.id) ++ [after.id] := by
      simp [ids, enter, tell, pop, note, List.filter_map, Function.comp_def]
    rw [hids]
    exact (h.filter _).append (List.nodup_singleton _) (by simp)
  | leave => exact ids_leave .. ▸ h.filter _
  | read | readFail | readRest | abandon => exact (congrArg List.Nodup (ids_update ..)).mpr h
  | settle => exact (congrArg List.Nodup (ids_conclude ..)).mpr h
  | _ => exact h

theorem Moves.ids_nodup {first last : Moment κ W} (hmoves : Moves setting first last) (h : first.run.ids.Nodup) :
    last.run.ids.Nodup := by
  induction hmoves with
  | refl => exact h
  | tail _ hmove ih => exact hmove.ids_nodup ih

/-- Tasks are let run to their ends only after a failure was recorded. -/
theorem Step.held_of_failed {first : Point κ W} (hstep : Step setting first ⟨.failed, run⟩) : run.held.isSome := by
  cases hstep <;> exact held_record ..

/-! ## In two orders -/

theorem exists_executing? {id : TaskId} (hmem : id ∈ run.ids) : ∃ task, run.executing? id = some task :=
  Option.ne_none_iff_exists'.1 fun hnone => executing?_eq_none_iff.1 hnone hmem

/-- Something becomes of a task beside a list of reports if something becomes of it without. -/
theorem isSome_outcome?_unreported (setting : RunSetting κ W) {id : TaskId} {task : Task κ}
    (hsome : run.executing? id = some task) :
    (run.unreported.outcome? (reporting setting) id).isSome =
      (task.runOut setting.host setting.patience run.world).isOk := by
  have hfound : run.unreported.executing? id = some task := hsome
  have hsame : task.runOut (setting.host.within Part.beside) setting.patience (run.world, ([] : List EndReport)) = _ :=
    Task.runOut_within Part.beside_lawful setting.host task setting.patience run.world (run.world, [])
  rw [outcome?, hfound, Option.bind_some]
  show (task.runOut (setting.host.within Part.beside) setting.patience (run.world, [])).toOption.isSome = _
  rw [hsame]
  cases task.runOut setting.host setting.patience run.world <;> rfl

/-- What an abort leaves and tells, in whatever order the tasks are visited: it comes to an end exactly if each of them
does. -/
theorem abortIn_gathers {order : List TaskId} (hheld : run.held.isSome) (hids : run.ids.Nodup)
    (hfixed : run.FixedResults setting same) (horder : order.Perm run.ids) :
    (∃ last, run.abortIn setting order = .ok last ∧ last.executing = [] ∧ last.held = run.held ∧
        last.pending = run.pending ∧
        last.stats = (order.filterMap (run.unreported.report? (reporting setting))).foldl countReport run.stats ∧
        run.reportsIn setting order = order.filterMap (run.unreported.report? (reporting setting)) ∧
        ∀ id ∈ order, (run.unreported.outcome? (reporting setting) id).isSome) ∨
      (∃ interrupted, run.abortIn setting order = .error interrupted) ∧
        ∃ id ∈ order, run.unreported.outcome? (reporting setting) id = none := by
  have habort : Aborting (run.unreported.watching .empty) (fun id v v' => same id v.1 v'.1) order
      (run.unreported.watching .empty) := by
    refine ⟨hheld, fun id hmem => ⟨rfl, ?_⟩, fun id _ => hfixed.refl id run.world⟩
    obtain ⟨task, hsome⟩ := exists_executing? (horder.mem_iff.1 hmem)
    exact congrArg Option.isSome hsome
  -- The order is followed with the reports beside the world; without them the run does the same.
  have hagree : Agree Part.beside (SameRun Part.beside) (run.unreported.abortIn (reporting setting) order)
      (run.abortIn setting order) :=
    finishAll_within Part.beside_lawful setting.hooks.reporting_over order (run.unreported.watching .empty)
  rcases finishAll_gathers hfixed.reporting tells_reporting (horder.nodup_iff.2 hids) habort with
    ⟨last, hlast, hgathers⟩ | ⟨⟨interrupted, hinterrupted⟩, hlost⟩
  · have houter : run.unreported.abortIn (reporting setting) order = .ok last := hlast
    cases hinner : run.abortIn setting order with
    | error interrupted =>
      rw [houter, hinner] at hagree
      exact hagree.elim
    | ok inner =>
      rw [houter, hinner] at hagree
      obtain rfl : last.view Part.beside = inner := hagree
      obtain ⟨_, -, -, hleft⟩ := finishAll_leads.of_ok hinner
      have hnone : (last.view Part.beside).ids = [] := by
        rw [hleft, List.filter_eq_nil_iff]
        intro id hmem
        simpa using horder.mem_iff.2 hmem
      have hreports : run.reportsIn setting order = last.world.2 := by rw [reportsIn, houter]
      exact .inl ⟨_, rfl, List.map_eq_nil_iff.1 hnone, hgathers.held, hgathers.pending, hgathers.stats,
        hreports.trans hgathers.told, hgathers.outcomes⟩
  · have houter : run.unreported.abortIn (reporting setting) order = .error interrupted := hinterrupted
    cases hinner : run.abortIn setting order with
    | error inner => exact .inr ⟨⟨inner, rfl⟩, hlost⟩
    | ok inner =>
      rw [houter, hinner] at hagree
      exact hagree.elim

/-- If something becomes of each task, an abort in any order comes to an end. -/
theorem abortIn_ends {order : List TaskId} (hheld : run.held.isSome) (hids : run.ids.Nodup)
    (hfixed : run.FixedResults setting same) (horder : order.Perm run.ids)
    (hends : ∀ id task, run.executing? id = some task →
      ∃ step, task.runOut setting.host setting.patience run.world = .ok step) :
    ∃ last, run.abortIn setting order = .ok last ∧ last.executing = [] ∧ last.held = run.held ∧
      last.pending = run.pending ∧
      last.stats = (order.filterMap (run.unreported.report? (reporting setting))).foldl countReport run.stats ∧
      run.reportsIn setting order = order.filterMap (run.unreported.report? (reporting setting)) := by
  rcases abortIn_gathers hheld hids hfixed horder with
    ⟨last, hlast, hnone, hkept, hpending, hstats, hreports, -⟩ | ⟨-, id, hmem, hlost⟩
  · exact ⟨last, hlast, hnone, hkept, hpending, hstats, hreports⟩
  · obtain ⟨task, hsome⟩ := exists_executing? (horder.mem_iff.1 hmem)
    obtain ⟨step, hstep⟩ := hends id task hsome
    have hisSome := isSome_outcome?_unreported setting hsome
    rw [hlost, hstep] at hisSome
    cases hisSome

/-- If nothing becomes of one of the tasks, an abort in any order is interrupted. -/
theorem abortIn_interrupted {order : List TaskId} {id : TaskId} {task : Task κ} {halt : Halt}
    (hheld : run.held.isSome) (hids : run.ids.Nodup) (hfixed : run.FixedResults setting same)
    (horder : order.Perm run.ids) (hsome : run.executing? id = some task)
    (hhalt : task.runOut setting.host setting.patience run.world = .error halt) :
    ∃ interrupted, run.abortIn setting order = .error interrupted := by
  rcases abortIn_gathers hheld hids hfixed horder with ⟨-, -, -, -, -, -, -, houtcomes⟩ | ⟨hinterrupted, -⟩
  · have hisSome := houtcomes id (horder.mem_iff.2 (mem_ids_of_executing? hsome))
    rw [isSome_outcome?_unreported setting hsome, hhalt] at hisSome
    cases hisSome
  · exact hinterrupted

/-- An abort of a run in order breaks no rule, in any order of its tasks. -/
theorem Orderly.abortIn_safely (h : run.Orderly) (setting : RunSetting κ W) (order : List TaskId) :
    Safely (run.abortIn setting order) Orderly :=
  finishAll_safely order ⟨h.pending, h.executing⟩

end Run

namespace Queue

open Run

variable {κ W : Type} {queue : Queue κ} {host : Host W} {hooks : Hooks κ W} {fuel : Nat} {w : W} {run : Run κ W}

/-- Wherever a run comes to an abort, an error is held, and it is the error that the run ends with. If something becomes
of each task that still executes when it is let run to its end, the abort comes to an end in whatever order these tasks
are visited, and whatever the hooks judge, the counts, the tasks that are left and the reports that are made do not
depend on the order, and no task executes at the end. If a call on one of them does not come back, the abort does not
either, in whatever order; it is never a rule that is broken. -/
theorem abort_in_any_order {same : TaskId → W → W → Prop} {first second : List TaskId}
    (hcourse : queue.OnCourse host hooks fuel w ⟨.failed, run⟩)
    (hfixed : run.FixedResults (queue.setting host hooks fuel) same) (hfirst : first.Perm run.ids)
    (hsecond : second.Perm run.ids) :
    ∃ error, run.held = some error ∧
      ((∀ id task, run.executing? id = some task → ∃ step, task.runOut host fuel run.world = .ok step) →
        ∃ last last', run.abortIn (queue.setting host hooks fuel) first = .ok last ∧
          run.abortIn (queue.setting host hooks fuel) second = .ok last' ∧
          (queue.outcome last).result = .error error ∧ (queue.outcome last').result = .error error ∧
          (queue.outcome last).queue = (queue.outcome last').queue ∧ last.executing = [] ∧ last'.executing = [] ∧
          (run.reportsIn (queue.setting host hooks fuel) first).Perm
            (run.reportsIn (queue.setting host hooks fuel) second)) ∧
      ∀ id task halt, run.executing? id = some task → task.runOut host fuel run.world = .error halt →
        ∃ interrupted interrupted', run.abortIn (queue.setting host hooks fuel) first = .error interrupted ∧
          run.abortIn (queue.setting host hooks fuel) second = .error interrupted' ∧
          ((∀ task ∈ queue.pending, task.Fresh) → ∀ violation,
            interrupted.halt ≠ .violation violation ∧ interrupted'.halt ≠ .violation violation) := by
  have hheld : run.held.isSome := by
    rcases Relation.ReflTransGen.cases_tail hcourse with hstart | ⟨before, -, hstep⟩
    · cases hstart
    · exact hstep.held_of_failed
  have hids : run.ids.Nodup := hcourse.moves.ids_nodup List.nodup_nil
  obtain ⟨error, herror⟩ := Option.isSome_iff_exists.1 hheld
  have horders : first.Perm second := hfirst.trans hsecond.symm
  refine ⟨error, herror, fun hends => ?_, fun id task halt hsome hhalt => ?_⟩
  · obtain ⟨last, hlast, hnone, hkept, hpending, hstats, hreports⟩ := abortIn_ends hheld hids hfixed hfirst hends
    obtain ⟨last', hlast', hnone', hkept', hpending', hstats', hreports'⟩ :=
      abortIn_ends hheld hids hfixed hsecond hends
    refine ⟨last, last', hlast, hlast', ?_, ?_, ?_, hnone, hnone', ?_⟩
    · rw [outcome, hkept, herror, resultOf]
    · rw [outcome, hkept', herror, resultOf]
    · have hcounts : last.stats = last'.stats := by
        rw [hstats, hstats']
        exact (horders.filterMap _).foldl_eq' (fun a _ b _ stats => countReport_comm stats a b) run.stats
      simp only [outcome, hcounts, hpending, hpending']
    · rw [hreports, hreports']
      exact horders.filterMap _
  · obtain ⟨interrupted, hinterrupted⟩ := abortIn_interrupted hheld hids hfixed hfirst hsome hhalt
    obtain ⟨interrupted', hinterrupted'⟩ := abortIn_interrupted hheld hids hfixed hsecond hsome hhalt
    refine ⟨interrupted, interrupted', hinterrupted, hinterrupted', fun hfresh violation => ?_⟩
    have horderly : run.Orderly := hcourse.orderly hfresh
    have hsafe := horderly.abortIn_safely (queue.setting host hooks fuel) first
    have hsafe' := horderly.abortIn_safely (queue.setting host hooks fuel) second
    rw [hinterrupted] at hsafe
    rw [hinterrupted'] at hsafe'
    exact ⟨hsafe violation, hsafe' violation⟩

/-- A host on which four processes fail in different ways: it cannot be learnt how the first and the fourth end, and
the output of the second cannot be read. -/
def unevenHost : Host Nat :=
  let fault : Os.Fault := .kind .other
  { Host.prompt fun pid => if pid = 2 then .ok 0 else if pid = 3 then .ok 7 else .error fault with
    read := fun fd _ count => if fd = 2 then (.fault fault, count) else (.answer .empty, count) }

/-- When the first of four tasks is lost, the others are let run to their ends. Two of them are reported, in one order
or the other. -/
theorem abort_in_any_order_of_four :
    let queue := Queue.plain 4 ["a", "b", "c", "d"]
    let setting := queue.setting unevenHost (.plain : Hooks Unit Nat) 9
    let first := [TaskId.ofNat 1, .ofNat 2, .ofNat 3]
    let second := [TaskId.ofNat 3, .ofNat 2, .ofNat 1]
    ∃ run, queue.OnCourse unevenHost .plain 9 0 ⟨.failed, run⟩ ∧ run.FixedResults setting (fun _ _ _ => True) ∧
      first.Perm run.ids ∧ second.Perm run.ids ∧
      (∀ id task, run.executing? id = some task → ∃ step, task.runOut unevenHost 9 run.world = .ok step) ∧
      ∃ error last last', run.abortIn setting first = .ok last ∧ run.abortIn setting second = .ok last' ∧
        (queue.outcome last).result = .error error ∧ (queue.outcome last').result = .error error ∧
        (queue.outcome last).queue = (queue.outcome last').queue ∧
        (run.reportsIn setting first).Perm (run.reportsIn setting second) ∧
        last.stats = ⟨4, 2, 0, 0, 4⟩ ∧
        (run.reportsIn setting first).map (fun report => (report.task, report.termination)) =
          [(.ofNat 1, .exited 0), (.ofNat 2, .exited 7)] := by
  intro queue setting first second
  have hpoint : ((queue.pointAfter unevenHost .plain 9 0 8).bind fun point =>
      match point with
      | ⟨.failed, run⟩ => some (run.executing.map fun entry => (entry.1, (entry.2.runOut unevenHost 9 run.world).isOk),
          (run.abortIn setting first).toOption.map (·.stats),
          (run.reportsIn setting first).map fun report => (report.task, report.termination))
      | _ => none) = some ([(.ofNat 1, true), (.ofNat 2, true), (.ofNat 3, true)], some ⟨4, 2, 0, 0, 4⟩,
        [(.ofNat 1, .exited 0), (.ofNat 2, .exited 7)]) := by
    decide +kernel
  obtain ⟨point, hpoint, hends⟩ := Option.bind_eq_some_iff.1 hpoint
  split at hends
  · next run =>
    simp only [Option.some.injEq, Prod.mk.injEq] at hends
    obtain ⟨hrun, hstats, hreports⟩ := hends
    have hcourse : queue.OnCourse unevenHost .plain 9 0 ⟨.failed, run⟩ := onCourse_iff.2 ⟨8, hpoint⟩
    have hfixed : run.FixedResults setting fun _ _ _ => True := by
      refine .of_constant (fun fd w v => ?_) (fun _ _ _ => rfl) fun pid w v => ?_
      · show (unevenHost.read fd Capture.chunkSize w).1 = (unevenHost.read fd Capture.chunkSize v).1
        unfold unevenHost
        dsimp only
        split <;> rfl
      · show (unevenHost.wait pid w).1 = (unevenHost.wait pid v).1
        simp only [unevenHost, Host.prompt]
        split <;> rfl
    have hids : run.ids = first := by
      have hfirsts := congrArg (List.map Prod.fst) hrun
      rwa [List.map_map] at hfirsts
    have hfirst : first.Perm run.ids := by rw [hids]
    have hsecond : second.Perm run.ids := by
      rw [hids]
      decide
    have hresults : ∀ id task, run.executing? id = some task →
        ∃ step, task.runOut unevenHost 9 run.world = .ok step := by
      intro id task hsome
      have hmem := List.mem_map_of_mem (f := fun entry => (entry.1, (entry.2.runOut unevenHost 9 run.world).isOk))
        (mem_executing_of_executing? hsome)
      rw [hrun] at hmem
      have hok : (task.runOut unevenHost 9 run.world).isOk = true := by
        simp only [List.mem_cons, Prod.mk.injEq, List.not_mem_nil, or_false] at hmem
        rcases hmem with ⟨-, hok⟩ | ⟨-, hok⟩ | ⟨-, hok⟩ <;> exact hok
      cases hstep : task.runOut unevenHost 9 run.world with
      | ok step => exact ⟨step, rfl⟩
      | error halt =>
        rw [hstep] at hok
        cases hok
    obtain ⟨error, -, hends, -⟩ := abort_in_any_order hcourse hfixed hfirst hsecond
    obtain ⟨last, last', hlast, hlast', hresult, hresult', hsame, -, -, hperm⟩ := hends hresults
    rw [hlast] at hstats
    exact ⟨run, hcourse, hfixed, hfirst, hsecond, hresults, error, last, last', hlast, hlast', hresult, hresult', hsame,
      hperm, Option.some.inj hstats, hreports⟩
  · cases hends

end Queue

end BatchRunner
