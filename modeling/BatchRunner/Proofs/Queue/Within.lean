import BatchRunner.Proofs.Host.Within
import BatchRunner.Proofs.Queue.Reached

/-!
# A run in a part of a world

If the host of a run serves for a part of a larger world, and its hooks do to that part what other hooks do
to it alone, then the run is the run of that host and those hooks on the part (`Run.complete_within`): the
same answers, the same history, and a world of which the part is the same. What else the hooks do to the
larger world makes no difference, so hooks can be watched without disturbing the run.
-/

namespace BatchRunner

variable {V W κ : Type} {part : Part V W}

/-- Hooks on a larger world do to a part of it what other hooks do to it alone. -/
structure Hooks.Over (part : Part V W) (outer : Hooks κ V) (inner : Hooks κ W) : Prop where
  tellBegan : ∀ task v, part.get (outer.tellBegan task v) = inner.tellBegan task (part.get v)
  terminated : ∀ policy task v, inner.terminated policy task (part.get v) =
    ((outer.terminated policy task v).1, part.get (outer.terminated policy task v).2)

/-- A setting for a part serves for the whole, with hooks on the whole. -/
def RunSetting.within (setting : RunSetting κ W) (part : Part V W) (outer : Hooks κ V) : RunSetting κ V where
  host := setting.host.within part
  hooks := outer
  options := setting.options
  source := setting.source
  patience := setting.patience

namespace Run

/-- A run with a part of its world. -/
def view (part : Part V W) (run : Run κ V) : Run κ W := { run with world := part.get run.world }

/-- Two results that differ in the rest of the world only: both are answers, which are as they should be, or
both runs were interrupted for the same reason. -/
def Agree (part : Part V W) {α β : Type} (same : α → β → Prop) :
    Except (Interrupted κ V) α → Except (Interrupted κ W) β → Prop
  | .ok a, .ok b => same a b
  | .error outer, .error inner => outer.halt = inner.halt ∧ outer.run.view part = inner.run
  | _, _ => False

/-- Runs that agree on a part. -/
def SameRun (part : Part V W) (outer : Run κ V) (inner : Run κ W) : Prop := outer.view part = inner

/-- The same answers with runs that agree on a part. -/
def SamePair (part : Part V W) {α : Type} (outer : α × Run κ V) (inner : α × Run κ W) : Prop :=
  outer.1 = inner.1 ∧ outer.2.view part = inner.2

section Agree

variable {α β α' β' : Type} {same : α → β → Prop} {same' : α' → β' → Prop}
  {x : Except (Interrupted κ V) α} {y : Except (Interrupted κ W) β}
  {f : α → Except (Interrupted κ V) α'} {g : β → Except (Interrupted κ W) β'}

/-- Runs that agree on a part, and go on so that they agree, agree in the end. -/
theorem Agree.bind (h : Agree part same x y) (hf : ∀ a b, same a b → Agree part same' (f a) (g b)) :
    Agree part same' (x >>= f) (y >>= g) := by
  cases x with
  | ok a =>
    cases y with
    | ok b => exact hf a b h
    | error inner => exact h.elim
  | error outer =>
    cases y with
    | ok b => exact h.elim
    | error inner => exact h

/-- After runs that agree on a part, it is enough to go on from any run and its part. -/
theorem Agree.bindRun {x : Except (Interrupted κ V) (Run κ V)} {y : Except (Interrupted κ W) (Run κ W)}
    {f : Run κ V → Except (Interrupted κ V) α'} {g : Run κ W → Except (Interrupted κ W) β'}
    (h : Agree part (SameRun part) x y) (hf : ∀ run, Agree part same' (f run) (g (run.view part))) :
    Agree part same' (x >>= f) (y >>= g) := by
  refine h.bind fun run inner hsame => ?_
  subst hsame
  exact hf run

/-- After the same answers, it is enough to go on from any answer, with a run and its part. -/
theorem Agree.bindPair {x : Except (Interrupted κ V) (α × Run κ V)}
    {y : Except (Interrupted κ W) (α × Run κ W)} {f : α × Run κ V → Except (Interrupted κ V) α'}
    {g : α × Run κ W → Except (Interrupted κ W) β'} (h : Agree part (SamePair part) x y)
    (hf : ∀ a run, Agree part same' (f (a, run)) (g (a, run.view part))) :
    Agree part same' (x >>= f) (y >>= g) := by
  refine h.bind fun outer inner hsame => ?_
  obtain ⟨a, run⟩ := outer
  obtain ⟨b, inner⟩ := inner
  obtain ⟨rfl, rfl⟩ : a = b ∧ run.view part = inner := hsame
  exact hf a run

/-- A call that gives the same answer on the part does not set runs apart. -/
theorem Agree.await {run : Run κ V} {outer : Except Halt α} {inner : Except Halt β} {place : β → α}
    (hcall : outer = inner.map place) (h : ∀ b, Agree part same' (f (place b)) (g b)) :
    Agree part same' (run.await outer >>= f) ((run.view part).await inner >>= g) := by
  subst hcall
  cases inner with
  | ok b => exact h b
  | error halt => exact ⟨rfl, rfl⟩

end Agree

/-! ## What changes only the run -/

@[simp] theorem view_executing? (run : Run κ V) (id : TaskId) :
    (run.view part).executing? id = run.executing? id := rfl

@[simp] theorem view_hasRoom (setting : RunSetting κ W) (outer : Hooks κ V) (run : Run κ V) :
    (run.view part).hasRoom setting = run.hasRoom (setting.within part outer) := rfl

variable (hpart : part.Lawful) {setting : RunSetting κ W} {outer : Hooks κ V}
  (hover : outer.Over part setting.hooks)

include hover in
theorem view_conclude (run : Run κ V) (task : Task κ) :
    (run.conclude (setting.within part outer) task).view part = (run.view part).conclude setting task := by
  have hjudged := hover.terminated setting.options.policy task run.world
  unfold conclude
  cases htermination : task.termination with
  | none => rfl
  | some termination =>
    dsimp only [view, RunSetting.within] at hjudged ⊢
    rw [hjudged]
    dsimp only
    split <;> rfl

/-! ## Reading -/

section Reading

include hpart

theorem readNow_within (id : TaskId) (task : Task κ) (run : Run κ V) :
    Agree part (SamePair part) (run.readNow (setting.within part outer) id task)
      ((run.view part).readNow setting id task) := by
  have hread := Host.readAvailable_within hpart setting.host (part.get run.world) run.world task
    setting.patience
  rw [hpart.set_get] at hread
  refine .await hread fun ⟨ended, after, w⟩ => ?_
  cases ended with
  | error error =>
    simp [Agree, SamePair, view, pure, Except.pure, Part.put, inWorld, update, note, hpart.get_set]
  | ok ended => simp [Agree, SamePair, view, pure, Except.pure, Part.put, inWorld, update, hpart.get_set]

theorem listen_within (event : ReadyEvent) (task : Task κ) (run : Run κ V) :
    Agree part (SamePair part) (run.listen (setting.within part outer) event task)
      ((run.view part).listen setting event task) := by
  unfold listen
  split
  · exact readNow_within hpart event.owner task run
  · exact ⟨rfl, rfl⟩

theorem readRest_within (id : TaskId) (task : Task κ) (run : Run κ V) :
    Agree part (SameRun part) (run.readRest (setting.within part outer) id task)
      ((run.view part).readRest setting id task) := by
  have hread := Host.readToClose_within hpart setting.host (part.get run.world) run.world task
    setting.patience
  rw [hpart.set_get] at hread
  refine .await hread fun ⟨result, between, w⟩ => ?_
  cases result with
  | ok _ => simp [Agree, SameRun, view, pure, Except.pure, Part.put, inWorld, update, hpart.get_set]
  | error error =>
    refine .await (Host.finishExecution_within hpart setting.host w run.world between setting.patience)
      fun ⟨result, after, w'⟩ => ?_
    simp [Agree, SameRun, view, pure, Except.pure, Part.put, inWorld, update, note, record, hpart.get_set]

end Reading

/-! ## The control loop -/

include hpart hover

theorem launch_within (run : Run κ V) (task : Task κ) (rest : List (Task κ)) :
    Agree part (SameRun part) (run.launch (setting.within part outer) task rest)
      ((run.view part).launch setting task rest) := by
  have hcall := Host.execute_within hpart setting.host (part.get run.world) run.world task setting.source
  rw [hpart.set_get] at hcall
  refine .await hcall fun ⟨result, after, w⟩ => ?_
  cases result with
  | error error => simp [Agree, SameRun, view, pure, Except.pure, Part.put, pop, note, record, hpart.get_set]
  | ok _ =>
    have htold := hover.tellBegan after (part.set w run.world)
    rw [hpart.get_set] at htold
    simp [Agree, SameRun, view, pure, Except.pure, Part.put, pop, tell, enter, note, RunSetting.within, htold]

theorem launchAll_within (fuel : Nat) (run : Run κ V) :
    Agree part (SameRun part) (run.launchAll (setting.within part outer) fuel)
      ((run.view part).launchAll setting fuel) := by
  induction fuel generalizing run with
  | zero => rfl
  | succ fuel ih =>
    unfold launchAll
    rw [view_hasRoom setting outer]
    split
    · have hpending : (run.view part).pending = run.pending := rfl
      rw [hpending]
      cases run.pending with
      | nil => rfl
      | cons task rest =>
        exact (launch_within hpart hover run task rest).bindRun ih
    · rfl

/-- Settling a task tells the hooks of it, which agree on the part as well. -/
theorem settle_within (task : Task κ) (run : Run κ V) :
    Agree part (SamePair part) (run.settle (setting.within part outer) task)
      ((run.view part).settle setting task) := by
  have hreap := Host.reap_within hpart setting.host (part.get run.world) run.world task setting.patience
  rw [hpart.set_get] at hreap
  refine .await hreap fun ⟨reaped, between, w⟩ => ?_
  refine .await (Host.finishIfRunning_within hpart setting.host w run.world between setting.patience)
    fun ⟨drained, after, w'⟩ => ?_
  have hworld : (run.inWorld (part.set w' run.world)).view part = (run.view part).inWorld w' := by
    simp [view, inWorld, hpart.get_set]
  dsimp only [Part.put]
  by_cases hopen : after.hasOpenPipes = true
  · rw [if_pos hopen, if_pos hopen]
    exact ⟨rfl, rfl⟩
  · rw [if_neg hopen, if_neg hopen, ← hworld]
    cases reaped with
    | error error => exact ⟨rfl, rfl⟩
    | ok termination =>
      refine ⟨rfl, ?_⟩
      have hjudged := view_conclude hover
        ((run.inWorld (part.set w' run.world)).note (.reaped after.id termination)) after
      exact congrArg (note · (.settled after.id (failureOf drained))) hjudged

theorem retire_within (id : TaskId) (run : Run κ V) :
    Agree part (SamePair part) (run.retire (setting.within part outer) id)
      ((run.view part).retire setting id) := by
  unfold retire
  rw [view_executing?]
  cases run.executing? id with
  | none => exact ⟨rfl, rfl⟩
  | some task => exact settle_within hpart hover task (run.leave id task)

theorem service_within (event : ReadyEvent) (run : Run κ V) :
    Agree part (SamePair part) (run.service (setting.within part outer) event)
      ((run.view part).service setting event) := by
  unfold service
  rw [view_executing?]
  cases run.executing? event.owner with
  | none => exact ⟨rfl, rfl⟩
  | some task =>
    refine (listen_within hpart event task run).bindPair fun ended run' => ?_
    cases ended with
    | error error => exact ⟨rfl, rfl⟩
    | ok ended =>
      dsimp only
      split
      · exact retire_within hpart hover event.owner (run'.watching (run'.watch.markFinished event.index))
      · exact ⟨rfl, rfl⟩

theorem serviceAll_within (events : List ReadyEvent) (run : Run κ V) :
    Agree part (SamePair part) (run.serviceAll (setting.within part outer) events)
      ((run.view part).serviceAll setting events) := by
  induction events generalizing run with
  | nil => exact ⟨rfl, rfl⟩
  | cons event events ih =>
    unfold serviceAll
    refine (service_within hpart hover event run).bindPair fun result run' => ?_
    cases result with
    | error error => exact ⟨rfl, rfl⟩
    | ok _ => exact ih run'

theorem round_within (run : Run κ V) :
    Agree part (SamePair part) (run.round (setting.within part outer)) ((run.view part).round setting) := by
  unfold round
  refine (launchAll_within hpart hover _ run).bindRun fun run' => ?_
  have hexecuting : (run'.view part).executing = run'.executing := rfl
  rw [hexecuting]
  split
  · exact ⟨rfl, rfl⟩
  · have hwait := Host.watch_within hpart setting.host (part.get run'.world) run'.world run'.watch
      setting.patience
    rw [hpart.set_get] at hwait
    refine .await hwait fun ⟨result, w⟩ => ?_
    have hworld : ((run'.note run'.waitingEvent).inWorld (part.set w run'.world)).view part =
        ((run'.view part).note (run'.view part).waitingEvent).inWorld w := by
      simp [view, inWorld, note, hpart.get_set, waitingEvent, ids, isStopped]
    cases result with
    | error cause =>
      refine ⟨rfl, ?_⟩
      exact congrArg (fun inner => (inner.note (.watchFailed cause)).record (.readiness cause)) hworld
    | ok events =>
      dsimp only [Part.put]
      rw [← hworld]
      refine (serviceAll_within hpart hover events _).bindPair fun result run₂ => ?_
      cases result with
      | error error => exact ⟨rfl, rfl⟩
      | ok _ => exact ⟨rfl, rfl⟩

/-- The rounds come to an end in a larger world where they do on the part. -/
theorem rounds_within (fuel : Nat) (run : Run κ V) :
    Agree part (SameRun part) (run.rounds (setting.within part outer) fuel)
      ((run.view part).rounds setting fuel) := by
  induction fuel generalizing run with
  | zero => exact ⟨rfl, rfl⟩
  | succ fuel ih =>
    unfold rounds
    have hactive : (run.view part).isActive = run.isActive := rfl
    rw [hactive]
    split
    · refine (round_within hpart hover run).bindPair fun failed run' => ?_
      dsimp only
      split
      · rfl
      · exact ih run'
    · rfl

theorem finishOff_within (id : TaskId) (run : Run κ V) :
    Agree part (SameRun part) (run.finishOff (setting.within part outer) id)
      ((run.view part).finishOff setting id) := by
  unfold finishOff
  rw [view_executing?]
  cases run.executing? id with
  | none => rfl
  | some task =>
    refine (readRest_within hpart id task run).bindRun fun run' => ?_
    refine (retire_within hpart hover id run').bindPair fun result run₂ => ?_
    cases result with
    | error error => rfl
    | ok _ => rfl

theorem finishAll_within (ids : List TaskId) (run : Run κ V) :
    Agree part (SameRun part) (run.finishAll (setting.within part outer) ids)
      ((run.view part).finishAll setting ids) := by
  induction ids generalizing run with
  | nil => rfl
  | cons id ids ih =>
    unfold finishAll
    exact (finishOff_within hpart hover id run).bindRun ih

/-- A whole run in a larger world is, on the part, the run there. -/
theorem complete_within (fuel : Nat) (run : Run κ V) :
    Agree part (SameRun part) (run.complete (setting.within part outer) fuel)
      ((run.view part).complete setting fuel) := by
  unfold complete
  refine (rounds_within hpart hover fuel run).bindRun fun run' => ?_
  have hexecuting : (run'.view part).executing = run'.executing := rfl
  rw [hexecuting]
  split
  · rfl
  · exact finishAll_within hpart hover _ (run'.watching .empty)

end Run

/-- An outcome with a part of its world. -/
def BatchOutcome.view (part : Part V W) (outcome : BatchOutcome κ V) : BatchOutcome κ W :=
  { outcome with world := part.get outcome.world }

namespace Queue

theorem runLocally_within (hpart : part.Lawful) {outer : Hooks κ V} {hooks : Hooks κ W}
    (hover : outer.Over part hooks) (queue : Queue κ) (host : Host W) (fuel : Nat) (v : V) :
    Run.Agree part (Run.SameRun part) (queue.runLocally (host.within part) outer fuel v)
      (queue.runLocally host hooks fuel (part.get v)) := by
  have hover' : outer.Over part (queue.setting host hooks fuel).hooks := hover
  exact Run.complete_within hpart hover' fuel (.start queue.pending v)

/-- How far the run of a queue comes in a larger world is, on the part, how far it comes there. -/
theorem reached_within (hpart : part.Lawful) {outer : Hooks κ V} {hooks : Hooks κ W}
    (hover : outer.Over part hooks) (queue : Queue κ) (host : Host W) (fuel : Nat) (v : V) :
    (queue.reached (host.within part) outer fuel v).view part =
      queue.reached host hooks fuel (part.get v) := by
  have hagree := queue.runLocally_within hpart hover host fuel v
  unfold reached
  cases houter : queue.runLocally (host.within part) outer fuel v with
  | ok run =>
    cases hinner : queue.runLocally host hooks fuel (part.get v) with
    | ok run' => rw [houter, hinner] at hagree; exact hagree
    | error interrupted => rw [houter, hinner] at hagree; exact hagree.elim
  | error outer =>
    cases hinner : queue.runLocally host hooks fuel (part.get v) with
    | ok run' => rw [houter, hinner] at hagree; exact hagree.elim
    | error inner => rw [houter, hinner] at hagree; exact hagree.2

/-- What comes of a run in a larger world comes, on the part, of the run there. -/
theorem executeLocally_within (hpart : part.Lawful) {outer : Hooks κ V} {hooks : Hooks κ W}
    (hover : outer.Over part hooks) (queue : Queue κ) (host : Host W) (fuel : Nat) (v : V) :
    queue.executeLocally host hooks fuel (part.get v) =
      (queue.executeLocally (host.within part) outer fuel v).map (·.view part) := by
  have hagree := queue.runLocally_within hpart hover host fuel v
  unfold executeLocally
  cases houter : queue.runLocally (host.within part) outer fuel v with
  | ok run =>
    cases hinner : queue.runLocally host hooks fuel (part.get v) with
    | ok run' =>
      rw [houter, hinner] at hagree
      obtain rfl : run.view part = run' := hagree
      rfl
    | error interrupted => rw [houter, hinner] at hagree; exact hagree.elim
  | error outer =>
    cases hinner : queue.runLocally host hooks fuel (part.get v) with
    | ok run' => rw [houter, hinner] at hagree; exact hagree.elim
    | error inner =>
      rw [houter, hinner] at hagree
      exact congrArg Except.error hagree.1.symm

end Queue

end BatchRunner
