import BatchRunner.Proofs.Queue.Sight
import BatchRunner.Proofs.Task.Calls

/-!
# Tasks one by one

A run that handles its tasks one by one tells that the first queued task began, tells that it exited with zero, and
goes on with the next one unless that was judged to stop the batch (`Run.Walk`). A dry run is such a walk, under
numbers that count the tasks (`Queue.listTasks_walk`). Two such walks through queues with the same sights come to the
same end (`Run.Walk.agrees`).
-/

namespace BatchRunner

/-- The sight of a task that was started and wrote nothing. -/
def Sight.executing {κ : Type} (sight : Sight κ) : Sight κ := { sight with state := .executing }

/-- The sight of a task that exited with zero and wrote nothing. -/
def Sight.exitedZero {κ : Type} (sight : Sight κ) : Sight κ :=
  { sight with state := .finished, termination := some (.exited 0) }

namespace Run

variable {κ W V S : Type}

/-- The first queued task of a run was handled: it was told to have begun, and to have exited with zero without
having written anything. A mark tells what is known of the task in its place besides its sight. -/
structure Handled (hooks : Hooks κ S) (policy : Policy) (mark : Task κ → Prop) (task began ended : Task κ)
    (run after : Run κ (W × S)) : Prop where
  pending : run.pending = task :: after.pending
  began_sight : began.sight = task.sight.executing
  began_id : began.id = task.id
  began_mark : mark began
  ended_sight : ended.sight = task.sight.exitedZero
  ended_id : ended.id = task.id
  ended_mark : mark ended
  memory : after.world.2 = (hooks.terminated policy ended (hooks.tellBegan began run.world.2)).2
  stats : after.stats = { run.stats with
    launched := run.stats.launched + 1
    exited := run.stats.exited + 1
    peakExecuting := 1 }
  held : ∃ text, after.held =
    if (hooks.terminated policy ended (hooks.tellBegan began run.world.2)).1.isStop then some (.stopped text) else none

theorem Handled.rest_eq {hooks : Hooks κ S} {policy : Policy} {mark : Task κ → Prop} {task began ended first : Task κ}
    {run after : Run κ (W × S)} {rest : List (Task κ)} (h : Handled hooks policy mark task began ended run after)
    (hpending : run.pending = first :: rest) : after.pending = rest :=
  (List.cons.inj (h.pending.symm.trans hpending)).2

/-- Only a verdict stops a run at a task that was handled. -/
theorem Handled.goes_on_or_stopped {hooks : Hooks κ S} {policy : Policy} {mark : Task κ → Prop}
    {task began ended : Task κ} {run after : Run κ (W × S)} (h : Handled hooks policy mark task began ended run after) :
    after.held = none ∨ ∃ text, after.held = some (.stopped text) := by
  obtain ⟨text, hheld⟩ := h.held
  split at hheld
  · exact .inr ⟨text, hheld⟩
  · exact .inl hheld

/-- A run handles its tasks one by one, the first of which is in a certain place, until there is none left or the
batch was stopped. -/
inductive Walk (hooks : Hooks κ S) (policy : Policy) (mark : Nat → Task κ → Prop) :
    Nat → Run κ (W × S) → Run κ (W × S) → Prop where
  | finished {place : Nat} {run : Run κ (W × S)} (hpending : run.pending = []) (hheld : run.held = none) :
      Walk hooks policy mark place run run
  | stopped {place : Nat} {run : Run κ (W × S)} {text : String} (hheld : run.held = some (.stopped text)) :
      Walk hooks policy mark place run run
  | step {place : Nat} {run next last : Run κ (W × S)} {task began ended : Task κ} (hheld : run.held = none)
      (hhandled : Handled hooks policy (mark place) task began ended run next)
      (hrest : Walk hooks policy mark (place + 1) next last) : Walk hooks policy mark place run last

/-! ## Two walks -/

/-- The tasks in the same place of two queues, as hooks are handed them: they have the same sight, and the process of
the second has the number of its place, counted from one. -/
structure SamePlace (ids ids' : List TaskId) (a b : Task κ) : Prop where
  sight : a.sight = b.sight
  place : ∃ place, ids[place]? = some a.id ∧ ids'[place]? = some b.id ∧ b.pid = some (place + 1)

/-- Two runs stand at the same place: what hooks remember is alike, and what is queued has the same sights. -/
structure Abreast (alike : S → S → Prop) (ids ids' : List TaskId) (place : Nat) (a : Run κ (W × S))
    (b : Run κ (V × S)) : Prop where
  memory : alike a.world.2 b.world.2
  pending : List.Forall₂ (fun x y => x.sight = y.sight) a.pending b.pending
  ids : ids.drop place = a.pending.map (·.id)
  ids' : ids'.drop place = b.pending.map (·.id)
  stats : a.stats = b.stats
  held : a.held = none ∧ b.held = none ∨
    ∃ text text', a.held = some (.stopped text) ∧ b.held = some (.stopped text')

theorem getElem?_of_drop {ids : List TaskId} {place : Nat} {id : TaskId} {rest : List TaskId}
    (h : ids.drop place = id :: rest) : ids[place]? = some id ∧ ids.drop (place + 1) = rest := by
  constructor
  · have hfirst := congrArg (·[0]?) h
    simpa [List.getElem?_drop] using hfirst
  · have hrest := congrArg (List.drop 1) h
    simpa [List.drop_drop] using hrest

variable {hooks : Hooks κ S} {policy : Policy} {alike : S → S → Prop} {ids ids' : List TaskId} {place : Nat}
  {a next last : Run κ (W × S)} {b next' last' : Run κ (V × S)}

/-- Two runs that stand at the same place and each handle a task stand at the same place again. -/
theorem Abreast.step (hfollows : hooks.Follows (SamePlace ids ids') alike) (h : Abreast alike ids ids' place a b)
    {mark : Task κ → Prop} {task began ended task' began' ended' : Task κ}
    (hhandled : Handled hooks policy mark task began ended a next)
    (hhandled' : Handled hooks policy (·.pid = some (place + 1)) task' began' ended' b next') :
    Abreast alike ids ids' (place + 1) next next' := by
  have hpending := h.pending
  have hids := h.ids
  have hids' := h.ids'
  rw [hhandled.pending, List.map_cons] at hids
  rw [hhandled'.pending, List.map_cons] at hids'
  rw [hhandled.pending, hhandled'.pending] at hpending
  obtain ⟨hsight, hrest⟩ := List.forall₂_cons.1 hpending
  obtain ⟨hid, hidsRest⟩ := getElem?_of_drop hids
  obtain ⟨hid', hidsRest'⟩ := getElem?_of_drop hids'
  have hbegan : SamePlace ids ids' began began' :=
    ⟨by rw [hhandled.began_sight, hhandled'.began_sight, hsight],
      place, hhandled.began_id ▸ hid, hhandled'.began_id ▸ hid', hhandled'.began_mark⟩
  have hended : SamePlace ids ids' ended ended' :=
    ⟨by rw [hhandled.ended_sight, hhandled'.ended_sight, hsight],
      place, hhandled.ended_id ▸ hid, hhandled'.ended_id ▸ hid', hhandled'.ended_mark⟩
  have htold := hfollows.tellBegan hbegan h.memory
  obtain ⟨hverdict, hmemory⟩ := hfollows.terminated hended htold policy
  obtain ⟨text, hheld⟩ := hhandled.held
  obtain ⟨text', hheld'⟩ := hhandled'.held
  refine ⟨?_, hrest, hidsRest, hidsRest', ?_, ?_⟩
  · rw [hhandled.memory, hhandled'.memory]
    exact hmemory
  · rw [hhandled.stats, hhandled'.stats, h.stats]
  · -- The verdicts are the same, so both runs are stopped here or neither is.
    rw [hverdict] at hheld
    by_cases hstop : (hooks.terminated policy ended' (hooks.tellBegan began' b.world.2)).1.isStop = true
    · rw [if_pos hstop] at hheld hheld'
      exact .inr ⟨text, text', hheld, hheld'⟩
    · rw [if_neg hstop] at hheld hheld'
      exact .inl ⟨hheld, hheld'⟩

/-- Two walks from the same place come to the same end. -/
theorem Walk.agrees {mark : Nat → Task κ → Prop} (hfollows : hooks.Follows (SamePlace ids ids') alike)
    (hwalk : Walk hooks policy mark place a last) (h : Abreast alike ids ids' place a b)
    (hwalk' : Walk hooks policy (fun place task => task.pid = some (place + 1)) place b last') :
    ∃ place, Abreast alike ids ids' place last last' := by
  -- What is queued and what holds the first run decide its next step, and the second run agrees on both.
  induction hwalk generalizing b with
  | finished hpending hheld =>
    cases hwalk' with
    | finished | stopped => exact ⟨_, h⟩
    | step hheld' hhandled' hrest' =>
      have hsights := h.pending
      rw [hpending, hhandled'.pending] at hsights
      cases hsights
  | stopped hheld =>
    cases hwalk' with
    | finished | stopped => exact ⟨_, h⟩
    | step hheld' hhandled' hrest' =>
      rcases h.held with ⟨hnone, -⟩ | ⟨_, _, -, hsome⟩
      · rw [hheld] at hnone
        cases hnone
      · rw [hheld'] at hsome
        cases hsome
  | step hheld hhandled hrest ih =>
    cases hwalk' with
    | finished hpending' hheld' =>
      have hsights := h.pending
      rw [hhandled.pending, hpending'] at hsights
      cases hsights
    | stopped hheld' =>
      rcases h.held with ⟨-, hnone⟩ | ⟨_, _, hsome, -⟩
      · rw [hheld'] at hnone
        cases hnone
      · rw [hheld] at hsome
        cases hsome
    | step hheld' hhandled' hrest' => exact ih (h.step hfollows hhandled hhandled') hrest'

end Run

/-! ## A dry run -/

namespace Queue

variable {κ V S : Type} {hooks : Hooks κ S} {policy : Policy} {now : V × S → Nat} {next : Pid} {task : Task κ}
  {rest : List (Task κ)} {run : Run κ (V × S)}

/-- A task that was started in a dry run. -/
def listed (task : Task κ) (next : Pid) (now : Nat) : Task κ :=
  { task with pid := some next, state := .executing, startedAt := some now }

/-- A task that was ended in a dry run. -/
def delisted (task : Task κ) (now : Nat) : Task κ :=
  { task with state := .finished, termination := some (.exited 0), usage := some .zero, completedAt := some now }

theorem listTasks_nil {U : Type} {hooks : Hooks κ U} {now : U → Nat} {run : Run κ U} (h : run.pending = []) :
    listTasks policy now hooks next run = .ok run := by
  rw [listTasks]
  split
  · rfl
  · next hpending =>
    rw [h] at hpending
    cases hpending

theorem listTasks_of_cons {U : Type} {hooks : Hooks κ U} {now : U → Nat} {run : Run κ U}
    (h : run.pending = task :: rest) : listTasks policy now hooks next run = (do
      let began ← task.simulateStart next (now run.world)
      let told := hooks.tellBegan began run.world
      let ended ← began.simulateExit (now told)
      let answer := hooks.terminated policy ended told
      let after := { run with
        pending := rest
        world := answer.2
        stats := { run.stats with
          launched := run.stats.launched + 1
          exited := run.stats.exited + 1
          peakExecuting := 1 }
        history := .judged ended.id (.exited 0) answer.1 :: .reported ended.id :: .began ended.id :: run.history }
      if answer.1.isStop then return after.record (dryStopError ended)
      else listTasks policy now hooks (next + 1) after) := by
  rw [listTasks]
  split
  · next hnil =>
    rw [h] at hnil
    cases hnil
  · next first others hcons =>
    obtain ⟨rfl, rfl⟩ := List.cons.inj (h.symm.trans hcons)
    rfl

/-- A dry run handles the first queued task, and goes on unless it was stopped. -/
theorem listTasks_cons (hooks : Hooks κ S) (policy : Policy) (now : V × S → Nat) (next : Pid)
    (hpending : run.pending = task :: rest) (hstate : task.state = .preparing) (hheld : run.held = none) :
    ∃ began ended after, Run.Handled hooks policy (·.pid = some next) task began ended run after ∧
      listTasks policy now hooks.beside next run =
        if after.held.isSome then .ok after else listTasks policy now hooks.beside (next + 1) after := by
  let began := listed task next (now run.world)
  let told := hooks.tellBegan began run.world.2
  let ended := delisted began (now (run.world.1, told))
  let answer := hooks.terminated policy ended told
  let listedRun : Run κ (V × S) := { run with
    pending := rest
    world := (run.world.1, answer.2)
    stats := { run.stats with
      launched := run.stats.launched + 1
      exited := run.stats.exited + 1
      peakExecuting := 1 }
    history := .judged task.id (.exited 0) answer.1 :: .reported task.id :: .began task.id :: run.history }
  have hstart : task.simulateStart next (now run.world) = .ok began := by
    rw [Task.simulateStart, Task.checkMove, hstate]
    rfl
  have hexit : began.simulateExit (now (run.world.1, told)) = .ok ended := rfl
  have htold : hooks.beside.tellBegan began run.world = (run.world.1, told) := Hooks.beside_tellBegan ..
  have hjudged : hooks.beside.terminated policy ended (run.world.1, told) = (answer.1, run.world.1, answer.2) :=
    Hooks.beside_terminated ..
  have hlist : listTasks policy now hooks.beside next run =
      if answer.1.isStop then .ok (listedRun.record (dryStopError ended))
      else listTasks policy now hooks.beside (next + 1) listedRun := by
    rw [listTasks_of_cons hpending]
    simp only [hstart, htold, hexit, hjudged, bind, Except.bind, pure, Except.pure]
    rfl
  have hlistedHeld : listedRun.held = none := hheld
  by_cases hstop : answer.1.isStop = true
  · have hrecorded : (listedRun.record (dryStopError ended)).held = some (dryStopError ended) := by
      show (listedRun.held <|> some (dryStopError ended)) = _
      rw [hlistedHeld]
      rfl
    refine ⟨began, ended, listedRun.record (dryStopError ended), ?_, ?_⟩
    · exact ⟨hpending, rfl, rfl, rfl, rfl, rfl, rfl, rfl, rfl, _, hrecorded.trans (if_pos hstop).symm⟩
    · rw [hlist, if_pos hstop, hrecorded]
      rfl
  · refine ⟨began, ended, listedRun, ?_, ?_⟩
    · exact ⟨hpending, rfl, rfl, rfl, rfl, rfl, rfl, rfl, rfl, "", hlistedHeld.trans (if_neg hstop).symm⟩
    · rw [hlist, if_neg hstop, hlistedHeld]
      rfl

/-- A dry run of fresh tasks is a walk under numbers that count the places, from one. -/
theorem listTasks_walk (place : Nat) (hfresh : ∀ task ∈ run.pending, task.state = .preparing)
    (hheld : run.held = none) : ∃ last, listTasks policy now hooks.beside (place + 1) run = .ok last ∧
      Run.Walk hooks policy (fun place task => task.pid = some (place + 1)) place run last := by
  induction hpending : run.pending generalizing run place with
  | nil => exact ⟨run, listTasks_nil hpending, .finished hpending hheld⟩
  | cons task rest ih =>
    rw [hpending] at hfresh
    obtain ⟨hstate, hrest⟩ := List.forall_mem_cons.1 hfresh
    obtain ⟨began, ended, after, hhandled, hlist⟩ :=
      listTasks_cons hooks policy now (place + 1) hpending hstate hheld
    have hafter : after.pending = rest := hhandled.rest_eq hpending
    rw [hlist]
    rcases hhandled.goes_on_or_stopped with hgoes | ⟨text, hstopped⟩
    · have hnext : ∃ last, listTasks policy now hooks.beside (place + 1 + 1) after = .ok last ∧
          Run.Walk hooks policy (fun place task => task.pid = some (place + 1)) (place + 1) after last :=
        ih (place + 1) (hafter ▸ hrest) hgoes hafter
      obtain ⟨last, hlast, hwalk⟩ := hnext
      rw [hgoes]
      exact ⟨last, hlast, .step hheld hhandled hwalk⟩
    · rw [hstopped]
      exact ⟨after, rfl, .step hheld hhandled (.stopped hstopped)⟩

/-- A dry run in a larger world is, on a part, the dry run there. -/
theorem listTasks_within {U W : Type} {part : Part U W} {outer : Hooks κ U} {inner : Hooks κ W}
    (hover : outer.Over part inner) (policy : Policy) (now : W → Nat) (next : Pid) (run : Run κ U) :
    (listTasks policy (fun v => now (part.get v)) outer next run).map (·.view part) =
      listTasks policy now inner next (run.view part) := by
  induction hpending : run.pending generalizing run next with
  | nil =>
    have hviewed : (run.view part).pending = [] := hpending
    rw [listTasks_nil hpending, listTasks_nil hviewed]
    rfl
  | cons task rest ih =>
    have hviewed : (run.view part).pending = task :: rest := hpending
    have hworld : (run.view part).world = part.get run.world := rfl
    rw [listTasks_of_cons hpending, listTasks_of_cons hviewed, hworld]
    cases task.simulateStart next (now (part.get run.world)) with
    | error halt => rfl
    | ok began =>
      simp only [bind, Except.bind, ← hover.tellBegan]
      cases began.simulateExit (now (part.get (outer.tellBegan began run.world))) with
      | error halt => rfl
      | ok ended =>
        simp only [hover.terminated]
        split
        · rfl
        · exact ih _ _ rfl

theorem executeDry_within {U W : Type} {part : Part U W} {outer : Hooks κ U} {inner : Hooks κ W}
    (hover : outer.Over part inner) (queue : Queue κ) (now : W → Nat) (v : U) :
    queue.executeDry now inner (part.get v) =
      (queue.executeDry (fun v => now (part.get v)) outer v).map (·.view part) := by
  have hlist : (listTasks queue.options.policy (fun v => now (part.get v)) outer 1 (.start queue.pending v)).map
      (·.view part) = listTasks queue.options.policy now inner 1 (.start queue.pending (part.get v)) :=
    listTasks_within hover queue.options.policy now 1 (.start queue.pending v)
  unfold executeDry
  rw [← hlist]
  cases listTasks queue.options.policy (fun v => now (part.get v)) outer 1 (.start queue.pending v) <;> rfl

end Queue

end BatchRunner
