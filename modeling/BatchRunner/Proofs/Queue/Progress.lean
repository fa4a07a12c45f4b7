import BatchRunner.Proofs.Host.Prompt
import BatchRunner.Proofs.Queue.Returning
import BatchRunner.Proofs.Queue.Watching
import BatchRunner.Proofs.Task.Lifetime
import Mathlib.Tactic.IntervalCases

/-!
# The control loop comes to an end

Every round of the control loop retires a task, or consumes an event by which there was something to read but not the
end, or is the last one (`Queue.OnCourse.round_progresses`). Tasks are retired at most once, and each has only so many
such events, so the rounds come to an end; what comes after them does so in any case (`Queue.comes_to_an_end`).
-/

namespace BatchRunner

/-- Whether a task leaves the queue. -/
def RunEvent.isRetiring : RunEvent → Bool
  | retiring _ => true
  | _ => false

theorem RunEvent.isRetiring_eq_false {event : RunEvent} (h : event.announces = false) : event.isRetiring = false := by
  cases event <;> first | rfl | cases h

namespace Run

variable {κ W : Type} {setting : RunSetting κ W}

/-! ## Tasks that leave -/

/-- How many tasks have left. -/
def retirings (run : Run κ W) : Nat := run.history.countP (·.isRetiring)

/-- How many tasks may still leave. -/
def load (run : Run κ W) : Nat := run.pending.length + run.executing.length

/-- From one run to another, tasks may have left, and those that have do not come back. -/
structure Unloads (first last : Run κ W) : Prop where
  left : first.retirings ≤ last.retirings
  kept : last.retirings + last.load ≤ first.retirings + first.load

theorem Unloads.refl (run : Run κ W) : Unloads run run := ⟨Nat.le_refl _, Nat.le_refl _⟩

theorem Unloads.trans {a b c : Run κ W} (h : Unloads a b) (h' : Unloads b c) : Unloads a c :=
  ⟨Nat.le_trans h.left h'.left, Nat.le_trans h'.kept h.kept⟩

theorem retirings_eq_of_history {first last : Run κ W} {added : List RunEvent}
    (hhistory : last.history = added ++ first.history) (hadded : ∀ event ∈ added, event.announces = false) :
    last.retirings = first.retirings := by
  have hnone : added.countP (·.isRetiring) = 0 :=
    List.countP_eq_zero.2 fun event hmem => by simp [RunEvent.isRetiring_eq_false (hadded event hmem)]
  unfold retirings
  rw [hhistory, List.countP_append, hnone, Nat.zero_add]

/-- A change that leaves no more tasks, and notes only what is no retiring. -/
theorem Unloads.of_eq {first last : Run κ W} (hleft : last.retirings = first.retirings)
    (hload : last.load ≤ first.load) : Unloads first last :=
  ⟨Nat.le_of_eq hleft.symm, hleft ▸ Nat.add_le_add_left hload _⟩

/-- Taking out a task that executes makes room. -/
theorem Unloads.leave {run : Run κ W} {id : TaskId} {task : Task κ} (watch : ReadinessSet)
    (hsome : run.executing? id = some task) :
    Unloads run ((run.watching watch).leave id task) ∧
      run.retirings < ((run.watching watch).leave id task).retirings := by
  have hretired : ((run.watching watch).leave id task).retirings = run.retirings + 1 := List.countP_cons_of_pos rfl
  have hfewer : (run.executing.filter (·.1 != id)).length < run.executing.length := by
    refine List.length_filter_lt_length_iff_exists.2 ⟨(id, task), mem_executing_of_executing? hsome, by simp⟩
  have hload : ((run.watching watch).leave id task).load < run.load := Nat.add_lt_add_left hfewer _
  exact ⟨⟨by omega, by omega⟩, by omega⟩

theorem Move.unloads {first last : Moment κ W} (hmove : Move setting first last) : Unloads first.run last.run := by
  cases hmove with
  | @refuse run task rest error after w hroom hpending =>
    refine .of_eq rfl (Nat.add_le_add_right ?_ _)
    show rest.length ≤ run.pending.length
    rw [hpending]
    exact Nat.le_succ _
  | @accept run task rest after w hroom hpending =>
    refine .of_eq rfl ?_
    have hentered : (run.executing.filter (·.1 != after.id) ++ [(after.id, after)]).length ≤
        run.executing.length + 1 := by
      rw [List.length_append]
      exact Nat.add_le_add_right (List.length_filter_le _ _) 1
    have hload : run.load = rest.length + 1 + run.executing.length := by rw [load, hpending, List.length_cons]
    have hload' : (((run.pop rest w).tell setting after).enter after).load =
        rest.length + (run.executing.filter (·.1 != after.id) ++ [(after.id, after)]).length := rfl
    show (((run.pop rest w).tell setting after).enter after).load ≤ run.load
    omega
  | leave hsome => exact (Unloads.leave _ hsome).1
  | read | readFail | readRest | abandon =>
    exact .of_eq rfl (Nat.le_of_eq (by simp [load, update, inWorld, note]))
  | @settle run task termination between v drained after w =>
    let reaped := (run.inWorld w).note (.reaped after.id termination)
    obtain ⟨added, hadded, hevents⟩ := conclude_history setting reaped after
    obtain ⟨hpending, hexecuting⟩ : (reaped.conclude setting after).pending = reaped.pending ∧
        (reaped.conclude setting after).executing = reaped.executing := conclude_keeps reaped after
    have hleft : (reaped.conclude setting after).retirings = reaped.retirings := retirings_eq_of_history hadded hevents
    refine .of_eq (hleft.trans rfl) (Nat.le_of_eq ?_)
    show (reaped.conclude setting after).pending.length + (reaped.conclude setting after).executing.length = _
    rw [hpending, hexecuting]
    rfl
  | _ => exact .of_eq rfl (Nat.le_refl _)

theorem Moves.unloads {first last : Moment κ W} (hmoves : Moves setting first last) : Unloads first.run last.run := by
  induction hmoves with
  | refl => exact .refl _
  | tail _ hmove ih => exact ih.trans hmove.unloads

theorem Steps.unloads {first last : Point κ W} (hsteps : Steps setting first last) : Unloads first.run last.run :=
  Moves.unloads hsteps.moves

/-! ## Events that are consumed -/

/-- The owner of the event that a step consumes: one by which there was something to read of an executing task, but
not the end. -/
def Point.consumed? (first last : Point κ W) : Option TaskId :=
  match first.stage, last.stage with
  | .serving (event :: _), .serving _ =>
    if event.readable && (first.run.executing? event.owner).isSome then some event.owner else none
  | _, _ => none

/-- Some steps, with the owners of the events that they consume. -/
inductive Consumes (setting : RunSetting κ W) (first : Point κ W) : List TaskId → Point κ W → Prop
  | refl : Consumes setting first [] first
  | tail {owners mid last} (h : Consumes setting first owners mid) (hstep : Step setting mid last) :
    Consumes setting first (owners ++ (mid.consumed? last).toList) last

variable {first mid last : Point κ W} {owners owners' : List TaskId}

theorem Consumes.steps (h : Consumes setting first owners last) : Steps setting first last := by
  induction h with
  | refl => exact .refl
  | tail _ hstep ih => exact .tail ih hstep

theorem Steps.consumes (h : Steps setting first last) : ∃ owners, Consumes setting first owners last := by
  induction h with
  | refl => exact ⟨[], .refl⟩
  | tail _ hstep ih =>
    obtain ⟨owners, howners⟩ := ih
    exact ⟨_, howners.tail hstep⟩

theorem Consumes.append (h : Consumes setting first owners mid) (h' : Consumes setting mid owners' last) :
    Consumes setting first (owners ++ owners') last := by
  induction h' with
  | refl => rwa [List.append_nil]
  | tail _ hstep ih =>
    rw [← List.append_assoc]
    exact ih.tail hstep

/-- Only tasks of the queue consume events. -/
theorem Consumes.known {tasks : List (Task κ)} (h : Consumes setting first owners last)
    (hsound : Sound tasks first.moment) : ∀ owner ∈ owners, owner ∈ tasks.map (·.id) := by
  induction h with
  | refl => exact List.forall_mem_nil _
  | @tail owners mid last hbefore hstep ih =>
    refine List.forall_mem_append.2 ⟨ih, fun owner hmem => ?_⟩
    have hconsumed := Option.mem_toList.1 hmem
    unfold Point.consumed? at hconsumed
    split at hconsumed
    · next event events events' hstage _ =>
      split at hconsumed
      · next hhere =>
        obtain rfl := Option.some.inj hconsumed
        obtain ⟨task, hsome⟩ := Option.isSome_iff_exists.1 (Bool.and_eq_true_iff.1 hhere).2
        have hmid : Sound tasks mid.moment := Moves.sound hbefore.steps.moves hsound
        obtain ⟨hid, origin, horigin, hrequest⟩ := hmid.of_executing? hsome
        rw [← hid, Task.id_eq_of_request_eq hrequest]
        exact List.mem_map_of_mem horigin
      · cases hconsumed
    · cases hconsumed

/-! ## Acting on an event -/

/-- Acting on an event retires its owner, or consumes the event. -/
theorem service_progresses {run run' : Run κ W} {event : ReadyEvent} {events : List ReadyEvent}
    (hserving : Serving (event :: events) run.watch run.executing)
    (htells : (event.readable || event.hungUp) = true) (hcall : run.service setting event = .ok (.ok (), run')) :
    run.retirings < run'.retirings ∨
      Consumes setting ⟨.serving (event :: events), run⟩ [event.owner] ⟨.serving events, run'⟩ := by
  have hmem : event.owner ∈ run.ids := hserving.mem_ids List.mem_cons_self
  unfold service at hcall
  cases hsome : run.executing? event.owner with
  | none => exact absurd hmem (executing?_eq_none_iff.1 hsome)
  | some task =>
    rw [hsome] at hcall
    obtain ⟨⟨ended, run₁⟩, hlisten, hcall⟩ := except_bind_ok.1 hcall
    obtain ⟨added, hadded, hevents⟩ := listen_history hlisten
    have hheard : run₁.retirings = run.retirings := retirings_eq_of_history hadded hevents
    cases ended with
    | error error => cases hcall
    | ok ended =>
      dsimp only at hcall
      split at hcall
      · next hend =>
        obtain ⟨_, -, -, hids⟩ := (listen_leads hsome).of_ok hlisten
        unfold retire at hcall
        split at hcall
        · next hnone => exact absurd (hids ▸ hmem) (executing?_eq_none_iff.1 hnone)
        · next after hafter =>
          have hleft := (Unloads.leave (run₁.watch.markFinished event.index) hafter).2
          obtain ⟨added, hadded, hevents⟩ := settle_history hcall
          have hsettled : run'.retirings = _ := retirings_eq_of_history hadded hevents
          exact .inl (by rw [hsettled, ← hheard]; exact hleft)
      · next hmore =>
        cases hcall
        have hnot : (event.hungUp || ended) = false := Bool.eq_false_iff.2 hmore
        have hreadable : event.readable = true := by
          simpa [(Bool.or_eq_false_iff.1 hnot).1] using htells
        have hstep : Step setting ⟨.serving (event :: events), run⟩ ⟨.serving events, run'⟩ := .read hsome hlisten hnot
        have hconsumes := Consumes.refl.tail hstep
        have howner : Point.consumed? (⟨.serving (event :: events), run⟩ : Point κ W) ⟨.serving events, run'⟩ =
            some event.owner := by simp [Point.consumed?, hreadable, hsome]
        rw [howner] at hconsumes
        exact .inr hconsumes

/-! ## What there is to wait for -/

/-- The standard output of every executing task is open. -/
def Hears (run : Run κ W) : Prop := ∀ entry ∈ run.executing, entry.2.stdout?.isSome = true

/-- Until waiting is given up, every executing task is heard. -/
def Point.Hears (point : Point κ W) : Prop :=
  match point.stage with
  | .admitting | .waiting | .serving _ | .retiring .. => point.run.Hears
  | .failed | .finishing _ | .parting .. => True

theorem Hears.listen {run run' : Run κ W} {event : ReadyEvent} {task : Task κ} {result : Except Error Bool}
    (h : run.Hears) (hsome : run.executing? event.owner = some task)
    (hcall : run.listen setting event task = .ok (result, run')) : run'.Hears := by
  rcases listen_ok hcall with ⟨-, rfl⟩ | ⟨after, w, failed, hread, rfl⟩
  · exact h
  · have hout : after.stdout? = task.stdout? := by
      rw [Task.readAvailable_eq hread]
      rfl
    intro entry hmem
    rcases mem_update hmem with rfl | ⟨hold, -⟩
    · rw [hout]
      exact h _ (mem_executing_of_executing? hsome)
    · exact h entry hold

theorem Step.hears (hpipes : setting.host.GivesPipes) (hstep : Step setting first last) (h : first.Hears) :
    last.Hears := by
  cases hstep with
  | launch hroom hpending hcall =>
    rcases launch_ok hcall with ⟨error, after, w, -, rfl⟩ | ⟨after, w, hexecute, rfl⟩
    · exact h
    · obtain ⟨vars, child, hspawn, hafter⟩ := Task.execute_ok hexecute
      have hout : after.stdout? = child.stdout := by
        rw [hafter]
        rfl
      intro entry hmem
      rcases List.mem_append.1 hmem with hold | hnew
      · exact h entry (List.mem_of_mem_filter hold)
      · rw [List.mem_singleton.1 hnew, hout]
        exact (hpipes hspawn).1
  | read hsome hcall hmore => exact Hears.listen h hsome hcall
  | retire hsome hcall hend hafter =>
    exact fun entry hmem => Hears.listen h hsome hcall entry (List.mem_of_mem_filter hmem)
  | settle hcall =>
    intro entry hmem
    rw [(settle_keeps hcall).1] at hmem
    exact h entry hmem
  | watch | wake | compact | skip => exact h
  | watchFail | readFail | settleFail | abort | pass | part | finish | finishFail => trivial

/-- There is something to wait for while a task executes. -/
theorem Hears.watches {run : Run κ W} (h : run.Hears) (hidle : Idle run.watch run.executing)
    (hsome : run.executing ≠ []) : run.watch.isEmpty = false := by
  have hdescriptors := ReadinessSet.descriptors_eq hidle.mirrors.aligned hidle.fresh
  rw [hidle.mirrors.entries] at hdescriptors
  cases hexecuting : run.executing with
  | nil => exact absurd hexecuting hsome
  | cons entry rest =>
    obtain ⟨fd, hfd⟩ := Option.isSome_iff_exists.1 (h entry (hexecuting ▸ List.mem_cons_self))
    rw [ReadinessSet.isEmpty, hdescriptors, hexecuting, outputs, List.filterMap_cons_some (by rw [hfd]; rfl)]
    rfl

/-- An answer that tells something of a descriptor gives an event that does, while none is marked. -/
theorem Idle.exists_telling {set : ReadinessSet} {conditions : List Conditions} {executing : List (TaskId × Task κ)}
    (h : Idle set executing) (htells : (Reply.answer conditions).TellsOf set.descriptors.length) :
    ∃ event ∈ set.eventsFrom 0 conditions, (event.readable || event.hungUp) = true := by
  obtain ⟨index, c, hlt, hc, htold⟩ := htells
  obtain ⟨owner, howner⟩ : ∃ owner, set.owners[index]? = some owner :=
    ⟨_, List.getElem?_eq_getElem (h.mirrors.aligned.owners ▸ hlt)⟩
  have hmark : set.finished[index]? = some false := by
    have hlt' : index < set.finished.length := h.mirrors.aligned.finished ▸ hlt
    rw [List.getElem?_eq_getElem hlt', h.fresh _ (List.getElem_mem hlt')]
  have hevent : set.eventAt (0 + index) c = some ⟨index, owner, c.isReadable, c.isHungUp⟩ := by
    simp [ReadinessSet.eventAt, howner, hmark, Conditions.any_of_tells htold]
  exact ⟨_, ReadinessSet.mem_eventsFrom_of_eventAt hc hevent, htold⟩

/-- If nothing executes after tasks were started, there is nothing left to do: at least one task may execute at a
time, so either none is queued or an error is held. -/
theorem isActive_of_launchAll {run run' : Run κ W}
    (hlaunch : run.launchAll setting run.pending.length = .ok run') (hnone : run'.executing = []) :
    run'.isActive = false := by
  obtain ⟨_, -, -, hfull⟩ := (launchAll_leads (Nat.le_refl _)).of_ok hlaunch
  have hone : 0 < setting.options.effectiveParallelism := Nat.le_max_right _ 1
  rcases hfull with hroom | hpending
  · have hstopped : run'.isStopped = true := by simpa [hasRoom, hnone, hone] using hroom
    simp [isActive, hnone, hstopped]
  · simp [isActive, hnone, hpending]

end Run

namespace Queue

open Run

variable {κ W : Type} {queue : Queue κ} {host : Host W} {hooks : Hooks κ W} {fuel : Nat} {w : W}

theorem OnCourse.hears {point : Point κ W} (hpipes : host.GivesPipes) (h : queue.OnCourse host hooks fuel w point) :
    point.Hears := by
  induction h with
  | refl => exact List.forall_mem_nil _
  | tail _ hstep ih => exact hstep.hears hpipes ih

/-- What one round of the control loop comes to, in the setting of a queue. -/
structure Progresses (queue : Queue κ) (host : Host W) (hooks : Hooks κ W) (fuel : Nat) (run : Run κ W) : Prop where
  /-- If nothing executes after tasks were started, the round ends there, and nothing is left to do. -/
  idle : ∀ admitted, run.launchAll (queue.setting host hooks fuel) run.pending.length = .ok admitted →
    admitted.executing = [] →
      run.round (queue.setting host hooks fuel) = .ok (false, admitted) ∧ admitted.isActive = false
  /-- Else there is something to wait for. -/
  waits : ∀ admitted, run.launchAll (queue.setting host hooks fuel) run.pending.length = .ok admitted →
    admitted.executing ≠ [] → admitted.watch.isEmpty = false
  /-- The round ends the waiting, leaves nothing to do, retires a task or consumes an event. -/
  progress : ∀ failed run', run.round (queue.setting host hooks fuel) = .ok (failed, run') →
    failed = true ∨ run'.isActive = false ∨ run.retirings < run'.retirings ∨
      ∃ owners, owners ≠ [] ∧ Consumes (queue.setting host hooks fuel) ⟨.admitting, run⟩ owners ⟨.admitting, run'⟩

section Course

variable {run run' : Run κ W} {events : List ReadyEvent}

/-- Starting tasks leads on along the course, and leaves something to wait for while a task executes. -/
theorem OnCourse.launchAll (hids : (queue.pending.map (·.id)).Nodup) (hpipes : host.GivesPipes)
    (hcourse : queue.OnCourse host hooks fuel w ⟨.admitting, run⟩)
    (hlaunch : run.launchAll (queue.setting host hooks fuel) run.pending.length = .ok run') :
    Steps (queue.setting host hooks fuel) ⟨.admitting, run⟩ ⟨.admitting, run'⟩ ∧
      (run'.hasRoom (queue.setting host hooks fuel) = false ∨ run'.pending = []) ∧
      (run'.executing ≠ [] → Idle run'.watch run'.executing ∧ run'.watch.isEmpty = false) := by
  obtain ⟨_, hsteps, rfl, hfull⟩ := (launchAll_course (Nat.le_refl _)).of_ok hlaunch
  have hcourse' : queue.OnCourse host hooks fuel w ⟨.admitting, run'⟩ := hcourse.trans hsteps
  have hears : run'.Hears := hcourse'.hears hpipes
  have hidle : Idle run'.watch run'.executing := hcourse'.watched hids
  exact ⟨hsteps, hfull, fun hsome => ⟨hidle, hears.watches hidle hsome⟩⟩

/-- Acting on events retires a task or consumes an event, unless it fails or none of them tells anything. -/
theorem OnCourse.serviceAll (hids : (queue.pending.map (·.id)).Nodup)
    (hcourse : queue.OnCourse host hooks fuel w ⟨.serving events, run⟩)
    (htelling : ∃ event ∈ events, (event.readable || event.hungUp) = true)
    (hcall : run.serviceAll (queue.setting host hooks fuel) events = .ok (.ok (), run')) :
    run.retirings < run'.retirings ∨
      ∃ owners, owners ≠ [] ∧
        Consumes (queue.setting host hooks fuel) ⟨.serving events, run⟩ owners ⟨.serving [], run'⟩ := by
  -- On the events: what comes before the first that tells something only leads there.
  induction events generalizing run with
  | nil =>
    obtain ⟨event, hmem, -⟩ := htelling
    exact absurd hmem List.not_mem_nil
  | cons event events ih =>
    unfold Run.serviceAll at hcall
    obtain ⟨⟨result, run₁⟩, hservice, hcall⟩ := except_bind_ok.1 hcall
    cases result with
    | error error => cases hcall
    | ok _ =>
      have hsteps : Steps (queue.setting host hooks fuel) ⟨.serving (event :: events), run⟩ ⟨.serving events, run₁⟩ := by
        obtain ⟨last, hsteps, hlast⟩ := service_course.of_ok hservice
        rcases hlast with ⟨-, rfl⟩ | ⟨error, herror, -⟩
        · exact hsteps
        · cases herror
      have hrest : Steps (queue.setting host hooks fuel) ⟨.serving events, run₁⟩ ⟨.serving [], run'⟩ := by
        obtain ⟨last, hsteps, hlast⟩ := serviceAll_course.of_ok hcall
        rcases hlast with ⟨-, rfl⟩ | ⟨error, herror, -⟩
        · exact hsteps
        · cases herror
      cases htells : event.readable || event.hungUp with
      | true =>
        have hserving : Serving (event :: events) run.watch run.executing := hcourse.watched hids
        rcases service_progresses hserving htells hservice with hleft | hconsumes
        · exact .inl (Nat.lt_of_lt_of_le hleft (Steps.unloads hrest).left)
        · obtain ⟨owners, hafter⟩ := Steps.consumes hrest
          exact .inr ⟨event.owner :: owners, List.cons_ne_nil _ _, hconsumes.append hafter⟩
      | false =>
        have hlater : ∃ event ∈ events, (event.readable || event.hungUp) = true := by
          obtain ⟨other, hmem, htold⟩ := htelling
          rcases List.mem_cons.1 hmem with rfl | hmem
          · rw [htells] at htold
            cases htold
          · exact ⟨other, hmem, htold⟩
        rcases ih (hcourse.trans hsteps) hlater hcall with hleft | ⟨owners, hsome, hconsumes⟩
        · exact .inl (Nat.lt_of_le_of_lt (Steps.unloads hsteps).left hleft)
        · obtain ⟨before, hbefore⟩ := Steps.consumes hsteps
          exact .inr ⟨before ++ owners, by simp [hsome], hbefore.append hconsumes⟩

/-- Every round makes progress, and waits for output only if there is something to wait for. -/
theorem OnCourse.round_progresses (hids : (queue.pending.map (·.id)).Nodup) (hpipes : host.GivesPipes)
    (hanswered : queue.Answered host hooks w) (hcourse : queue.OnCourse host hooks fuel w ⟨.admitting, run⟩) :
    queue.Progresses host hooks fuel run where
  idle := fun admitted hlaunch hnone => by
    refine ⟨?_, isActive_of_launchAll hlaunch hnone⟩
    unfold Run.round
    rw [hlaunch]
    exact if_pos (List.isEmpty_iff.2 hnone)
  waits := fun admitted hlaunch hsome => ((hcourse.launchAll hids hpipes hlaunch).2.2 hsome).2
  progress := by
    intro failed run' hround
    unfold Run.round at hround
    obtain ⟨run₁, hlaunch, hround⟩ := except_bind_ok.1 hround
    obtain ⟨hadmitted, hfull, hidle⟩ := hcourse.launchAll hids hpipes hlaunch
    split at hround
    · next hnone =>
      cases hround
      exact .inr (.inl (isActive_of_launchAll hlaunch (List.isEmpty_iff.1 hnone)))
    · next hsome =>
      have hsome : run₁.executing ≠ [] := mt List.isEmpty_iff.2 hsome
      obtain ⟨hidle, hwatches⟩ := hidle hsome
      obtain ⟨⟨result, w₁⟩, hwait, hround⟩ := except_bind_ok.1 hround
      cases result with
      | error cause =>
        cases hround
        exact .inl rfl
      | ok events =>
        obtain ⟨⟨result, run₂⟩, hserve, hround⟩ := except_bind_ok.1 hround
        cases result with
        | error error =>
          cases hround
          exact .inl rfl
        | ok _ =>
          cases hround
          have hwaited : run₁.watch.wait host fuel run₁.world = .ok (.ok events, w₁) := of_await_ok hwait
          have hwatched : Steps (queue.setting host hooks fuel) ⟨.admitting, run⟩
              ⟨.waiting, run₁.note run₁.waitingEvent⟩ := hadmitted.tail (.watch hsome hfull)
          have hpolls := hanswered.waiting (hcourse.trans hwatched) hwatches
          obtain ⟨conditions, htells, rfl⟩ := watch_events hpolls hwatches hwaited
          have hwoken : Steps (queue.setting host hooks fuel) ⟨.admitting, run⟩
              ⟨.serving (run₁.watch.eventsFrom 0 conditions), (run₁.note run₁.waitingEvent).inWorld w₁⟩ :=
            hwatched.tail (.wake hwaited)
          have hserving := OnCourse.serviceAll hids (hcourse.trans hwoken) (hidle.exists_telling htells) hserve
          obtain ⟨owners, hbefore⟩ := hwoken.consumes
          rcases hserving with hleft | ⟨owners', hnonempty, hconsumes⟩
          · exact .inr (.inr (.inl (Nat.lt_of_le_of_lt hwoken.unloads.left hleft)))
          · refine .inr (.inr (.inr ⟨_, ?_, (hbefore.append hconsumes).tail .compact⟩))
            simp [hnonempty]

end Course

/-! ## The end of the rounds -/

/-- Each task of a queue has only so many events by which there is something to read, but not the end. -/
def FinitelyReadable (queue : Queue κ) (host : Host W) (hooks : Hooks κ W) (w : W) : Prop :=
  ∀ task ∈ queue.pending, ∃ bound, ∀ fuel owners point,
    Consumes (queue.setting host hooks fuel) ⟨.admitting, .start queue.pending w⟩ owners point →
      owners.count task.id ≤ bound

end Queue

/-- If each of some identifiers stands in a list only so often, and no other does, the list is only so long. -/
theorem TaskId.exists_length_le {P : List TaskId → Prop} (ids : List TaskId)
    (hids : ∀ owners, P owners → ∀ owner ∈ owners, owner ∈ ids)
    (hbound : ∀ id ∈ ids, ∃ bound, ∀ owners, P owners → owners.count id ≤ bound) :
    ∃ bound, ∀ owners, P owners → owners.length ≤ bound := by
  -- A list is as long as the first identifier occurs in it and as it is without that one.
  induction ids generalizing P with
  | nil => exact ⟨0, fun owners h => Nat.le_of_eq (List.length_eq_zero_iff.2 (List.eq_nil_iff_forall_not_mem.2
      fun owner hmem => List.not_mem_nil (hids owners h owner hmem)))⟩
  | cons id ids ih =>
    obtain ⟨first, hfirst⟩ := hbound id List.mem_cons_self
    obtain ⟨rest, hrest⟩ := @ih (fun others => ∃ owners, P owners ∧ others = owners.filter (· != id))
      (by
        rintro _ ⟨owners, h, rfl⟩ owner hmem
        obtain ⟨hmem, hne⟩ := List.mem_filter.1 hmem
        exact (List.mem_cons.1 (hids owners h owner hmem)).resolve_left (bne_iff_ne.1 hne))
      (by
        intro other hmem
        obtain ⟨bound, hother⟩ := hbound other (List.mem_cons_of_mem _ hmem)
        refine ⟨bound, ?_⟩
        rintro _ ⟨owners, h, rfl⟩
        exact Nat.le_trans (List.filter_sublist.count_le _) (hother owners h))
    refine ⟨first + rest, fun owners h => ?_⟩
    have hothers := hrest _ ⟨owners, h, rfl⟩
    have hcount := hfirst owners h
    have hlength : owners.length = owners.count id + owners.countP (· != id) := by
      rw [List.length_eq_countP_add_countP (· == id), List.count]
      exact congrArg _ (List.countP_congr fun other _ => by simp)
    rw [← List.countP_eq_length_filter] at hothers
    omega

namespace Queue

open Run

variable {κ W : Type} {queue : Queue κ} {host : Host W} {hooks : Hooks κ W} {w : W}

theorem FinitelyReadable.bound (h : queue.FinitelyReadable host hooks w) :
    ∃ bound, ∀ fuel owners point,
      Consumes (queue.setting host hooks fuel) ⟨.admitting, .start queue.pending w⟩ owners point →
        owners.length ≤ bound := by
  obtain ⟨bound, hbound⟩ := TaskId.exists_length_le (queue.pending.map (·.id))
    (P := fun owners => ∃ fuel point,
      Consumes (queue.setting host hooks fuel) ⟨.admitting, .start queue.pending w⟩ owners point)
    (by
      rintro owners ⟨fuel, point, hconsumes⟩
      exact hconsumes.known (sound_start w))
    (by
      rintro id hmem
      obtain ⟨task, htask, rfl⟩ := List.mem_map.1 hmem
      obtain ⟨bound, hbound⟩ := h task htask
      exact ⟨bound, fun owners ⟨fuel, point, hconsumes⟩ => hbound fuel owners point hconsumes⟩)
  exact ⟨bound, fun fuel owners point hconsumes => hbound owners ⟨fuel, point, hconsumes⟩⟩

/-- Rounds that, with enough fuel and patience, end in one run. -/
def RoundsEnd (queue : Queue κ) (host : Host W) (hooks : Hooks κ W) (run : Run κ W) : Prop :=
  ∃ last n, ∀ patience fuel, n ≤ patience → n ≤ fuel → run.rounds (queue.setting host hooks patience) fuel = .ok last

/-- A round that always comes to the same leaves the rounds to come from it. -/
theorem RoundsEnd.of_round {run run' : Run κ W} {failed : Bool} {n : Nat} (hactive : run.isActive = true)
    (hround : ∀ p, n ≤ p → run.round (queue.setting host hooks p) = .ok (failed, run'))
    (hrest : failed = false → queue.RoundsEnd host hooks run') : queue.RoundsEnd host hooks run := by
  have hunfold : ∀ patience fuel, n ≤ patience → run.rounds (queue.setting host hooks patience) (fuel + 1) =
      if failed then .ok run' else run'.rounds (queue.setting host hooks patience) fuel := by
    intro patience fuel hpatience
    rw [Run.rounds, if_pos hactive, hround patience hpatience]
    rfl
  cases failed with
  | true =>
    refine ⟨run', n + 1, fun patience fuel hpatience hfuel => ?_⟩
    obtain ⟨fuel, rfl⟩ := Nat.exists_eq_succ_of_ne_zero (Nat.ne_zero_of_lt hfuel)
    exact hunfold patience fuel (Nat.le_of_succ_le hpatience)
  | false =>
    obtain ⟨last, m, hlast⟩ := hrest rfl
    refine ⟨last, max n m + 1, fun patience fuel hpatience hfuel => ?_⟩
    obtain ⟨fuel, rfl⟩ := Nat.exists_eq_succ_of_ne_zero (Nat.ne_zero_of_lt hfuel)
    exact (hunfold patience fuel (by omega)).trans (hlast patience fuel (by omega) (by omega))

/-- Where nothing is left to do the rounds are over. -/
theorem RoundsEnd.of_not_isActive {run : Run κ W} (hactive : run.isActive = false) :
    queue.RoundsEnd host hooks run := by
  refine ⟨run, 1, fun patience fuel _ hfuel => ?_⟩
  obtain ⟨fuel, rfl⟩ := Nat.exists_eq_succ_of_ne_zero (Nat.ne_zero_of_lt hfuel)
  rw [Run.rounds]
  exact if_neg (by simp [hactive])

/-- A run that the course comes to, whatever patience it is allowed beyond some point, with so many events consumed at
least. -/
def Reaches (queue : Queue κ) (host : Host W) (hooks : Hooks κ W) (w : W) (consumed n : Nat) (run : Run κ W) : Prop :=
  ∀ p, n ≤ p → ∃ owners, consumed ≤ owners.length ∧
    Consumes (queue.setting host hooks p) ⟨.admitting, .start queue.pending w⟩ owners ⟨.admitting, run⟩

theorem Reaches.attains {consumed n : Nat} {run : Run κ W} (h : queue.Reaches host hooks w consumed n run) :
    queue.Attains host hooks w ⟨.admitting, run⟩ := by
  refine ⟨n, fun p hp => ?_⟩
  obtain ⟨owners, -, hconsumes⟩ := h p hp
  exact hconsumes.steps

section Ends

variable (hids : (queue.pending.map (·.id)).Nodup) (hpipes : host.GivesPipes)
  (hanswered : queue.Answered host hooks w)

include hids hpipes hanswered

/-- From a run on, at most as many rounds follow as events can still be consumed and tasks can still leave. -/
theorem Reaches.roundsEnd {bound consumed n : Nat} {run : Run κ W} (hbound : ∀ fuel owners point,
      Consumes (queue.setting host hooks fuel) ⟨.admitting, .start queue.pending w⟩ owners point →
        owners.length ≤ bound)
    (hreaches : queue.Reaches host hooks w consumed n run) (horderly : run.Orderly) :
    queue.RoundsEnd host hooks run := by
  -- On the events and the tasks that are left: after a round that is not the last there are fewer of one or the other.
  induction hmeasure : bound - consumed + run.load using Nat.strongRecOn generalizing run consumed n with
  | ind measure ih =>
    cases hactive : run.isActive with
    | false => exact .of_not_isActive hactive
    | true =>
      have hround : ComesBack fun p => run.round (queue.setting host hooks p) :=
        round_comesBack hanswered hreaches.attains horderly
      obtain ⟨⟨failed, run'⟩, m, hround⟩ := hround
      refine .of_round hactive hround fun hfailed => ?_
      subst hfailed
      cases hactive' : run'.isActive with
      | false => exact .of_not_isActive hactive'
      | true =>
        have horderly' : run'.Orderly := (round_safely horderly).of_ok (hround m (Nat.le_refl m))
        have hsteps : ∀ p, m ≤ p → Steps (queue.setting host hooks p) ⟨.admitting, run⟩ ⟨.admitting, run'⟩ := by
          intro p hp
          obtain ⟨last, hsteps, hlast⟩ := round_course.of_ok (hround p hp)
          rcases hlast with ⟨hfailed, -⟩ | ⟨-, rfl⟩
          · cases hfailed
          · exact hsteps
        have hunloads : Unloads run run' := Steps.unloads (hsteps m (Nat.le_refl m))
        by_cases hleft : run.retirings < run'.retirings
        · -- A task has left, so fewer are there to leave.
          have hreaches' : queue.Reaches host hooks w consumed (max n m) run' := by
            intro p hp
            obtain ⟨owners, hconsumed, hbefore⟩ := hreaches p (by omega)
            obtain ⟨owners', hafter⟩ := Steps.consumes (hsteps p (by omega))
            refine ⟨owners ++ owners', ?_, hbefore.append hafter⟩
            rw [List.length_append]
            omega
          refine ih _ ?_ hreaches' horderly' rfl
          have hkept := hunloads.kept
          omega
        · -- An event was consumed, so fewer are there to be consumed.
          have hreaches' : queue.Reaches host hooks w (consumed + 1) (max n m) run' := by
            intro p hp
            obtain ⟨owners, hconsumed, hbefore⟩ := hreaches p (by omega)
            have hprogress := (OnCourse.round_progresses hids hpipes hanswered hbefore.steps).progress false run'
              (hround p (by omega))
            rcases hprogress with hfailed | hidle | hretired | ⟨owners', hsome, hafter⟩
            · cases hfailed
            · rw [hactive'] at hidle
              cases hidle
            · exact absurd hretired hleft
            · refine ⟨owners ++ owners', ?_, hbefore.append hafter⟩
              have hpositive := List.length_pos_iff.2 hsome
              rw [List.length_append]
              omega
          obtain ⟨owners, hconsumed, hconsumes⟩ := hreaches' _ (Nat.le_refl _)
          have hwithin := hbound _ _ _ hconsumes
          refine ih _ ?_ hreaches' horderly' rfl
          have hkept := hunloads.kept
          have hretired := hunloads.left
          omega

theorem runLocally_comesBack (hfresh : ∀ task ∈ queue.pending, task.Fresh)
    (hfinite : queue.FinitelyReadable host hooks w) : ComesBack fun fuel => queue.runLocally host hooks fuel w := by
  obtain ⟨bound, hbound⟩ := hfinite.bound
  have horderly : (Run.start queue.pending w).Orderly :=
    ⟨fun task hmem => ⟨(hfresh task hmem).state, (hfresh task hmem).termination⟩, List.forall_mem_nil _⟩
  have hreaches : queue.Reaches host hooks w 0 0 (.start queue.pending w) := fun _ _ => ⟨[], Nat.le_refl 0, .refl⟩
  obtain ⟨last, n, hrounds⟩ := hreaches.roundsEnd hids hpipes hanswered hbound horderly
  have hcalls : ComesBack fun p => (Run.start queue.pending w).rounds (queue.setting host hooks p) p :=
    ⟨last, n, fun p hp => hrounds p p hp hp⟩
  refine hcalls.bind fun run m hcall => ?_
  have horderly' : run.Orderly := (rounds_safely m horderly).of_ok (hcall m (Nat.le_refl m))
  split
  · exact .ok run
  · next hsome =>
    -- Some task still executes where the rounds end, so waiting was given up.
    have hfailed : queue.Attains host hooks w ⟨.failed, run⟩ := by
      refine ⟨m, fun p hp => ?_⟩
      obtain ⟨last, hsteps, hlast⟩ := rounds_course.of_ok (hcall p hp)
      rcases hlast with rfl | ⟨-, hidle⟩
      · exact hsteps
      · exact absurd (List.isEmpty_iff.2 (executing_of_not_isActive hidle)) hsome
    have hfinishes : queue.Attains host hooks w
        ⟨.finishing (host.shuffle run.world run.ids).val, run.watching .empty⟩ :=
      hfailed.step (n := 0) fun _ _ => .abort (mt List.isEmpty_iff.2 hsome)
    exact finishAll_comesBack hanswered hfinishes ⟨horderly'.pending, horderly'.executing⟩

end Ends

/-- No more tasks leave a queue than were in it. -/
theorem countP_retiring_le (queue : Queue κ) (host : Host W) (hooks : Hooks κ W) (fuel : Nat) (w : W) :
    (queue.events host hooks fuel w).countP (·.isRetiring) ≤ queue.pending.length := by
  obtain ⟨stage, hcourse⟩ := queue.reached_course host hooks fuel w
  have hkept := (Steps.unloads hcourse).kept
  have hstart : (Run.start queue.pending w).retirings + (Run.start queue.pending w).load = queue.pending.length :=
    Nat.zero_add _
  have hevents : (queue.events host hooks fuel w).countP (·.isRetiring) =
      (queue.reached host hooks fuel w).retirings := List.countP_reverse
  dsimp only at hkept
  omega

/-- If the calls cease that its runs make, and its tasks write only so much, a batch comes to an end: with enough fuel
a run gives an answer, and with more the same. Every round of the control loop retires a task or consumes an event by
which there was something to read but not the end, unless it is the last; a round in which nothing executes after tasks
were started is the last, and every other waits for something. No more tasks leave the queue than were in it. -/
theorem comes_to_an_end (hids : (queue.pending.map (·.id)).Nodup) (hfresh : ∀ task ∈ queue.pending, task.Fresh)
    (hpipes : host.GivesPipes) (hanswered : queue.Answered host hooks w)
    (hfinite : queue.FinitelyReadable host hooks w) :
    (∃ run least, ∀ fuel, least ≤ fuel → queue.runLocally host hooks fuel w = .ok run) ∧
      ∀ fuel, (∀ run, queue.OnCourse host hooks fuel w ⟨.admitting, run⟩ → queue.Progresses host hooks fuel run) ∧
        (queue.events host hooks fuel w).countP (·.isRetiring) ≤ queue.pending.length :=
  ⟨runLocally_comesBack hids hpipes hanswered hfresh hfinite, fun fuel =>
    ⟨fun _ hcourse => hcourse.round_progresses hids hpipes hanswered, countP_retiring_le queue host hooks fuel w⟩⟩

/-! ## A course that ends -/

theorem pointAfter_of_consumes {fuel : Nat} {owners : List TaskId} {point : Point κ W}
    (h : Consumes (queue.setting host hooks fuel) ⟨.admitting, .start queue.pending w⟩ owners point) :
    ∃ n, queue.pointAfter host hooks fuel w n = some point ∧ owners.length ≤ n := by
  induction h with
  | refl => exact ⟨0, rfl, Nat.le_refl 0⟩
  | @tail owners mid last _ hstep ih =>
    obtain ⟨n, hn, hlength⟩ := ih
    refine ⟨n + 1, by rw [pointAfter, hn, Option.bind_some, hstep.next_eq], ?_⟩
    have hone : (mid.consumed? last).toList.length ≤ 1 := by cases mid.consumed? last <;> simp
    rw [List.length_append]
    omega

/-- Where the course has ended after so many steps, it came to every point after fewer. -/
theorem lt_of_pointAfter {fuel m n : Nat} {point : Point κ W} (hstops : queue.pointAfter host hooks fuel w n = none)
    (hpoint : queue.pointAfter host hooks fuel w m = some point) : m < n := by
  have hlater : ∀ k, queue.pointAfter host hooks fuel w (n + k) = none := by
    intro k
    induction k with
    | zero => exact hstops
    | succ k ih => rw [← Nat.add_assoc, pointAfter, ih, Option.bind_none]
  refine Nat.lt_of_not_le fun hle => ?_
  obtain ⟨k, rfl⟩ := Nat.exists_eq_add_of_le hle
  rw [hlater k] at hpoint
  cases hpoint

/-- Where the course has ended after so many steps, no more events were consumed. -/
theorem FinitelyReadable.of_pointAfter {n : Nat} (h : ∀ fuel, queue.pointAfter host hooks fuel w n = none) :
    queue.FinitelyReadable host hooks w := by
  refine fun task _ => ⟨n, fun fuel owners point hconsumes => ?_⟩
  obtain ⟨m, hpoint, hlength⟩ := pointAfter_of_consumes hconsumes
  have hcount : owners.count task.id ≤ owners.length := List.count_le_length
  have hbefore : m < n := lt_of_pointAfter (h fuel) hpoint
  omega

/-- A host whose calls cease in every world answers the runs of every queue. -/
theorem Answered.of_host
    (hpoll : ∀ fds v, fds ≠ [] → Ceases (host.poll fds) Reply.isInterrupted (Reply.TellsOf fds.length) v)
    (hread : ∀ fd v, Ceases (host.read fd Capture.chunkSize) Reply.isFollowed (· ≠ .never) v)
    (hwait : ∀ pid v, Ceases (host.wait pid) Reply.isInterrupted (· ≠ .never) v) :
    queue.Answered host hooks w := by
  have hdrain : ∀ child v, host.LetsDrain child v := fun _ _ =>
    ⟨fun fd _ => hread fd _, fun {_ _ _ _ _} _ fd _ => hread fd _⟩
  have hreap : ∀ child v, host.LetsReap child v := fun child v => ⟨hwait child.pid v, fun _ => hdrain child _⟩
  exact {
    waiting := fun _ hsome => hpoll _ _ (List.isEmpty_eq_false_iff.1 hsome)
    serving := fun _ _ _ _ => hdrain _ _
    retiring := fun _ _ => hreap _ _
    finishing := fun _ _ _ => ⟨fun _ fd _ => hread fd _, fun _ _ fd _ => hread fd _, fun _ => hdrain _ _⟩
    parting := fun _ _ => hreap _ _ }

/-- A host on which the one process keeps its output open while the world counts down to zero; each read takes one
from it. -/
def murmuringHost : Host Nat := { Host.prompt fun _ => .ok 0 with
  spawn := fun launch left => (.ok ⟨1, some 0, if launch.separateErrors then some 0 else none⟩, left)
  poll := fun fds left =>
    match left with
    | 0 => (.answer (fds.map fun _ => ⟨Conditions.hangUpBit⟩), 0)
    | left + 1 => (.answer (fds.map fun _ => ⟨Conditions.inputBit⟩), left + 1)
  read := fun _ _ left =>
    match left with
    | 0 => (.answer .empty, 0)
    | left + 1 => (.fault (.os Os.Errno.tryAgain), left) }

/-- An answer that tells the same of every descriptor tells something if there are any. -/
theorem tellsOf_map {fds : List Fd} {c : Conditions} (hsome : fds ≠ []) (htells : (c.isReadable || c.isHungUp) = true) :
    (Reply.answer (fds.map fun _ => c)).TellsOf fds.length := by
  cases fds with
  | nil => exact absurd rfl hsome
  | cons fd fds => exact ⟨0, c, Nat.succ_pos _, rfl, htells⟩

theorem murmuringHost_givesPipes : murmuringHost.GivesPipes := by
  intro launch left child left' hspawn
  cases hspawn
  cases launch.separateErrors <;> exact ⟨rfl, rfl⟩

theorem murmuringHost_tells (fds : List Fd) (left : Nat) (hsome : fds ≠ []) :
    (murmuringHost.poll fds left).1.TellsOf fds.length := by
  cases left <;> exact tellsOf_map hsome (by decide)

/-- Two tasks of which the first has two events that tell of no end come to their own. -/
theorem comes_to_an_end_of_two_murmurs :
    let queue := Queue.plain 1 ["a", "b"]
    (queue.pending.map (·.id)).Nodup ∧ (∀ task ∈ queue.pending, task.Fresh) ∧ murmuringHost.GivesPipes ∧
      queue.Answered murmuringHost (Hooks.plain : Hooks Unit Nat) 2 ∧
      queue.FinitelyReadable murmuringHost (Hooks.plain : Hooks Unit Nat) 2 ∧
      (∃ run least, ∀ fuel, least ≤ fuel → queue.runLocally murmuringHost .plain fuel 2 = .ok run) ∧
      queue.Progresses murmuringHost (.plain : Hooks Unit Nat) 9 (.start queue.pending 2) ∧
      (queue.events murmuringHost (.plain : Hooks Unit Nat) 9 2).countP (·.isRetiring) = 2 := by
  intro queue
  have hids : (queue.pending.map (·.id)).Nodup := by decide
  have hfresh : ∀ task ∈ queue.pending, task.Fresh := by
    refine List.forall_mem_cons.2 ⟨⟨rfl, rfl, rfl⟩, List.forall_mem_singleton.2 ⟨rfl, rfl, rfl⟩⟩
  have hanswered : queue.Answered murmuringHost (Hooks.plain : Hooks Unit Nat) 2 := by
    refine .of_host (fun fds left hsome => .intro (murmuringHost_tells fds left hsome) ?_) (fun fd left => ?_)
      fun pid left => .intro nofun nofun
    · cases left <;> exact nofun
    · cases left <;> exact .intro nofun nofun
  have hfinite : queue.FinitelyReadable murmuringHost (Hooks.plain : Hooks Unit Nat) 2 := by
    refine .of_pointAfter (n := 21) fun fuel => ?_
    cases fuel with
    | zero => rfl
    | succ fuel => rfl
  obtain ⟨hends, hrounds⟩ := comes_to_an_end hids hfresh murmuringHost_givesPipes hanswered hfinite
  exact ⟨hids, hfresh, murmuringHost_givesPipes, hanswered, hfinite, hends, (hrounds 9).1 _ .refl, by decide +kernel⟩

/-! ## Courses that stop short -/

/-- A host on which the process closes its output and never ends. -/
def lingeringHost : Host Nat := { murmuringHost with
  wait := fun _ left => (.never, left) }

/-- A host on which the process writes as fast as it is read. -/
def gushingHost : Host Nat := { murmuringHost with
  poll := fun fds left => (.answer (fds.map fun _ => ⟨Conditions.inputBit⟩), left)
  read := fun _ _ left => (.answer "y".toUTF8, left) }

/-- A host on which waiting for output fails, and the process keeps its output open and writes nothing. -/
def silentHost : Host Nat := { murmuringHost with
  poll := fun _ left => (.fault (.kind .other), left)
  read := fun _ _ left => (.never, left) }

theorem drain_gushing (fd : Fd) (fuel : Nat) (bytes : ByteArray) (left : Nat) :
    Capture.drain gushingHost fd fuel bytes left = .error .outOfFuel := by
  induction fuel generalizing bytes with
  | zero => rfl
  | succ fuel ih => exact ih _

/-- Reading what is there now of a process that writes as fast as it is read does not come back. -/
theorem listen_gushing {setting : RunSetting κ Nat} {event : ReadyEvent} {task : Task κ} {child : Child} {fd : Fd}
    (hhost : setting.host = gushingHost) (hreadable : event.readable = true) (hprocess : task.process = some child)
    (hout : child.stdout = some fd) (run : Run κ Nat) :
    run.listen setting event task = .error ⟨.outOfFuel, run⟩ := by
  have hread : task.readAvailable setting.host setting.patience run.world = .error .outOfFuel := by
    rw [Task.readAvailable, hprocess, hhost]
    simp only [Capture.drainBoth, hout, Capture.drainOpen, drain_gushing]
    rfl
  rw [Run.listen, if_pos hreadable, Run.readNow, hread]
  rfl

/-- The course of one task that writes as fast as it is read stops where its output is read. -/
theorem pointAfter_gushing (fuel : Nat) :
    (Queue.plain 1 ["a"]).pointAfter gushingHost (Hooks.plain : Hooks Unit Nat) (fuel + 1) 0 4 = none := by
  obtain ⟨event, task, run, hpoint, hreadable, hsome, hprocess⟩ : ∃ event task run,
      (Queue.plain 1 ["a"]).pointAfter gushingHost (Hooks.plain : Hooks Unit Nat) (fuel + 1) 0 3 =
        some ⟨.serving [event], run⟩ ∧ event.readable = true ∧ run.executing? event.owner = some task ∧
      task.process = some ⟨1, some 0, none⟩ := ⟨_, _, _, rfl, rfl, rfl, rfl⟩
  have hcall : run.listen ((Queue.plain 1 ["a"]).setting gushingHost (Hooks.plain : Hooks Unit Nat) (fuel + 1)) event
      task = .error ⟨.outOfFuel, run⟩ := listen_gushing rfl hreadable hprocess rfl run
  rw [pointAfter, hpoint, Option.bind_some]
  simp only [Point.next, hsome, hcall]

/-- A run does not end if its course stops after so many steps, with something left to do wherever it came to. -/
theorem runLocally_ne_ok {fuel n : Nat} (hstops : queue.pointAfter host hooks fuel w n = none)
    (hbusy : ∀ m < n, ∀ point, queue.pointAfter host hooks fuel w m = some point → ¬point.Over) (run : Run κ W) :
    queue.runLocally host hooks fuel w ≠ .ok run := by
  intro hrun
  obtain ⟨stage, hcourse, hover⟩ := over_of_runLocally hrun
  obtain ⟨m, hpoint⟩ := onCourse_iff.1 hcourse
  exact hbusy m (lt_of_pointAfter hstops hpoint) _ hpoint hover

/-- It is not enough that every wait for output fails or tells something, that no call is interrupted, and that there
are only so many events by which there is something to read: a batch does not come to an end whose process closes its
output and never ends, or writes as fast as it is read, or is read up to the end after a failure and never closes its
output. -/
theorem need_not_come_to_an_end :
    let queue := Queue.plain 1 ["a"]
    (queue.pending.map (·.id)).Nodup ∧ (∀ task ∈ queue.pending, task.Fresh) ∧
      ∀ host ∈ [lingeringHost, gushingHost, silentHost],
        host.GivesPipes ∧ (∀ fds left, fds ≠ [] → (host.poll fds left).1.TellsOf fds.length) ∧
        (∀ fds fd count pid left, (host.poll fds left).1.isInterrupted = false ∧
          (host.read fd count left).1.isInterrupted = false ∧ (host.wait pid left).1.isInterrupted = false) ∧
        queue.FinitelyReadable host (Hooks.plain : Hooks Unit Nat) 0 ∧
        ∀ fuel run, queue.runLocally host (Hooks.plain : Hooks Unit Nat) fuel 0 ≠ .ok run := by
  intro queue
  have hfresh : ∀ task ∈ queue.pending, task.Fresh := List.forall_mem_singleton.2 ⟨rfl, rfl, rfl⟩
  have hpipes : ∀ {host : Host Nat}, host.spawn = murmuringHost.spawn → host.GivesPipes := by
    intro host hspawn launch left child left' hchild
    rw [hspawn] at hchild
    exact murmuringHost_givesPipes hchild
  refine ⟨by decide, hfresh, ?_⟩
  simp only [List.forall_mem_cons, List.not_mem_nil, false_implies, implies_true, and_true]
  refine ⟨?_, ?_, ?_⟩
  · have hstops : ∀ fuel, queue.pointAfter lingeringHost (Hooks.plain : Hooks Unit Nat) fuel 0 5 = none := by
      intro fuel
      cases fuel <;> rfl
    refine ⟨hpipes rfl, murmuringHost_tells, fun fds fd count pid left => ?_, .of_pointAfter hstops,
      fun fuel => runLocally_ne_ok (hstops fuel) ?_⟩
    · cases left <;> exact ⟨rfl, rfl, rfl⟩
    · intro m hm point hpoint hover
      cases fuel <;> interval_cases m <;> cases hpoint <;> cases hover
  · have hstops : ∀ fuel, queue.pointAfter gushingHost (Hooks.plain : Hooks Unit Nat) fuel 0 4 = none := by
      intro fuel
      cases fuel with
      | zero => rfl
      | succ fuel => exact pointAfter_gushing fuel
    refine ⟨hpipes rfl, fun fds left hsome => tellsOf_map hsome (by decide),
      fun fds fd count pid left => ⟨rfl, rfl, rfl⟩, .of_pointAfter hstops,
      fun fuel => runLocally_ne_ok (hstops fuel) ?_⟩
    intro m hm point hpoint hover
    cases fuel <;> interval_cases m <;> cases hpoint <;> cases hover
  · have hstops : ∀ fuel, queue.pointAfter silentHost (Hooks.plain : Hooks Unit Nat) fuel 0 5 = none := by
      intro fuel
      cases fuel <;> rfl
    refine ⟨hpipes rfl, fun _ _ _ => trivial, fun fds fd count pid left => ⟨rfl, rfl, rfl⟩, .of_pointAfter hstops,
      fun fuel => runLocally_ne_ok (hstops fuel) ?_⟩
    intro m hm point hpoint hover
    cases fuel <;> interval_cases m <;> cases hpoint <;> cases hover

end Queue

end BatchRunner
