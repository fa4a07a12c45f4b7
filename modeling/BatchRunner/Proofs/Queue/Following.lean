import BatchRunner.Proofs.Queue.Course

/-!
# The control loop follows the course

Every function of the control loop follows the course of its run, up to where it ends or is interrupted
(`Queue.reached_course`). A wait for output and the reaping of a task are announced in the history just before
they are made, so each that a history tells of was made at a point of the course (`Queue.announced_of_events`): what
is proved of every point is true whenever a run comes to wait for output, to act on an event or to reap a task.
-/

namespace BatchRunner

/-- Whether an event says what comes next: a wait for output, or reaping a task. -/
def RunEvent.announces : RunEvent → Bool
  | waiting .. | retiring _ => true
  | _ => false

namespace Run

variable {κ W : Type} {setting : RunSetting κ W}

/-! ## What a step notes -/

/-- The event that announces what is done at a point. -/
def Point.announced : Point κ W → Option RunEvent
  | ⟨.waiting, run⟩ => some run.waitingEvent
  | ⟨.retiring task _, _⟩ | ⟨.parting task _, _⟩ => some (.retiring task.id)
  | _ => none

theorem conclude_history (setting : RunSetting κ W) (run : Run κ W) (task : Task κ) :
    ∃ added, (run.conclude setting task).history = added ++ run.history ∧
      ∀ event ∈ added, event.announces = false := by
  obtain ⟨added, hadded, hevents⟩ := conclude_notes setting run task
  refine ⟨added, hadded, fun event hevent => ?_⟩
  rcases hevents event hevent with rfl | ⟨termination, verdict, rfl⟩ | ⟨error, rfl⟩ <;> rfl

theorem settle_history {run run' : Run κ W} {task : Task κ} {result : Except Error Unit}
    (h : run.settle setting task = .ok (result, run')) :
    ∃ added, run'.history = added ++ run.history ∧ ∀ event ∈ added, event.announces = false := by
  obtain ⟨reaped, between, v, drained, after, w, -, -, h⟩ := settle_ok h
  rcases h with ⟨error, -, -, rfl⟩ | ⟨termination, -, -, rfl⟩
  · exact ⟨[_], rfl, by simp [RunEvent.announces]⟩
  · obtain ⟨added, hadded, hevents⟩ :=
      conclude_history setting ((run.inWorld w).note (.reaped after.id termination)) after
    refine ⟨.settled after.id (failureOf drained) :: (added ++ [.reaped after.id termination]), ?_, ?_⟩
    · rw [note, hadded]
      simp [note, inWorld]
    · simpa [RunEvent.announces, or_imp, forall_and] using hevents

theorem listen_history {run run' : Run κ W} {event : ReadyEvent} {task : Task κ} {result : Except Error Bool}
    (h : run.listen setting event task = .ok (result, run')) :
    ∃ added, run'.history = added ++ run.history ∧ ∀ event ∈ added, event.announces = false := by
  rcases listen_ok h with ⟨-, rfl⟩ | ⟨after, w, failed, -, rfl⟩
  · exact ⟨[], rfl, List.forall_mem_nil _⟩
  · exact ⟨_, rfl, by cases failed <;> simp [RunEvent.announces]⟩

theorem readRest_history {run run' : Run κ W} {id : TaskId} {task : Task κ}
    (h : run.readRest setting id task = .ok run') :
    ∃ added, run'.history = added ++ run.history ∧ ∀ event ∈ added, event.announces = false := by
  rcases readRest_ok h with ⟨after, w, -, rfl⟩ | ⟨error, between, v, result, after, w, -, -, rfl⟩
  · exact ⟨[], rfl, List.forall_mem_nil _⟩
  · exact ⟨[_, _], rfl, by simp [RunEvent.announces]⟩

theorem Moves.sound {tasks : List (Task κ)} {first last : Moment κ W} (hmoves : Moves setting first last)
    (h : Sound tasks first) : Sound tasks last := by
  induction hmoves with
  | refl => exact h
  | tail _ hmove ih => exact hmove.sound ih

/-- A step notes what it did, and last what comes next if that is a wait or reaping a task. -/
theorem Step.history {tasks : List (Task κ)} {first last : Point κ W} (hstep : Step setting first last)
    (hsound : Sound tasks first.moment) :
    ∃ added, last.run.history = last.announced.toList ++ (added ++ first.run.history) ∧
      ∀ event ∈ added, event.announces = false := by
  cases hstep with
  | launch hroom hpending hcall =>
    rcases launch_ok hcall with ⟨error, after, w, -, rfl⟩ | ⟨after, w, -, rfl⟩
    · exact ⟨[_, _], rfl, by simp [RunEvent.announces]⟩
    · exact ⟨[_, _], rfl, by simp [RunEvent.announces]⟩
  | watch hsome hbusy => exact ⟨[], rfl, List.forall_mem_nil _⟩
  | wake hcall => exact ⟨[], rfl, List.forall_mem_nil _⟩
  | watchFail hcall => exact ⟨[_, _], rfl, by simp [RunEvent.announces]⟩
  | compact => exact ⟨[], rfl, List.forall_mem_nil _⟩
  | skip hnone => exact ⟨[], rfl, List.forall_mem_nil _⟩
  | readFail hsome hcall =>
    obtain ⟨added, hadded, hevents⟩ := listen_history hcall
    exact ⟨_ :: added, congrArg _ hadded, List.forall_mem_cons.2 ⟨rfl, hevents⟩⟩
  | read hsome hcall hmore => exact listen_history hcall
  | retire hsome hcall hend hafter =>
    obtain ⟨added, hadded, hevents⟩ := listen_history hcall
    obtain ⟨_, hmoves, rfl, -⟩ := (listen_leads hsome).of_ok hcall
    have hid := ((Moves.sound hmoves hsound).of_executing? hafter).1
    exact ⟨added, congrArg₂ (RunEvent.retiring · :: ·) hid.symm hadded, hevents⟩
  | settle hcall => exact settle_history hcall
  | settleFail hcall =>
    obtain ⟨added, hadded, hevents⟩ := settle_history hcall
    exact ⟨_ :: added, congrArg _ hadded, List.forall_mem_cons.2 ⟨rfl, hevents⟩⟩
  | abort hsome => exact ⟨[], rfl, List.forall_mem_nil _⟩
  | pass hnone => exact ⟨[], rfl, List.forall_mem_nil _⟩
  | part hsome hcall hafter =>
    obtain ⟨added, hadded, hevents⟩ := readRest_history hcall
    obtain ⟨_, hmoves, rfl, -⟩ := (readRest_leads hsome).of_ok hcall
    have hid := ((Moves.sound hmoves hsound).of_executing? hafter).1
    exact ⟨added, congrArg₂ (RunEvent.retiring · :: ·) hid.symm hadded, hevents⟩
  | finish hcall => exact settle_history hcall
  | finishFail hcall =>
    obtain ⟨added, hadded, hevents⟩ := settle_history hcall
    exact ⟨_ :: added, congrArg _ hadded, List.forall_mem_cons.2 ⟨rfl, hevents⟩⟩

/-- Each announcement in a history was made on the course, by a point where what it announces is done. -/
theorem Steps.announced {tasks : List (Task κ)} {first last : Point κ W} (hsteps : Steps setting first last)
    (hsound : Sound tasks first.moment) (hstart : first.run.history = []) {event : RunEvent}
    (hevent : event.announces = true) {before after : List RunEvent}
    (hsplit : last.run.history = after ++ event :: before) :
    ∃ point, Steps setting first point ∧ point.announced = some event ∧ point.run.history = event :: before := by
  induction hsteps generalizing after with
  | refl => simp [hstart] at hsplit
  | @tail mid last hbefore hstep ih =>
    obtain ⟨added, hadded, hquiet⟩ := hstep.history (Moves.sound (Steps.moves hbefore) hsound)
    rw [hadded, ← List.append_assoc] at hsplit
    rcases List.append_eq_append_iff.1 hsplit with ⟨rest, -, hrest⟩ | ⟨early, hearly, hrest⟩
    · exact ih hrest
    · cases early with
      | nil => exact @ih [] hrest.symm
      | cons event' early =>
        obtain ⟨rfl, rfl⟩ := List.cons_eq_cons.1 hrest
        -- The event is one that this step noted, and only the last of them announces anything.
        have hadded' : event ∉ added := fun hmem => by simp [hquiet event hmem] at hevent
        have hmem : event ∈ last.announced.toList ++ added := by simp [hearly]
        cases hlast : last.announced with
        | none => simp [hlast, hadded'] at hmem
        | some mark =>
          obtain rfl : event = mark := by simpa [hlast, hadded'] using hmem
          rw [hlast, Option.toList_some, List.singleton_append] at hearly hadded
          cases after with
          | nil =>
            obtain ⟨-, rfl⟩ := List.cons_eq_cons.1 hearly
            exact ⟨last, hbefore.tail hstep, hlast, hadded⟩
          | cons first after =>
            obtain ⟨-, hadded''⟩ := List.cons_eq_cons.1 hearly
            exact absurd (hadded'' ▸ List.mem_append_right after List.mem_cons_self) hadded'

/-! ## The control loop follows the course -/

theorem await_error {α : Type} {run : Run κ W} {call : Except Halt α} {interrupted : Interrupted κ W}
    (h : run.await call = .error interrupted) : interrupted.run = run := by
  cases call with
  | ok a => cases h
  | error halt => cases h; rfl

theorem launch_interrupted {run : Run κ W} {task : Task κ} {rest : List (Task κ)} {interrupted : Interrupted κ W}
    (h : run.launch setting task rest = .error interrupted) : interrupted.run = run := by
  unfold launch at h
  rcases except_bind_error.1 h with h | ⟨⟨_ | _, after, w⟩, -, h⟩
  · exact await_error h
  · cases h
  · cases h

theorem listen_interrupted {run : Run κ W} {event : ReadyEvent} {task : Task κ} {interrupted : Interrupted κ W}
    (h : run.listen setting event task = .error interrupted) : interrupted.run = run := by
  unfold listen at h
  split at h
  · rcases except_bind_error.1 h with h | ⟨⟨_ | _, after, w⟩, -, h⟩
    · exact await_error h
    · cases h
    · cases h
  · cases h

theorem settle_interrupted {run : Run κ W} {task : Task κ} {interrupted : Interrupted κ W}
    (h : run.settle setting task = .error interrupted) : interrupted.run = run := by
  unfold settle at h
  rcases except_bind_error.1 h with h | ⟨⟨reaped, between, v⟩, -, h⟩
  · exact await_error h
  rcases except_bind_error.1 h with h | ⟨⟨drained, after, w⟩, -, h⟩
  · exact await_error h
  dsimp only at h
  split at h
  · cases h; rfl
  · cases reaped <;> cases h

theorem readRest_interrupted {run : Run κ W} {id : TaskId} {task : Task κ} {interrupted : Interrupted κ W}
    (h : run.readRest setting id task = .error interrupted) : interrupted.run = run := by
  unfold readRest at h
  rcases except_bind_error.1 h with h | ⟨⟨_ | _, between, v⟩, -, h⟩
  · exact await_error h
  · rcases except_bind_error.1 h with h | ⟨_, -, h⟩
    · exact await_error h
    · cases h
  · cases h

/-- The number of queued tasks is enough fuel to start tasks until there is no room or no task. -/
theorem launchAll_course {fuel : Nat} {run : Run κ W} (hfuel : run.pending.length ≤ fuel) :
    LeadsBy (Step setting) Point.run ⟨.admitting, run⟩ (run.launchAll setting fuel)
      fun run' last => last = ⟨.admitting, run'⟩ ∧ (run'.hasRoom setting = false ∨ run'.pending = []) := by
  induction fuel generalizing run with
  | zero => exact .ok ⟨rfl, .inr (List.eq_nil_of_length_eq_zero (Nat.le_zero.1 hfuel))⟩
  | succ fuel ih =>
    unfold launchAll
    split
    · next hroom =>
      split
      · next hnil => exact .ok ⟨rfl, .inr hnil⟩
      · next task rest hpending =>
        refine .call (fun _ => launch_interrupted) fun run' hcall => .of_move (.launch hroom hpending hcall) (ih ?_)
        obtain ⟨_, -, -, hrest⟩ := (launch_leads hroom hpending).of_ok hcall
        rw [hpending, List.length_cons] at hfuel
        rw [hrest]
        exact Nat.le_of_succ_le_succ hfuel
    · next hroom => exact .ok ⟨rfl, .inl (by simpa using hroom)⟩

/-- Where acting on events ends: with no failure, before the events that are left, or with one recorded. -/
def Served (events : List ReadyEvent) (result : Except Error Unit × Run κ W) (last : Point κ W) : Prop :=
  (result.1 = .ok () ∧ last = ⟨.serving events, result.2⟩) ∨
    ∃ error, result.1 = .error error ∧ last = ⟨.failed, result.2.record error⟩

theorem service_course {event : ReadyEvent} {events : List ReadyEvent} {run : Run κ W} :
    LeadsBy (Step setting) Point.run ⟨.serving (event :: events), run⟩ (run.service setting event)
      (Served events) := by
  unfold service
  split
  · next hnone => exact .of_move (.skip hnone) (.ok (.inl ⟨rfl, rfl⟩))
  · next task hsome =>
    refine .call (fun _ => listen_interrupted) fun ⟨result, run'⟩ hcall => ?_
    cases result with
    | error error => exact .of_move (.readFail hsome hcall) (.ok (.inr ⟨error, rfl, rfl⟩))
    | ok ended =>
      dsimp only
      split
      · next hend =>
        obtain ⟨_, -, -, hids⟩ := (listen_leads hsome).of_ok hcall
        have hmem : event.owner ∈ run'.ids := hids ▸ mem_ids_of_executing? hsome
        unfold retire
        split
        · next hnone => exact absurd hmem (executing?_eq_none_iff.1 hnone)
        · next after hafter =>
          refine .of_move (.retire hsome hcall hend hafter) ?_
          rw [← bind_pure (settle _ _ _)]
          refine .call (fun _ => settle_interrupted) fun ⟨result, run''⟩ hsettle => ?_
          cases result with
          | ok _ => exact .of_move (.settle hsettle) (.ok (.inl ⟨rfl, rfl⟩))
          | error error => exact .of_move (.settleFail hsettle) (.ok (.inr ⟨error, rfl, rfl⟩))
      · next hmore => exact .of_move (.read hsome hcall (by simpa using hmore)) (.ok (.inl ⟨rfl, rfl⟩))

theorem serviceAll_course {events : List ReadyEvent} {run : Run κ W} :
    LeadsBy (Step setting) Point.run ⟨.serving events, run⟩ (run.serviceAll setting events) (Served []) := by
  induction events generalizing run with
  | nil => exact .ok (.inl ⟨rfl, rfl⟩)
  | cons event events ih =>
    unfold serviceAll
    refine service_course.bind fun answer last hlast => ?_
    obtain ⟨result, run'⟩ := answer
    rcases hlast with ⟨hresult, rfl⟩ | ⟨error, hresult, rfl⟩
    · obtain rfl : result = .ok () := hresult
      exact ih
    · obtain rfl : result = .error error := hresult
      exact .ok (.inr ⟨error, rfl, rfl⟩)

theorem round_course {run : Run κ W} :
    LeadsBy (Step setting) Point.run ⟨.admitting, run⟩ (run.round setting) fun result last =>
      (result.1 = true ∧ last = ⟨.failed, result.2⟩) ∨ (result.1 = false ∧ last = ⟨.admitting, result.2⟩) := by
  unfold round
  refine (launchAll_course (Nat.le_refl _)).bind fun run₁ last ⟨hlast, hfull⟩ => ?_
  rw [hlast]
  split
  · exact .ok (.inr ⟨rfl, rfl⟩)
  · next hsome =>
    refine .of_move (.watch (by simpa using hsome) hfull) ?_
    refine .await fun ⟨result, w⟩ hcall => ?_
    cases result with
    | error cause => exact .of_move (.watchFail hcall) (.ok (.inl ⟨rfl, rfl⟩))
    | ok events =>
      refine .of_move (.wake hcall) (serviceAll_course.bind fun ⟨result, run₂⟩ last hlast => ?_)
      rcases hlast with ⟨hresult, rfl⟩ | ⟨error, hresult, rfl⟩
      · obtain rfl : result = .ok () := hresult
        exact .of_move .compact (.ok (.inr ⟨rfl, rfl⟩))
      · obtain rfl : result = .error error := hresult
        exact .ok (.inl ⟨rfl, rfl⟩)

/-- While a task executes there is something left to do. -/
theorem executing_of_not_isActive {run : Run κ W} (h : run.isActive = false) : run.executing = [] := by
  simp only [isActive, Bool.or_eq_false_iff, Bool.not_eq_false', List.isEmpty_iff] at h
  exact h.2

theorem rounds_course {fuel : Nat} {run : Run κ W} :
    LeadsBy (Step setting) Point.run ⟨.admitting, run⟩ (run.rounds setting fuel) fun run' last =>
      last = ⟨.failed, run'⟩ ∨ (last = ⟨.admitting, run'⟩ ∧ run'.isActive = false) := by
  induction fuel generalizing run with
  | zero => exact ⟨_, .refl, rfl⟩
  | succ fuel ih =>
    unfold rounds
    split
    · refine round_course.bind fun answer last h => ?_
      obtain ⟨failed, run'⟩ := answer
      rcases h with ⟨hfailed, hlast⟩ | ⟨hfailed, hlast⟩
      · obtain rfl : failed = true := hfailed
        exact .ok (.inl hlast)
      · obtain rfl : failed = false := hfailed
        rw [hlast]
        exact ih
    · next hdone => exact .ok (.inr ⟨rfl, Bool.eq_false_iff.2 hdone⟩)

theorem finishOff_course {id : TaskId} {ids : List TaskId} {run : Run κ W} :
    LeadsBy (Step setting) Point.run ⟨.finishing (id :: ids), run⟩ (run.finishOff setting id)
      fun run' last => last = ⟨.finishing ids, run'⟩ := by
  unfold finishOff
  split
  · next hnone => exact .of_move (.pass hnone) (.ok rfl)
  · next task hsome =>
    refine .call (fun _ => readRest_interrupted) fun run₁ hcall => ?_
    obtain ⟨_, -, -, hids⟩ := (readRest_leads hsome).of_ok hcall
    have hmem : id ∈ run₁.ids := hids ▸ mem_ids_of_executing? hsome
    unfold retire
    split
    · next hnone => exact absurd hmem (executing?_eq_none_iff.1 hnone)
    · next after hafter =>
      refine .of_move (.part hsome hcall hafter) (.call (fun _ => settle_interrupted) fun ⟨result, run₂⟩ hsettle => ?_)
      cases result with
      | error error => exact .of_move (.finishFail hsettle) (.ok rfl)
      | ok _ => exact .of_move (.finish hsettle) (.ok rfl)

theorem finishAll_course {ids : List TaskId} {run : Run κ W} :
    LeadsBy (Step setting) Point.run ⟨.finishing ids, run⟩ (run.finishAll setting ids)
      fun run' last => last = ⟨.finishing [], run'⟩ := by
  induction ids generalizing run with
  | nil => exact .ok rfl
  | cons id ids ih =>
    unfold finishAll
    refine finishOff_course.bind fun run₁ last hlast => ?_
    rw [hlast]
    exact ih

/-- Whether nothing is left to do at a point. -/
def Point.Over : Point κ W → Prop
  | ⟨.admitting, run⟩ => run.isActive = false
  | ⟨.failed, run⟩ => run.executing = []
  | ⟨.finishing ids, _⟩ => ids = []
  | _ => False

theorem Point.Over.next_eq {point : Point κ W} (h : point.Over) : point.next setting = none := by
  obtain ⟨stage, run⟩ := point
  cases stage with
  | admitting =>
    have hidle : run.isActive = false := h
    have hexecuting : run.executing = [] := executing_of_not_isActive hidle
    cases hpending : run.pending with
    | nil => simp [Point.next, hpending, hexecuting]
    | cons task rest =>
      have hstopped : run.isStopped = true := by simpa [isActive, hpending, hexecuting] using hidle
      have hfull : run.hasRoom setting = false := by simp [hasRoom, hstopped]
      simp [Point.next, hfull, hexecuting]
  | failed =>
    have hexecuting : run.executing = [] := h
    simp [Point.next, hexecuting]
  | finishing ids =>
    obtain rfl : ids = [] := h
    rfl
  | waiting | serving | retiring | parting => exact h.elim

/-- A run ends only where nothing is left to do. -/
theorem complete_course {fuel : Nat} {run : Run κ W} :
    LeadsBy (Step setting) Point.run ⟨.admitting, run⟩ (run.complete setting fuel)
      fun run' last => last.run = run' ∧ last.Over := by
  unfold complete
  refine rounds_course.bind fun run₁ last hrest => ?_
  rcases hrest with rfl | ⟨rfl, hidle⟩
  · split
    · next hnone => exact .ok ⟨rfl, List.isEmpty_iff.1 hnone⟩
    · next hsome =>
      refine .of_move (.abort (by simpa using hsome)) (finishAll_course.imp fun run' last hlast => ?_)
      rw [hlast]
      exact ⟨rfl, rfl⟩
  · rw [executing_of_not_isActive hidle]
    exact .ok ⟨rfl, hidle⟩

end Run

namespace Queue

open Run

variable {κ W : Type}

/-- A point that the course of the runs of a queue comes to, if no run is cut short. -/
def OnCourse (queue : Queue κ) (host : Host W) (hooks : Hooks κ W) (fuel : Nat) (w : W) (point : Point κ W) :
    Prop :=
  Steps (queue.setting host hooks fuel) ⟨.admitting, .start queue.pending w⟩ point

/-- The point that the course of a queue comes to after a number of steps, if there are so many. -/
def pointAfter (queue : Queue κ) (host : Host W) (hooks : Hooks κ W) (fuel : Nat) (w : W) : Nat → Option (Point κ W)
  | 0 => some ⟨.admitting, .start queue.pending w⟩
  | n + 1 => (queue.pointAfter host hooks fuel w n).bind (Point.next (queue.setting host hooks fuel))

/-- A run of a queue follows the course, as far as it comes. -/
theorem reached_course (queue : Queue κ) (host : Host W) (hooks : Hooks κ W) (fuel : Nat) (w : W) :
    ∃ stage, queue.OnCourse host hooks fuel w ⟨stage, queue.reached host hooks fuel w⟩ := by
  have hcourse : LeadsBy (Step (queue.setting host hooks fuel)) Point.run ⟨.admitting, .start queue.pending w⟩
      (queue.runLocally host hooks fuel w) fun run' last => last.run = run' ∧ last.Over := complete_course
  unfold reached
  cases hrun : queue.runLocally host hooks fuel w with
  | error interrupted =>
    rw [hrun] at hcourse
    obtain ⟨⟨stage, run⟩, hsteps, hlast⟩ := hcourse
    obtain rfl : run = interrupted.run := hlast
    exact ⟨stage, hsteps⟩
  | ok run' =>
    rw [hrun] at hcourse
    obtain ⟨⟨stage, run⟩, hsteps, hlast, -⟩ := hcourse
    obtain rfl : run = run' := hlast
    exact ⟨stage, hsteps⟩

/-- A run that gives an answer came to where nothing is left to do. -/
theorem over_of_runLocally {queue : Queue κ} {host : Host W} {hooks : Hooks κ W} {fuel : Nat} {w : W} {run : Run κ W}
    (h : queue.runLocally host hooks fuel w = .ok run) :
    ∃ stage, queue.OnCourse host hooks fuel w ⟨stage, run⟩ ∧ Point.Over ⟨stage, run⟩ := by
  obtain ⟨⟨stage, run⟩, hsteps, rfl, hover⟩ :=
    complete_course.of_ok h
  exact ⟨stage, hsteps, hover⟩

variable {queue : Queue κ} {host : Host W} {hooks : Hooks κ W} {fuel : Nat} {w : W} {point : Point κ W}

/-- A run that gives an answer goes on to its end from every point of its course. -/
theorem OnCourse.goes_on {run : Run κ W} (h : queue.OnCourse host hooks fuel w point)
    (hrun : queue.runLocally host hooks fuel w = .ok run) :
    ∃ stage, Steps (queue.setting host hooks fuel) point ⟨stage, run⟩ ∧ Point.Over ⟨stage, run⟩ := by
  obtain ⟨stage, hcourse, hover⟩ := over_of_runLocally hrun
  refine ⟨stage, ?_, hover⟩
  rcases Relation.ReflTransGen.total_of_right_unique Step.rightUnique h hcourse with hsteps | hsteps
  · exact hsteps
  · -- Nothing follows the end, so the point can only be the end itself.
    rcases Relation.ReflTransGen.cases_head hsteps with hlast | ⟨later, hstep, -⟩
    · rw [hlast]
    · have hnext := hstep.next_eq
      rw [hover.next_eq] at hnext
      cases hnext

/-- The points of a course are those that can be computed. -/
theorem onCourse_iff : queue.OnCourse host hooks fuel w point ↔ ∃ n, queue.pointAfter host hooks fuel w n = some point := by
  constructor
  · intro h
    induction h with
    | refl => exact ⟨0, rfl⟩
    | tail _ hstep ih =>
      obtain ⟨n, hn⟩ := ih
      exact ⟨n + 1, by rw [pointAfter, hn, Option.bind_some, hstep.next_eq]⟩
  · rintro ⟨n, hn⟩
    induction n generalizing point with
    | zero =>
      obtain rfl := Option.some.inj hn
      exact .refl
    | succ n ih =>
      obtain ⟨before, hbefore, hnext⟩ := Option.bind_eq_some_iff.1 hn
      exact .tail (ih hbefore) (step_of_next hnext)

theorem OnCourse.running (h : queue.OnCourse host hooks fuel w point) : point.run.Running := by
  induction h with
  | refl => exact List.forall_mem_nil _
  | tail _ hstep ih => exact hstep.running ih

/-- A task that is retired executes too, until it has been reaped. -/
theorem OnCourse.retiring_running {task : Task κ} {events : List ReadyEvent} {run : Run κ W}
    (h : queue.OnCourse host hooks fuel w ⟨.retiring task events, run⟩) : task.state = .executing := by
  cases h with
  | tail hbefore hstep =>
    cases hstep with
    | retire hsome hcall hend hafter =>
      exact (OnCourse.running hbefore).listen hsome hcall _ (mem_executing_of_executing? hafter)

theorem OnCourse.moves (h : queue.OnCourse host hooks fuel w point) :
    Moves (queue.setting host hooks fuel) ⟨.admitting, .start queue.pending w⟩ point.moment :=
  Steps.moves h

/-- What was noted stays noted. -/
theorem OnCourse.history_subset {last : Point κ W} (h : queue.OnCourse host hooks fuel w point)
    (hsteps : Steps (queue.setting host hooks fuel) point last) : point.run.history ⊆ last.run.history := by
  induction hsteps with
  | refl => exact List.Subset.refl _
  | tail hbefore hstep ih =>
    have hcourse : queue.OnCourse host hooks fuel w _ := h.trans hbefore
    obtain ⟨added, hadded, -⟩ := hstep.history (Moves.sound hcourse.moves (sound_start w))
    rw [hadded, ← List.append_assoc]
    exact List.subset_append_of_subset_right _ ih

/-- Whenever a run waited for output or was about to reap a task, it was at a point of its course that
announces so. -/
theorem announced_of_events {event : RunEvent} (hevent : event.announces = true) {before after : List RunEvent}
    (hsplit : queue.events host hooks fuel w = before ++ event :: after) :
    ∃ point, queue.OnCourse host hooks fuel w point ∧ point.announced = some event ∧
      point.run.history.reverse = before ++ [event] := by
  obtain ⟨stage, hcourse⟩ := queue.reached_course host hooks fuel w
  have hsplit' : (queue.reached host hooks fuel w).history = after.reverse ++ event :: before.reverse := by
    rw [events, List.reverse_eq_iff] at hsplit
    simpa using hsplit
  obtain ⟨point, hpoint, hannounced, hhistory⟩ :=
    Steps.announced hcourse (sound_start w) rfl hevent hsplit'
  exact ⟨point, hpoint, hannounced, by simp [hhistory]⟩

end Queue

end BatchRunner

