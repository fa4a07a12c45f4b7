import BatchRunner.Proofs.Queue.Reached
import BatchRunner.Proofs.Task.Effects

/-!
# The course of a run

Moves say what may happen to a run. Its course says what does: a point (`Run.Point`) has, besides the run, all
that the control loop still has in hand, such as the events it has not acted on, and a step (`Run.Step`) is what
the loop does there. Every step is made of moves (`Step.moves`), and there is at most one from each point, which
can be computed (`Run.step_iff_next`).
-/

namespace BatchRunner

namespace Run

variable {κ W : Type} {setting : RunSetting κ W}

/-- What the control loop is about to do. -/
inductive Stage (κ : Type) where
  /-- To start tasks, up to the next wait for output. -/
  | admitting
  /-- To wait for output. -/
  | waiting
  /-- To act on events that a wait gave. -/
  | serving (events : List ReadyEvent)
  /-- To reap a task whose output has ended, and then to act on the rest of the events. -/
  | retiring (task : Task κ) (events : List ReadyEvent)
  /-- To give up waiting, because a failure was recorded. -/
  | failed
  /-- To let tasks run to their ends, one by one. -/
  | finishing (ids : List TaskId)
  /-- To reap a task that was let run to its end, and then to go on with the rest. -/
  | parting (task : Task κ) (ids : List TaskId)

/-- A run and what the control loop is about to do. -/
structure Point (κ W : Type) where
  stage : Stage κ
  run : Run κ W

/-- Where the control is in terms of moves. -/
def Stage.phase : Stage κ → Phase κ
  | admitting => .admitting
  | retiring task _ | parting task _ => .leaving task
  | waiting | serving _ | failed | finishing _ => .serving

/-- The moment of a point. -/
def Point.moment (point : Point κ W) : Moment κ W := ⟨point.stage.phase, point.run⟩

/-- One step of the control loop. -/
inductive Step (setting : RunSetting κ W) : Point κ W → Point κ W → Prop
  | launch {run run' : Run κ W} {task rest} (hroom : run.hasRoom setting) (hpending : run.pending = task :: rest)
      (hcall : run.launch setting task rest = .ok run') :
    Step setting ⟨.admitting, run⟩ ⟨.admitting, run'⟩
  | watch {run : Run κ W} (hsome : run.executing ≠ [])
      (hbusy : run.hasRoom setting = false ∨ run.pending = []) :
    Step setting ⟨.admitting, run⟩ ⟨.waiting, run.note run.waitingEvent⟩
  | wake {run : Run κ W} {events w}
      (hcall : run.watch.wait setting.host setting.patience run.world = .ok (.ok events, w)) :
    Step setting ⟨.waiting, run⟩ ⟨.serving events, run.inWorld w⟩
  | watchFail {run : Run κ W} {cause w}
      (hcall : run.watch.wait setting.host setting.patience run.world = .ok (.error cause, w)) :
    Step setting ⟨.waiting, run⟩
      ⟨.failed, ((run.inWorld w).note (.watchFailed cause)).record (.readiness cause)⟩
  | compact {run : Run κ W} :
    Step setting ⟨.serving [], run⟩ ⟨.admitting, run.watching run.watch.compact⟩
  | skip {run : Run κ W} {event : ReadyEvent} {events} (hnone : run.executing? event.owner = none) :
    Step setting ⟨.serving (event :: events), run⟩
      ⟨.serving events, run.watching (run.watch.markFinished event.index)⟩
  | readFail {run run' : Run κ W} {event : ReadyEvent} {events task error}
      (hsome : run.executing? event.owner = some task)
      (hcall : run.listen setting event task = .ok (.error error, run')) :
    Step setting ⟨.serving (event :: events), run⟩ ⟨.failed, run'.record error⟩
  | read {run run' : Run κ W} {event : ReadyEvent} {events task ended}
      (hsome : run.executing? event.owner = some task)
      (hcall : run.listen setting event task = .ok (.ok ended, run'))
      (hmore : (event.hungUp || ended) = false) :
    Step setting ⟨.serving (event :: events), run⟩ ⟨.serving events, run'⟩
  | retire {run run' : Run κ W} {event : ReadyEvent} {events task ended after}
      (hsome : run.executing? event.owner = some task)
      (hcall : run.listen setting event task = .ok (.ok ended, run'))
      (hend : (event.hungUp || ended) = true) (hafter : run'.executing? event.owner = some after) :
    Step setting ⟨.serving (event :: events), run⟩
      ⟨.retiring after events, (run'.watching (run'.watch.markFinished event.index)).leave event.owner after⟩
  | settle {run run' : Run κ W} {task events} (hcall : run.settle setting task = .ok (.ok (), run')) :
    Step setting ⟨.retiring task events, run⟩ ⟨.serving events, run'⟩
  | settleFail {run run' : Run κ W} {task events error}
      (hcall : run.settle setting task = .ok (.error error, run')) :
    Step setting ⟨.retiring task events, run⟩ ⟨.failed, run'.record error⟩
  | abort {run : Run κ W} (hsome : run.executing ≠ []) :
    Step setting ⟨.failed, run⟩
      ⟨.finishing (setting.host.shuffle run.world run.ids).val, run.watching .empty⟩
  | pass {run : Run κ W} {id ids} (hnone : run.executing? id = none) :
    Step setting ⟨.finishing (id :: ids), run⟩ ⟨.finishing ids, run⟩
  | part {run run' : Run κ W} {id ids task after} (hsome : run.executing? id = some task)
      (hcall : run.readRest setting id task = .ok run') (hafter : run'.executing? id = some after) :
    Step setting ⟨.finishing (id :: ids), run⟩ ⟨.parting after ids, run'.leave id after⟩
  | finish {run run' : Run κ W} {task ids} (hcall : run.settle setting task = .ok (.ok (), run')) :
    Step setting ⟨.parting task ids, run⟩ ⟨.finishing ids, run'⟩
  | finishFail {run run' : Run κ W} {task ids error}
      (hcall : run.settle setting task = .ok (.error error, run')) :
    Step setting ⟨.parting task ids, run⟩ ⟨.finishing ids, run'.record error⟩

/-- Some steps, one after the other. -/
abbrev Steps (setting : RunSetting κ W) : Point κ W → Point κ W → Prop :=
  Relation.ReflTransGen (Step setting)

/-! ## What the calls of a step do -/

section Calls

variable {run run' : Run κ W}

theorem of_await_ok {α : Type} {call : Except Halt α} {a : α} (h : run.await call = .ok a) : call = .ok a := by
  cases call with
  | ok b => cases h; rfl
  | error halt => cases h

/-- A task that cannot be started is dropped, and the failure recorded; one that can be is told of and entered. -/
theorem launch_ok {task : Task κ} {rest : List (Task κ)} (h : run.launch setting task rest = .ok run') :
    (∃ error after w, task.execute setting.host setting.source run.world = .ok (.error error, after, w) ∧
      run' = ((run.pop rest w).note (.spawnFailed after.id error)).record error) ∨
    ∃ after w, task.execute setting.host setting.source run.world = .ok (.ok (), after, w) ∧
      run' = ((run.pop rest w).tell setting after).enter after := by
  unfold launch at h
  obtain ⟨⟨result, after, w⟩, hcall, h⟩ := except_bind_ok.1 h
  cases result with
  | error error =>
    cases h
    exact .inl ⟨error, after, w, of_await_ok hcall, rfl⟩
  | ok _ =>
    cases h
    exact .inr ⟨after, w, of_await_ok hcall, rfl⟩

/-- Listening reads what is there now, if the event says that something is; a failed read is noted. -/
theorem listen_ok {event : ReadyEvent} {task : Task κ} {result : Except Error Bool}
    (h : run.listen setting event task = .ok (result, run')) :
    (result = .ok false ∧ run' = run) ∨
    ∃ after w, ∃ failed : Option Error, task.readAvailable setting.host setting.patience run.world = .ok (result, after, w) ∧
      run' = { (run.inWorld w).update event.owner after with
        history := (failed.map (RunEvent.readFailed event.owner)).toList ++ run.history } := by
  unfold listen at h
  split at h
  · obtain ⟨⟨ended, after, w⟩, hcall, h⟩ := except_bind_ok.1 h
    cases ended with
    | error error =>
      cases h
      exact .inr ⟨after, w, some error, of_await_ok hcall, rfl⟩
    | ok ended =>
      cases h
      exact .inr ⟨after, w, none, of_await_ok hcall, rfl⟩
  · cases h
    exact .inl ⟨rfl, rfl⟩

/-- Reading a task to its end may fail, and then its pipes are closed. -/
theorem readRest_ok {id : TaskId} {task : Task κ} (h : run.readRest setting id task = .ok run') :
    (∃ after w, task.readToClose setting.host setting.patience run.world = .ok (.ok (), after, w) ∧
      run' = (run.inWorld w).update id after) ∨
    ∃ error between v result after w,
      task.readToClose setting.host setting.patience run.world = .ok (.error error, between, v) ∧
      between.finishExecution setting.host setting.patience v = .ok (result, after, w) ∧
      run' = (((run.inWorld w).update id after).note (.readFailed id error)).record error := by
  unfold readRest at h
  obtain ⟨⟨result, between, v⟩, hread, h⟩ := except_bind_ok.1 h
  cases result with
  | ok _ =>
    cases h
    exact .inl ⟨between, v, of_await_ok hread, rfl⟩
  | error error =>
    obtain ⟨⟨closed, after, w⟩, hclose, h⟩ := except_bind_ok.1 h
    cases h
    exact .inr ⟨error, between, v, closed, after, w, of_await_ok hread, of_await_ok hclose, rfl⟩

/-- Settling reaps a task, finishes it, and then reports it unless its end could not be learnt. -/
theorem settle_ok {task : Task κ} {result : Except Error Unit} (h : run.settle setting task = .ok (result, run')) :
    ∃ reaped between v drained after w,
      task.reap setting.host setting.patience run.world = .ok (reaped, between, v) ∧
      between.finishIfRunning setting.host setting.patience v = .ok (drained, after, w) ∧
      ((∃ error, reaped = .error error ∧ result = .error error ∧
          run' = (run.inWorld w).note (.lost after.id error (failureOf drained))) ∨
        ∃ termination, reaped = .ok termination ∧ result = drained ∧
          run' = (((run.inWorld w).note (.reaped after.id termination)).conclude setting after).note
            (.settled after.id (failureOf drained))) := by
  unfold settle at h
  obtain ⟨⟨reaped, between, v⟩, hreap, h⟩ := except_bind_ok.1 h
  obtain ⟨⟨drained, after, w⟩, hclose, h⟩ := except_bind_ok.1 h
  dsimp only at h
  split at h
  · cases h
  · refine ⟨reaped, between, v, drained, after, w, of_await_ok hreap, of_await_ok hclose, ?_⟩
    cases reaped with
    | error error =>
      cases h
      exact .inl ⟨error, rfl, rfl, rfl⟩
    | ok termination =>
      cases h
      exact .inr ⟨termination, rfl, rfl, rfl⟩

end Calls

/-! ## Steps are made of moves -/

theorem LeadsBy.of_ok {P α : Type} {step : P → P → Prop} {run : P → Run κ W} {first : P}
    {result : Except (Interrupted κ W) α} {there : α → P → Prop} {a : α}
    (h : LeadsBy step run first result there) (hresult : result = .ok a) :
    ∃ last, Relation.ReflTransGen step first last ∧ there a last := by
  rw [hresult] at h
  exact h

theorem Step.moves {first last : Point κ W} (h : Step setting first last) :
    Moves setting first.moment last.moment := by
  cases h with
  | launch hroom hpending hcall =>
    obtain ⟨_, hmoves, rfl, -⟩ := (launch_leads hroom hpending).of_ok hcall
    exact hmoves
  | watch hsome hbusy => exact .single (.watch hsome hbusy)
  | wake hcall => exact .single (.wake hcall)
  | watchFail hcall => exact .tail (.single (.watchFail hcall)) .record
  | compact => exact .single .compact
  | skip hnone => exact .single (.skip hnone)
  | readFail hsome hcall =>
    obtain ⟨_, hmoves, rfl, -⟩ := (listen_leads hsome).of_ok hcall
    exact .tail hmoves .record
  | read hsome hcall hmore =>
    obtain ⟨_, hmoves, rfl, -⟩ := (listen_leads hsome).of_ok hcall
    exact hmoves
  | retire hsome hcall hend hafter =>
    obtain ⟨_, hmoves, rfl, -⟩ := (listen_leads hsome).of_ok hcall
    exact .tail hmoves (.leave hafter (.inr ⟨_, rfl⟩))
  | settle hcall =>
    obtain ⟨_, hmoves, rfl, -⟩ := settle_leads.of_ok hcall
    exact hmoves
  | settleFail hcall =>
    obtain ⟨_, hmoves, rfl, -⟩ := settle_leads.of_ok hcall
    exact .tail hmoves .record
  | abort hsome => exact .single .clear
  | pass hnone => exact .refl
  | part hsome hcall hafter =>
    obtain ⟨_, hmoves, rfl, -⟩ := (readRest_leads hsome).of_ok hcall
    exact .tail hmoves (.leave hafter (.inl rfl))
  | finish hcall =>
    obtain ⟨_, hmoves, rfl, -⟩ := settle_leads.of_ok hcall
    exact hmoves
  | finishFail hcall =>
    obtain ⟨_, hmoves, rfl, -⟩ := settle_leads.of_ok hcall
    exact .tail hmoves .record

theorem Steps.moves {first last : Point κ W} (h : Steps setting first last) :
    Moves setting first.moment last.moment := by
  induction h with
  | refl => exact .refl
  | tail _ hstep ih => exact ih.trans hstep.moves

/-! ## Tasks that are kept execute -/

/-- Every task that is kept executes. Only where its pipes have to be given up is a task finished before it is
reaped, and it leaves at once. -/
def Running (run : Run κ W) : Prop := ∀ entry ∈ run.executing, entry.2.state = .executing

theorem Running.listen {run run' : Run κ W} {event : ReadyEvent} {task : Task κ} {result : Except Error Bool}
    (h : run.Running) (hsome : run.executing? event.owner = some task)
    (hcall : run.listen setting event task = .ok (result, run')) : run'.Running := by
  rcases listen_ok hcall with ⟨-, rfl⟩ | ⟨after, w, failed, hread, rfl⟩
  · exact h
  · have hstate : task.state = .executing := h _ (mem_executing_of_executing? hsome)
    intro entry hmem
    rcases mem_update hmem with rfl | ⟨hold, -⟩
    · show after.state = .executing
      rw [Task.readAvailable_eq hread]
      exact hstate
    · exact h entry hold

theorem settle_keeps {run run' : Run κ W} {task : Task κ} {result : Except Error Unit}
    (h : run.settle setting task = .ok (result, run')) :
    run'.executing = run.executing ∧ run'.watch = run.watch := by
  obtain ⟨reaped, between, v, drained, after, w, -, -, h⟩ := settle_ok h
  rcases h with ⟨error, -, -, rfl⟩ | ⟨termination, -, -, rfl⟩
  · exact ⟨rfl, rfl⟩
  · refine ⟨(conclude_keeps ..).2, ?_⟩
    unfold conclude
    split
    · rfl
    · dsimp only
      split <;> rfl

theorem Running.settle {run run' : Run κ W} {task : Task κ} {result : Except Error Unit} (h : run.Running)
    (hcall : run.settle setting task = .ok (result, run')) : run'.Running := by
  rw [Running, (settle_keeps hcall).1]
  exact h

theorem Running.record {run : Run κ W} {error : Error} (h : run.Running) : (run.record error).Running := h

/-- Whatever a step does, the tasks that are kept execute. -/
theorem Step.running {first last : Point κ W} (hstep : Step setting first last) (h : first.run.Running) :
    last.run.Running := by
  cases hstep with
  | launch hroom hpending hcall =>
    rcases launch_ok hcall with ⟨error, after, w, -, rfl⟩ | ⟨after, w, hexecute, rfl⟩
    · exact h
    · obtain ⟨vars, child, -, hafter⟩ := Task.execute_ok hexecute
      intro entry hmem
      rcases List.mem_append.1 hmem with hold | hnew
      · exact h entry (List.mem_of_mem_filter hold)
      · rw [List.mem_singleton.1 hnew, hafter]
  | readFail hsome hcall => exact (Running.listen h hsome hcall).record
  | read hsome hcall hmore => exact h.listen hsome hcall
  | retire hsome hcall hend hafter =>
    exact fun entry hmem => (h.listen hsome hcall) entry (List.mem_of_mem_filter hmem)
  | settle hcall => exact h.settle hcall
  | settleFail hcall => exact (Running.settle h hcall).record
  | @part run run' id ids task after hsome hcall hafter =>
    intro entry hmem
    obtain ⟨hmem, hne⟩ := List.mem_filter.1 hmem
    obtain ⟨put, w, history, held, rfl⟩ : ∃ put w history held,
        run' = { (run.inWorld w).update id put with history, held } := by
      rcases readRest_ok hcall with ⟨put, w, -, rfl⟩ | ⟨error, between, v, result, put, w, -, -, rfl⟩
      · exact ⟨put, w, _, _, rfl⟩
      · exact ⟨put, w, _, _, rfl⟩
    rcases mem_update hmem with rfl | ⟨hold, -⟩
    · simp at hne
    · exact h entry hold
  | finish hcall => exact h.settle hcall
  | finishFail hcall => exact (Running.settle h hcall).record
  | _ => exact h

/-! ## Steps can be computed -/

/-- Where the control loop goes next, unless it is interrupted or has nothing left to do. -/
def Point.next (setting : RunSetting κ W) : Point κ W → Option (Point κ W)
  | ⟨.admitting, run⟩ =>
    match run.hasRoom setting, run.pending with
    | true, task :: rest =>
      match run.launch setting task rest with
      | .ok run' => some ⟨.admitting, run'⟩
      | .error _ => none
    | _, _ => if run.executing.isEmpty then none else some ⟨.waiting, run.note run.waitingEvent⟩
  | ⟨.waiting, run⟩ =>
    match run.watch.wait setting.host setting.patience run.world with
    | .ok (.ok events, w) => some ⟨.serving events, run.inWorld w⟩
    | .ok (.error cause, w) =>
      some ⟨.failed, ((run.inWorld w).note (.watchFailed cause)).record (.readiness cause)⟩
    | .error _ => none
  | ⟨.serving [], run⟩ => some ⟨.admitting, run.watching run.watch.compact⟩
  | ⟨.serving (event :: events), run⟩ =>
    match run.executing? event.owner with
    | none => some ⟨.serving events, run.watching (run.watch.markFinished event.index)⟩
    | some task =>
      match run.listen setting event task with
      | .ok (.error error, run') => some ⟨.failed, run'.record error⟩
      | .ok (.ok ended, run') =>
        if event.hungUp || ended then
          (run'.executing? event.owner).map fun after =>
            ⟨.retiring after events, (run'.watching (run'.watch.markFinished event.index)).leave event.owner after⟩
        else some ⟨.serving events, run'⟩
      | .error _ => none
  | ⟨.retiring task events, run⟩ =>
    match run.settle setting task with
    | .ok (.ok (), run') => some ⟨.serving events, run'⟩
    | .ok (.error error, run') => some ⟨.failed, run'.record error⟩
    | .error _ => none
  | ⟨.failed, run⟩ =>
    if run.executing.isEmpty then none
    else some ⟨.finishing (setting.host.shuffle run.world run.ids).val, run.watching .empty⟩
  | ⟨.finishing [], _⟩ => none
  | ⟨.finishing (id :: ids), run⟩ =>
    match run.executing? id with
    | none => some ⟨.finishing ids, run⟩
    | some task =>
      match run.readRest setting id task with
      | .ok run' => (run'.executing? id).map fun after => ⟨.parting after ids, run'.leave id after⟩
      | .error _ => none
  | ⟨.parting task ids, run⟩ =>
    match run.settle setting task with
    | .ok (.ok (), run') => some ⟨.finishing ids, run'⟩
    | .ok (.error error, run') => some ⟨.finishing ids, run'.record error⟩
    | .error _ => none

/-- There is at most one step from a point. -/
theorem Step.next_eq {first last : Point κ W} (h : Step setting first last) : first.next setting = some last := by
  cases h with
  | launch hroom hpending hcall => simp [Point.next, hroom, hpending, hcall]
  | watch hsome hbusy =>
    rcases hbusy with hbusy | hbusy
    · simp [Point.next, hbusy, hsome]
    · simp [Point.next, hbusy, hsome]
  | wake hcall => simp [Point.next, hcall]
  | watchFail hcall => simp [Point.next, hcall]
  | compact => rfl
  | skip hnone => simp [Point.next, hnone]
  | readFail hsome hcall => simp [Point.next, hsome, hcall]
  | read hsome hcall hmore => simp [Point.next, hsome, hcall, hmore]
  | retire hsome hcall hend hafter => simp [Point.next, hsome, hcall, hend, hafter]
  | settle hcall => simp [Point.next, hcall]
  | settleFail hcall => simp [Point.next, hcall]
  | abort hsome => simp [Point.next, hsome]
  | pass hnone => simp [Point.next, hnone]
  | part hsome hcall hafter => simp [Point.next, hsome, hcall, hafter]
  | finish hcall => simp [Point.next, hcall]
  | finishFail hcall => simp [Point.next, hcall]

theorem step_of_next {first last : Point κ W} (h : first.next setting = some last) : Step setting first last := by
  obtain ⟨stage, run⟩ := first
  cases stage with
  | admitting =>
    simp only [Point.next] at h
    split at h
    · next hroom hpending =>
      split at h <;> cases h
      exact .launch hroom hpending ‹_›
    · next hbusy =>
      split at h <;> cases h
      next hsome =>
      refine .watch (mt List.isEmpty_iff.2 hsome) ?_
      cases hroom : run.hasRoom setting with
      | false => exact .inl rfl
      | true =>
        cases hpending : run.pending with
        | nil => exact .inr rfl
        | cons task rest => exact absurd hpending (hbusy task rest hroom)
  | waiting =>
    simp only [Point.next] at h
    split at h <;> cases h
    · exact .wake ‹_›
    · exact .watchFail ‹_›
  | serving events =>
    cases events with
    | nil => cases h; exact .compact
    | cons event events =>
      simp only [Point.next] at h
      split at h
      · cases h
        exact .skip ‹_›
      · next hsome =>
        split at h
        · cases h
          exact .readFail hsome ‹_›
        · next hcall =>
          split at h
          · obtain ⟨after, hafter, rfl⟩ := Option.map_eq_some_iff.1 h
            exact .retire hsome hcall ‹_› hafter
          · next hmore =>
            cases h
            exact .read hsome hcall (Bool.eq_false_iff.2 hmore)
        · cases h
  | retiring task events =>
    simp only [Point.next] at h
    split at h <;> cases h
    · exact .settle ‹_›
    · exact .settleFail ‹_›
  | failed =>
    simp only [Point.next] at h
    split at h <;> cases h
    next hsome => exact .abort (mt List.isEmpty_iff.2 hsome)
  | finishing ids =>
    cases ids with
    | nil => cases h
    | cons id ids =>
      simp only [Point.next] at h
      split at h
      · cases h
        exact .pass ‹_›
      · next hsome =>
        split at h
        · next hcall =>
          obtain ⟨after, hafter, rfl⟩ := Option.map_eq_some_iff.1 h
          exact .part hsome hcall hafter
        · cases h
  | parting task ids =>
    simp only [Point.next] at h
    split at h <;> cases h
    · exact .finish ‹_›
    · exact .finishFail ‹_›

/-- The course of a run is a function of where it is. -/
theorem step_iff_next {first last : Point κ W} : Step setting first last ↔ first.next setting = some last :=
  ⟨Step.next_eq, step_of_next⟩

theorem Step.rightUnique : Relator.RightUnique (Step setting) := fun _ _ _ h h' =>
  Option.some.inj (h.next_eq.symm.trans h'.next_eq)

end Run

end BatchRunner
