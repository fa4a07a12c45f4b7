import BatchRunner.Proofs.Queue.Within

/-!
# The calls of hooks

Hooks are watched by putting them into a world that keeps a list of the calls made on them
(`Hooks.recording`). Watching does not disturb a run (`Queue.reached_recording`), so `Queue.hookCalls` is what
the caller's own hooks are called with. It is exactly what the history of the run says, event by event
(`Queue.hookCalls_eq`): a hook that is there is called for each event that it is for, in order, and for
nothing else. What no hook judges is judged by the policy (`Queue.judged_by_policy`).
-/

namespace BatchRunner

/-- A call of a hook, with the verdict that it gave. -/
inductive HookCall where
  | began (task : TaskId)
  | finished (task : TaskId) (code : Int) (verdict : Verdict)
  | signalled (task : TaskId) (signal : Signal) (verdict : Verdict)
  | reported (task : TaskId)
  deriving DecidableEq

/-- A world with the calls that were made on hooks, in order. -/
structure Recorded (W : Type) where
  world : W
  calls : List HookCall

/-- The world without the calls. -/
def Recorded.part {W : Type} : Part (Recorded W) W where
  get recorded := recorded.world
  set w recorded := { recorded with world := w }

theorem Recorded.part_lawful {W : Type} : (Recorded.part : Part (Recorded W) W).Lawful where
  get_set := fun _ _ => rfl
  set_get := fun _ => rfl
  set_set := fun _ _ _ => rfl

/-- The verdict of a policy on an end that no hook judges. -/
def Policy.verdict (policy : Policy) : Termination → Verdict
  | .exited code => .ofStop (policy.stopsOnExit code)
  | .signalled _ => .ofStop policy.stopsOnSignal

/-- The strict policy stops on everything but an exit with zero. -/
theorem Policy.verdict_strict {termination : Termination} :
    Policy.strict.verdict termination = .proceed ↔ termination = .exited 0 := by
  cases termination with
  | exited code => by_cases h : code = 0 <;> simp [verdict, strict, stopsOnExit, Verdict.ofStop, h]
  | signalled signal => simp [verdict, strict, stopsOnSignal, Verdict.ofStop]

namespace Hooks

variable {κ W : Type}

/-- The same hooks, with a list kept of the calls made on them. -/
def recording (hooks : Hooks κ W) : Hooks κ (Recorded W) where
  began := hooks.began.map fun hook task recorded =>
    ⟨hook task recorded.world, recorded.calls ++ [.began task.id]⟩
  finished := hooks.finished.map fun hook task code recorded =>
    let (verdict, w) := hook task code recorded.world
    (verdict, ⟨w, recorded.calls ++ [.finished task.id code verdict]⟩)
  signalled := hooks.signalled.map fun hook task signal recorded =>
    let (verdict, w) := hook task signal recorded.world
    (verdict, ⟨w, recorded.calls ++ [.signalled task.id signal verdict]⟩)
  reported := hooks.reported.map fun hook task recorded =>
    ⟨hook task recorded.world, recorded.calls ++ [.reported task.id]⟩

/-- The call that is made for an event, if the hook for it is there. -/
def call? (hooks : Hooks κ W) : RunEvent → Option HookCall
  | .began id => if hooks.began.isSome then some (.began id) else none
  | .reported id => if hooks.reported.isSome then some (.reported id) else none
  | .judged id (.exited code) verdict =>
    if hooks.finished.isSome then some (.finished id code verdict) else none
  | .judged id (.signalled signal) verdict =>
    if hooks.signalled.isSome then some (.signalled id signal verdict) else none
  | _ => none

/-- Whether there is a hook that judges an end. -/
def judges (hooks : Hooks κ W) : Termination → Bool
  | .exited _ => hooks.finished.isSome
  | .signalled _ => hooks.signalled.isSome

/-! ## What the recording hooks do -/

variable (hooks : Hooks κ W) (policy : Policy) (task : Task κ) (recorded : Recorded W)

theorem recording_tellBegan : hooks.recording.tellBegan task recorded =
    ⟨hooks.tellBegan task recorded.world, recorded.calls ++ (hooks.call? (.began task.id)).toList⟩ := by
  unfold tellBegan recording call?
  cases hooks.began <;> simp

theorem recording_tellReported {termination : Termination} (h : task.termination = some termination) :
    hooks.recording.tellReported task recorded = ⟨hooks.tellReported task recorded.world,
      recorded.calls ++ (hooks.call? (.reported task.id)).toList⟩ := by
  unfold tellReported recording call?
  rw [h]
  cases hooks.reported <;> simp

theorem recording_judge {termination : Termination} (h : task.termination = some termination) :
    hooks.recording.judge policy task recorded =
      let (verdict, w) := hooks.judge policy task recorded.world
      (verdict, ⟨w, recorded.calls ++ (hooks.call? (.judged task.id termination verdict)).toList⟩) := by
  unfold judge recording
  rw [h]
  cases termination with
  | exited code => cases hfinished : hooks.finished <;> simp [call?, hfinished]
  | signalled signal => cases hsignalled : hooks.signalled <;> simp [call?, hsignalled]

/-- A task that was reaped is reported and judged, in this order, as the hooks do without being recorded. -/
theorem recording_terminated {termination : Termination} {verdict : Verdict} {w : W}
    (htermination : task.termination = some termination)
    (hverdict : hooks.terminated policy task recorded.world = (verdict, w)) :
    hooks.recording.terminated policy task recorded =
      (verdict, ⟨w, recorded.calls ++ ((hooks.call? (.reported task.id)).toList ++
        (hooks.call? (.judged task.id termination verdict)).toList)⟩) := by
  unfold terminated at hverdict ⊢
  rw [recording_tellReported hooks task recorded htermination,
    recording_judge hooks policy task _ htermination]
  dsimp only
  rw [hverdict, List.append_assoc]

theorem terminated_of_judges_eq_false {hooks : Hooks κ W} {policy : Policy} {task : Task κ}
    {termination : Termination} {verdict : Verdict} {w w' : W}
    (htermination : task.termination = some termination)
    (hnone : hooks.judges termination = false) (h : hooks.terminated policy task w = (verdict, w')) :
    verdict = policy.verdict termination := by
  unfold terminated judge at h
  rw [htermination] at h
  cases termination with
  | exited code =>
    rw [show hooks.finished = none by simpa [judges] using hnone] at h
    exact (congrArg Prod.fst h).symm
  | signalled signal =>
    rw [show hooks.signalled = none by simpa [judges] using hnone] at h
    exact (congrArg Prod.fst h).symm

theorem recording_over : hooks.recording.Over Recorded.part hooks where
  tellBegan := fun task recorded => by rw [recording_tellBegan]; rfl
  terminated := fun policy task recorded => by
    cases htermination : task.termination with
    | none => simp [terminated, tellReported, judge, htermination]
    | some termination =>
      cases hverdict : hooks.terminated policy task recorded.world with
      | mk verdict w =>
        rw [recording_terminated hooks policy task recorded htermination hverdict]
        exact hverdict

end Hooks

namespace Run

variable {κ W : Type} {setting : RunSetting κ W} {hooks : Hooks κ W}

/-- The calls that were recorded are those that the history says. -/
def Heard (hooks : Hooks κ W) (run : Run κ (Recorded W)) : Prop :=
  run.world.calls = run.history.reverse.filterMap hooks.call?

/-- Events with the calls for them may be added. -/
theorem Heard.add {run run' : Run κ (Recorded W)} (h : Heard hooks run) (added : List RunEvent)
    (hhistory : run'.history = added.reverse ++ run.history)
    (hcalls : run'.world.calls = run.world.calls ++ added.filterMap hooks.call?) : Heard hooks run' := by
  rw [Heard, hcalls, hhistory, h, List.reverse_append, List.reverse_reverse, List.filterMap_append]

theorem conclude_heard {run : Run κ (Recorded W)} {task : Task κ} {termination : Termination}
    (htermination : task.termination = some termination) (h : Heard setting.hooks run) :
    Heard setting.hooks (run.conclude (setting.within Recorded.part setting.hooks.recording) task) := by
  cases hverdict : setting.hooks.terminated setting.options.policy task run.world.world with
  | mk verdict w =>
    have hrecorded := setting.hooks.recording_terminated setting.options.policy task run.world htermination
      hverdict
    unfold conclude
    rw [htermination]
    dsimp only [RunSetting.within]
    rw [hrecorded]
    dsimp only
    have hjudged : Heard setting.hooks (run.judge task.id termination verdict ⟨w, run.world.calls ++
        ((setting.hooks.call? (.reported task.id)).toList ++
          (setting.hooks.call? (.judged task.id termination verdict)).toList)⟩) := by
      refine h.add [.reported task.id, .judged task.id termination verdict] rfl ?_
      rw [List.filterMap_eq_flatMap_toList]
      simp [judge, note]
    split
    · exact hjudged.add [.recorded (stopError task termination)] rfl (List.append_nil _).symm
    · exact hjudged

/-- A move calls the hooks that are there for the events that it adds, in order, and no others. -/
theorem Move.heard {first last : Moment κ (Recorded W)}
    (hmove : Move (setting.within Recorded.part setting.hooks.recording) first last)
    (h : Heard setting.hooks first.run) : Heard setting.hooks last.run := by
  have hpart := Recorded.part_lawful (W := W)
  cases hmove with
  | @refuse run task rest error after w hroom hpending hcall =>
    obtain ⟨w, rfl⟩ := Host.execute_leaves hpart hcall
    exact h.add [.spawnFailed after.id error, .recorded error] rfl (List.append_nil _).symm
  | @accept run task rest after w hroom hpending hcall =>
    obtain ⟨w, rfl⟩ := Host.execute_leaves hpart hcall
    have htold := setting.hooks.recording_tellBegan after (Recorded.part.set w run.world)
    have hcalls : [.spawned after.id, .began after.id].filterMap setting.hooks.call? =
        (setting.hooks.call? (.began after.id)).toList := by
      rw [List.filterMap_eq_flatMap_toList]
      simp [Hooks.call?]
    refine h.add [.spawned after.id, .began after.id] rfl ?_
    rw [hcalls]
    exact congrArg Recorded.calls htold
  | watch => exact h.add [_] rfl (List.append_nil _).symm
  | wake hcall =>
    obtain ⟨w, rfl⟩ := Host.watch_leaves hpart hcall
    exact h
  | @watchFail run cause w hcall =>
    obtain ⟨w, rfl⟩ := Host.watch_leaves hpart hcall
    exact h.add [.watchFailed cause] rfl (List.append_nil _).symm
  | skip => exact h
  | read hsome hcall =>
    obtain ⟨w, rfl⟩ := Host.readAvailable_leaves hpart hcall
    exact h
  | @readFail run id task error after w hsome hcall =>
    obtain ⟨w, rfl⟩ := Host.readAvailable_leaves hpart hcall
    exact h.add [.readFailed id error] rfl (List.append_nil _).symm
  | readRest hsome hcall =>
    obtain ⟨w, rfl⟩ := Host.readToClose_leaves hpart hcall
    exact h
  | @abandon run id task error between v result after w hsome hread hclose =>
    obtain ⟨v, rfl⟩ := Host.readToClose_leaves hpart hread
    obtain ⟨w, rfl⟩ := Host.finishExecution_leaves hpart hclose
    exact h.add [.readFailed id error] rfl (List.append_nil _).symm
  | @leave run id task watch hsome hwatch => exact h.add [.retiring id] rfl (List.append_nil _).symm
  | @lose run task error between v drained after w hreap hclose =>
    obtain ⟨v, rfl⟩ := Host.reap_leaves hpart hreap
    obtain ⟨w, rfl⟩ := Host.finishIfRunning_leaves hpart hclose
    exact h.add [.lost after.id error (failureOf drained)] rfl (List.append_nil _).symm
  | @settle run task termination between v drained after w hreap hclose =>
    have htermination : after.termination = some termination :=
      (Task.finishIfRunning_keeps hclose).2.trans (Task.reap_termination hreap)
    obtain ⟨v, rfl⟩ := Host.reap_leaves hpart hreap
    obtain ⟨w, rfl⟩ := Host.finishIfRunning_leaves hpart hclose
    have hreaped : Heard setting.hooks
        ((run.inWorld (Recorded.part.set w (Recorded.part.set v run.world))).note
          (.reaped after.id termination)) :=
      h.add [.reaped after.id termination] rfl (List.append_nil _).symm
    exact (conclude_heard htermination hreaped).add [.settled after.id (failureOf drained)] rfl
      (List.append_nil _).symm
  | @record run error => exact h.add [.recorded error] rfl (List.append_nil _).symm
  | compact => exact h
  | clear => exact h

theorem Moves.heard {first last : Moment κ (Recorded W)}
    (hmoves : Moves (setting.within Recorded.part setting.hooks.recording) first last)
    (h : Heard setting.hooks first.run) : Heard setting.hooks last.run := by
  induction hmoves with
  | refl => exact h
  | tail _ hmove ih => exact hmove.heard ih

/-! ## What no hook judges -/

/-- An event that judges without a hook judges as the policy does. -/
def ByPolicy (setting : RunSetting κ W) : RunEvent → Prop
  | .judged _ termination verdict =>
    setting.hooks.judges termination = false → verdict = setting.options.policy.verdict termination
  | _ => True

theorem conclude_byPolicy {run : Run κ W} {task : Task κ} {termination : Termination}
    (htermination : task.termination = some termination) (h : ∀ event ∈ run.history, ByPolicy setting event) :
    ∀ event ∈ (run.conclude setting task).history, ByPolicy setting event := by
  cases hverdict : setting.hooks.terminated setting.options.policy task run.world with
  | mk verdict w =>
    have hjudged : ∀ event ∈ (run.judge task.id termination verdict w).history, ByPolicy setting event := by
      refine List.forall_mem_cons.2 ⟨fun hnone => ?_, List.forall_mem_cons.2 ⟨trivial, h⟩⟩
      exact Hooks.terminated_of_judges_eq_false htermination hnone hverdict
    rw [conclude_eq htermination hverdict]
    split
    · exact List.forall_mem_cons.2 ⟨trivial, hjudged⟩
    · exact hjudged

theorem Move.byPolicy {first last : Moment κ W} (hmove : Move setting first last)
    (h : ∀ event ∈ first.run.history, ByPolicy setting event) :
    ∀ event ∈ last.run.history, ByPolicy setting event := by
  cases hmove with
  | refuse | accept => exact List.forall_mem_cons.2 ⟨trivial, List.forall_mem_cons.2 ⟨trivial, h⟩⟩
  | watch | watchFail | readFail | abandon | leave | lose | record =>
    exact List.forall_mem_cons.2 ⟨trivial, h⟩
  | wake | skip | read | readRest | compact | clear => exact h
  | @settle run task termination between v drained after w hreap hclose =>
    have htermination : after.termination = some termination :=
      (Task.finishIfRunning_keeps hclose).2.trans (Task.reap_termination hreap)
    have hreaped : ∀ event ∈ ((run.inWorld w).note (.reaped after.id termination)).history,
        ByPolicy setting event := List.forall_mem_cons.2 ⟨trivial, h⟩
    exact List.forall_mem_cons.2 ⟨trivial, conclude_byPolicy htermination hreaped⟩

theorem Moves.byPolicy {first last : Moment κ W} (hmoves : Moves setting first last)
    (h : ∀ event ∈ first.run.history, ByPolicy setting event) :
    ∀ event ∈ last.run.history, ByPolicy setting event := by
  induction hmoves with
  | refl => exact h
  | tail _ hmove ih => exact hmove.byPolicy ih

end Run

namespace Queue

variable {κ W : Type}

/-- The calls that are made on the hooks of the run of a local queue, in order, as far as the run comes. -/
def hookCalls (queue : Queue κ) (host : Host W) (hooks : Hooks κ W) (fuel : Nat) (w : W) : List HookCall :=
  (queue.reached (host.within Recorded.part) hooks.recording fuel ⟨w, []⟩).world.calls

/-- Recording does not disturb a run. -/
theorem reached_recording (queue : Queue κ) (host : Host W) (hooks : Hooks κ W) (fuel : Nat) (w : W) :
    (queue.reached (host.within Recorded.part) hooks.recording fuel ⟨w, []⟩).view Recorded.part =
      queue.reached host hooks fuel w :=
  reached_within Recorded.part_lawful hooks.recording_over queue host fuel ⟨w, []⟩

/-- The hooks that are there are called for the events of a run, in order, and for nothing else. -/
theorem hookCalls_eq (queue : Queue κ) (host : Host W) (hooks : Hooks κ W) (fuel : Nat) (w : W) :
    queue.hookCalls host hooks fuel w = (queue.events host hooks fuel w).filterMap hooks.call? := by
  obtain ⟨phase, hmoves⟩ := queue.reached_moves (host.within Recorded.part) hooks.recording fuel ⟨w, []⟩
  have hmoves' : Run.Moves ((queue.setting host hooks fuel).within Recorded.part hooks.recording)
      ⟨.admitting, .start queue.pending ⟨w, []⟩⟩
      ⟨phase, queue.reached (host.within Recorded.part) hooks.recording fuel ⟨w, []⟩⟩ := hmoves
  have hheard : Run.Heard hooks (queue.reached (host.within Recorded.part) hooks.recording fuel ⟨w, []⟩) :=
    Run.Moves.heard hmoves' rfl
  have hsame := congrArg Run.history (queue.reached_recording host hooks fuel w)
  rw [hookCalls, hheard, events, ← hsame]
  rfl

/-- What no hook judges is judged by the policy. -/
theorem judged_by_policy {queue : Queue κ} {host : Host W} {hooks : Hooks κ W} {fuel : Nat} {w : W}
    {id : TaskId} {termination : Termination} {verdict : Verdict}
    (h : .judged id termination verdict ∈ queue.events host hooks fuel w)
    (hnone : hooks.judges termination = false) : verdict = queue.options.policy.verdict termination := by
  obtain ⟨phase, hmoves⟩ := queue.reached_moves host hooks fuel w
  exact hmoves.byPolicy (fun _ hmem => absurd hmem List.not_mem_nil) _ (List.mem_reverse.1 h) hnone

end Queue

end BatchRunner
