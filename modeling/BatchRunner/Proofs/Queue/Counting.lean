import BatchRunner.Proofs.Queue.Reached

/-!
# What is counted in a run

The counts of a run agree with its history: `launched` with how many processes were started, and
`peakExecuting` with the most tasks that were ever alive at once (`MostAlive`). The second needs every part of
the history, since a task may be started and leave between two counts; the count is made at the only event
after which more tasks are alive than before.
-/

namespace BatchRunner

namespace RunEvent

/-- So many tasks were alive after some of the events, and never more. -/
def MostAlive (events : List RunEvent) (count : Nat) : Prop :=
  (∀ before after, events = before ++ after → (alive before).length ≤ count) ∧
    ∃ before after, events = before ++ after ∧ (alive before).length = count

variable {events : List RunEvent} {count : Nat}

theorem mostAlive_nil : MostAlive [] 0 := by
  refine ⟨fun before after h => ?_, [], [], rfl, rfl⟩
  rw [(List.append_eq_nil_iff.1 h.symm).1]
  exact Nat.le_refl 0

/-- A further event raises the count to the number of tasks alive after it, if that is more. -/
theorem MostAlive.snoc (h : MostAlive events count) (event : RunEvent) :
    MostAlive (events ++ [event]) (max count (alive (events ++ [event])).length) := by
  obtain ⟨hle, before, after, hsplit, hcount⟩ := h
  refine ⟨fun before after heq => ?_, ?_⟩
  · rcases List.eq_nil_or_concat after with rfl | ⟨after, last, rfl⟩
    · rw [List.append_nil] at heq
      rw [heq]
      exact Nat.le_max_right ..
    · rw [List.concat_eq_append, ← List.append_assoc] at heq
      have hbefore := hle before after (List.append_inj' heq rfl).1
      exact Nat.le_trans hbefore (Nat.le_max_left ..)
  · rcases Nat.le_total (alive (events ++ [event])).length count with hmore | hmore
    · rw [Nat.max_eq_left hmore]
      exact ⟨before, after ++ [event], by rw [hsplit, List.append_assoc], hcount⟩
    · rw [Nat.max_eq_right hmore]
      exact ⟨events ++ [event], [], (List.append_nil _).symm, rfl⟩

theorem MostAlive.alive_le (h : MostAlive events count) : (alive events).length ≤ count :=
  h.1 events [] (List.append_nil _).symm

/-- Only the start of a process can raise the count. -/
theorem MostAlive.quiet {event : RunEvent} (h : MostAlive events count) (hquiet : event.spawned? = none) :
    MostAlive (events ++ [event]) count := by
  have hfewer : (nextAlive (alive events) event).length ≤ (alive events).length := by
    cases event with
    | spawned id => cases hquiet
    | retiring id => exact List.length_filter_le ..
    | _ => exact Nat.le_refl _
  have hsnoc := h.snoc event
  rw [alive_append_singleton, Nat.max_eq_left (Nat.le_trans hfewer h.alive_le)] at hsnoc
  exact hsnoc

end RunEvent

namespace Run

variable {κ W : Type} {setting : RunSetting κ W} {tasks : List (Task κ)}

/-- The counts of a run agree with its history. -/
structure Counted (run : Run κ W) : Prop where
  launched : run.stats.launched = (run.history.reverse.filterMap RunEvent.spawned?).length
  peak : RunEvent.MostAlive run.history.reverse run.stats.peakExecuting

/-- An event that starts no process leaves the counts as they are. -/
theorem Counted.quiet {run run' : Run κ W} {event : RunEvent} (h : Counted run)
    (hquiet : event.spawned? = none) (hhistory : run'.history = event :: run.history)
    (hlaunched : run'.stats.launched = run.stats.launched)
    (hpeak : run'.stats.peakExecuting = run.stats.peakExecuting) : Counted run' where
  launched := by
    rw [hlaunched, hhistory, List.reverse_cons, List.filterMap_append, h.launched]
    simp [hquiet]
  peak := by
    rw [hpeak, hhistory, List.reverse_cons]
    exact h.peak.quiet hquiet

/-- The start of a process adds one to the count of those that were started. -/
theorem Counted.enter {run : Run κ W} {task : Task κ} {rest : List (Task κ)} {w : W} (h : Counted run)
    (halive : RunEvent.alive run.history.reverse = run.ids) (hnew : task.id ∉ run.ids) :
    Counted (((run.pop rest w).tell setting task).enter task) where
  launched := by
    have hlaunched := h.launched
    simp [Run.enter, tell, note, pop, hlaunched, RunEvent.spawned?]
  peak := by
    have hids : (((run.pop rest w).tell setting task).enter task).ids = run.ids ++ [task.id] :=
      ids_enter ((run.pop rest w).tell setting task) hnew
    have hlength : (((run.pop rest w).tell setting task).enter task).executing.length =
        (RunEvent.alive (run.history.reverse ++ [.spawned task.id])).length := by
      rw [RunEvent.alive_append_singleton, halive, RunEvent.nextAlive, ← hids, ids, List.length_map]
    have hspawned := h.peak.snoc (.spawned task.id)
    rw [← hlength] at hspawned
    have hbegan := hspawned.quiet (show (RunEvent.began task.id).spawned? = none from rfl)
    simpa [Run.enter, tell, note, pop] using hbegan

theorem conclude_counted (setting : RunSetting κ W) {run : Run κ W} {task : Task κ} (h : Counted run) :
    Counted (run.conclude setting task) := by
  unfold conclude
  split
  · exact h
  · next termination _ =>
    dsimp only
    cases setting.hooks.terminated setting.options.policy task run.world with
    | mk verdict w =>
      have hreported : Counted
          (({ run with stats := countEnd run.stats termination, world := w } : Run κ W).note
            (.reported task.id)) := by
        cases termination with
        | exited code => exact h.quiet rfl rfl rfl rfl
        | signalled signal => exact h.quiet rfl rfl rfl rfl
      have hjudged : Counted (run.judge task.id termination verdict w) := hreported.quiet rfl rfl rfl rfl
      dsimp only
      split
      · exact hjudged.quiet rfl rfl rfl rfl
      · exact hjudged

theorem Move.counted {first last : Moment κ W} {limit : Nat} (hids : (tasks.map (·.id)).Nodup)
    (hmove : Move setting first last) (htracked : Tracked tasks limit first) (h : Counted first.run) :
    Counted last.run := by
  obtain ⟨watched, -, trail⟩ := htracked
  cases hmove with
  | @refuse run task rest error after w hroom hpending hcall =>
    have hfailed : Counted ((run.pop rest w).note (.spawnFailed after.id error)) := h.quiet rfl rfl rfl rfl
    exact hfailed.quiet rfl rfl rfl rfl
  | @accept run task rest after w hroom hpending hcall =>
    have hnew : after.id ∉ run.ids :=
      not_mem_ids_of_pending hids hpending (Task.execute_request hcall) trail
    exact h.enter trail.alive_eq hnew
  | watch | watchFail | readFail | abandon | leave | lose | record => exact h.quiet rfl rfl rfl rfl
  | wake | skip | read | readRest | compact | clear => exact ⟨h.launched, h.peak⟩
  | @settle run task termination between v drained after w hreap hclose =>
    have hreaped : Counted ((run.inWorld w).note (.reaped after.id termination)) := h.quiet rfl rfl rfl rfl
    exact (conclude_counted setting hreaped).quiet rfl rfl rfl rfl

theorem Moves.counted {first last : Moment κ W} (hids : (tasks.map (·.id)).Nodup)
    (hmoves : Moves setting first last) (hsound : Sound tasks first)
    (htracked : Tracked tasks setting.options.effectiveParallelism first) (h : Counted first.run) :
    Counted last.run := by
  induction hmoves with
  | refl => exact h
  | tail hbefore hmove ih => exact hmove.counted hids (Moves.tracked hids hbefore hsound htracked).2 ih

end Run

namespace Queue

variable {κ W : Type} {queue : Queue κ}

/-- The counts of a run of a queue agree with its history, however far it came. -/
theorem reached_counted (hids : (queue.pending.map (·.id)).Nodup) (host : Host W) (hooks : Hooks κ W)
    (fuel : Nat) (w : W) : (queue.reached host hooks fuel w).Counted := by
  obtain ⟨phase, hmoves⟩ := queue.reached_moves host hooks fuel w
  exact hmoves.counted hids (Run.sound_start w) (Run.tracked_start _ w) ⟨rfl, RunEvent.mostAlive_nil⟩

end Queue

end BatchRunner
