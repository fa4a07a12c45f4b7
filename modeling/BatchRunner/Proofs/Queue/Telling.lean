import BatchRunner.Proofs.Host.Prompt
import BatchRunner.Proofs.Queue.Learning
import BatchRunner.Proofs.Queue.Recording
import BatchRunner.Proofs.Queue.Story

/-!
# Every task is told of once

The caller is told of a task whose process was started that it began, once; if the end of the process was
learnt, then also that it ended, once, and at once the end is judged, once, by the hook for that way to end
or by the policy. Of other tasks the caller is told nothing. What the hooks are told of an end is what the bits of
the status say that the wait for the process gave. This holds of the hooks as they are called (`Queue.told_once`), in
runs that end and in those that are interrupted.
-/

namespace BatchRunner

/-- The task that a call of a hook is about. -/
def HookCall.task : HookCall → TaskId
  | began id | finished id _ _ | signalled id _ _ | reported id => id

/-- The calls of hooks that are about a task, in order. -/
def HookCall.about (id : TaskId) (calls : List HookCall) : List HookCall :=
  calls.filter (·.task == id)

/-- The end that a call of a hook tells of, with the task. -/
def HookCall.ending? : HookCall → Option (TaskId × Termination)
  | finished id code _ => some (id, .exited code)
  | signalled id signal _ => some (id, .signalled signal)
  | began _ | reported _ => none

theorem Hooks.told?_of_call? {κ W : Type} {hooks : Hooks κ W} {event : RunEvent} {call : HookCall}
    (h : hooks.call? event = some call) : event.told? = some call.task := by
  unfold call? at h
  split at h <;> simp_all [RunEvent.told?]
  all_goals
    obtain ⟨-, rfl⟩ := h
    rfl

theorem Hooks.eq_reported_of_call? {κ W : Type} {hooks : Hooks κ W} {event : RunEvent} {id : TaskId}
    (h : hooks.call? event = some (.reported id)) : event = .reported id := by
  unfold call? at h
  split at h <;> simp_all

/-- The hook for an end is called when that end is judged. -/
theorem Hooks.judged_of_call? {κ W : Type} {hooks : Hooks κ W} {event : RunEvent} {call : HookCall} {id : TaskId}
    {termination : Termination} (h : hooks.call? event = some call) (hending : call.ending? = some (id, termination)) :
    ∃ verdict, event = .judged id termination verdict := by
  unfold call? at h
  split at h
  case h_1 | h_2 =>
    obtain ⟨-, hcall⟩ := Option.ite_none_right_eq_some.1 h
    cases hcall
    cases hending
  case h_3 | h_4 =>
    obtain ⟨-, hcall⟩ := Option.ite_none_right_eq_some.1 h
    cases hcall
    cases hending
    exact ⟨_, rfl⟩
  case h_5 => cases h

/-- The calls about a task are made for what the caller is told of it. -/
theorem Hooks.about_filterMap_call? {κ W : Type} (hooks : Hooks κ W) (id : TaskId) (events : List RunEvent) :
    HookCall.about id (events.filterMap hooks.call?) =
      (RunEvent.tellings id events).filterMap hooks.call? := by
  induction events with
  | nil => rfl
  | cons event events ih =>
    cases hcall : hooks.call? event with
    | none =>
      rw [List.filterMap_cons_none hcall, ih, RunEvent.tellings, RunEvent.tellings, List.filter_cons]
      split
      · rw [List.filterMap_cons_none hcall]
      · rfl
    | some call =>
      have htold := told?_of_call? hcall
      rw [List.filterMap_cons_some hcall, HookCall.about, List.filter_cons, ← HookCall.about, ih,
        RunEvent.tellings, RunEvent.tellings, List.filter_cons, htold]
      by_cases heq : call.task = id
      · simp [heq, hcall]
      · simp [heq]

/-- What a history tells the caller of tasks. -/
structure ToldOnce (events : List RunEvent) : Prop where
  /-- A report is followed at once by the judgement of the end that was learnt. -/
  judged_next : ∀ before id after, events = before ++ .reported id :: after →
    ∃ termination verdict rest, after = .judged id termination verdict :: rest ∧
      .reaped id termination ∈ before
  /-- Of a task whose process was not started nothing is told. -/
  not_spawned : ∀ id, .spawned id ∉ events → RunEvent.tellings id events = []
  /-- Of a task whose end was learnt it is told once that it began, once that it ended, and it is judged
  once. -/
  reaped : ∀ id termination, .reaped id termination ∈ events →
    ∃ verdict, RunEvent.tellings id events = [.began id, .reported id, .judged id termination verdict]
  /-- Of a task whose end was not learnt it is told once that it began. -/
  not_reaped : ∀ id, .spawned id ∈ events → (∀ termination, .reaped id termination ∉ events) →
    RunEvent.tellings id events = [.began id]
  /-- A process that could not be started was not started. -/
  spawnFailed : ∀ id error, .spawnFailed id error ∈ events → .spawned id ∉ events
  /-- An end that could not be learnt was not learnt. -/
  lost : ∀ id error cut, .lost id error cut ∈ events →
    .spawned id ∈ events ∧ ∀ termination, .reaped id termination ∉ events

namespace Ledger

variable {κ : Type} {tasks : List (Task κ)} {limit : Nat} {first last : Ledger} {ids : List TaskId}
  {events : List RunEvent}

/-- An end that is to be reported was learnt. -/
theorem Trail.reaped_of_report {id : TaskId} {termination : Termination}
    (h : Trail tasks limit (start ids) events last) (hduty : last.duty = .report id termination) :
    .reaped id termination ∈ events := by
  cases h with
  | nil => cases hduty
  | snoc trail step =>
    cases step with
    | reaped =>
      cases hduty
      simp
    | @settled queued alive held id' cut => cases cut <;> cases hduty
    | _ => cases hduty

/-- A report is followed by a judgement, unless the run is at the point in between. -/
theorem Trail.judged_next (h : Trail tasks limit (start ids) events last)
    (hduty : ∀ id termination, last.duty ≠ .judge id termination) {before after : List RunEvent} {id : TaskId}
    (hevents : events = before ++ .reported id :: after) :
    ∃ termination verdict rest, after = .judged id termination verdict :: rest ∧
      .reaped id termination ∈ before := by
  subst hevents
  obtain ⟨ledger, next, hbefore, hstep, hafter⟩ := h.at
  cases hstep with
  | @reported queued alive held _ termination =>
    have hreaped : .reaped id termination ∈ before := hbefore.reaped_of_report rfl
    cases after with
    | nil =>
      obtain rfl := hafter.nil_inv
      exact absurd rfl (hduty id termination)
    | cons event rest =>
      obtain ⟨ledger, hstep, -⟩ := hafter.cons_inv
      cases hstep with
      | passed => exact ⟨termination, .proceed, rest, rfl, hreaped⟩
      | stopped => exact ⟨termination, .stop, rest, rfl, hreaped⟩

end Ledger

/-- At a moment of a run nothing is owed to a task but to learn its end. So nothing was told of it and it was
not started; or it was told that it began, and its end was not learnt; or all was told. -/
theorem Life.told_cases {κ : Type} {id : TaskId} {life : Life} {phase : Run.Phase κ}
    (h : life.Owes id phase.duty) :
    (life.isSpawned = false ∧ life.termination? = none ∧ life.told id = []) ∨
      (life.isSpawned = true ∧ life.termination? = none ∧ life.told id = [.began id]) ∨
      ∃ termination verdict, life.isSpawned = true ∧ life.termination? = some termination ∧
        life.told id = [.began id, .reported id, .judged id termination verdict] := by
  cases life with
  | queued | refused => exact .inl ⟨rfl, rfl, rfl⟩
  | running | parted | lost => exact .inr (.inl ⟨rfl, rfl, rfl⟩)
  | settled termination verdict => exact .inr (.inr ⟨termination, verdict, rfl, rfl, rfl⟩)
  | spawned | reaped | reported => cases phase <;> cases h
  | judged termination verdict => cases phase <;> rcases h with h | ⟨error, h⟩ <;> cases h

/-- The histories of runs tell of every task once. -/
theorem Queue.events_toldOnce {κ W : Type} {queue : Queue κ} (hids : (queue.pending.map (·.id)).Nodup)
    (host : Host W) (hooks : Hooks κ W) (fuel : Nat) (w : W) :
    ToldOnce (queue.events host hooks fuel w) := by
  obtain ⟨phase, watched, trail⟩ := reached_trail hids host hooks fuel w
  refine ⟨fun before id after hevents => ?_, fun id hspawned => ?_, fun id termination hreaped => ?_,
    fun id hspawned hreaped => ?_, fun id error hfailed => ?_, fun id error cut hlost => ?_⟩
  · refine trail.judged_next (fun id termination hduty => ?_) hevents
    cases phase <;> cases hduty
  all_goals obtain ⟨life, story, hstands⟩ := trail.story hids id
  · rw [story.spawned_mem_iff] at hspawned
    rw [story.tellings_eq]
    rcases Life.told_cases hstands.owes with ⟨-, -, htold⟩ | ⟨hsome, -, -⟩ | ⟨_, _, hsome, -, -⟩
    · exact htold
    · exact absurd hsome hspawned
    · exact absurd hsome hspawned
  · rw [story.reaped_mem_iff] at hreaped
    rw [story.tellings_eq]
    rcases Life.told_cases hstands.owes with
      ⟨-, hnone, -⟩ | ⟨-, hnone, -⟩ | ⟨learnt, verdict, -, hlearnt, htold⟩
    · cases hnone.symm.trans hreaped
    · cases hnone.symm.trans hreaped
    · cases hlearnt.symm.trans hreaped
      exact ⟨verdict, htold⟩
  · simp only [story.reaped_mem_iff] at hreaped
    rw [story.spawned_mem_iff] at hspawned
    rw [story.tellings_eq]
    rcases Life.told_cases hstands.owes with ⟨hnone, -, -⟩ | ⟨-, -, htold⟩ | ⟨learnt, _, -, hlearnt, -⟩
    · cases hnone.symm.trans hspawned
    · exact htold
    · exact absurd hlearnt (hreaped learnt)
  · rw [story.spawned_mem_iff, story.spawnFailed_mem_iff.1 ⟨error, hfailed⟩]
    exact Bool.false_ne_true
  · obtain rfl := story.lost_mem_iff.1 ⟨error, cut, hlost⟩
    refine ⟨story.spawned_mem_iff.2 rfl, fun termination hreaped => ?_⟩
    cases story.reaped_mem_iff.1 hreaped

/-- Only an end that was learnt is judged. -/
theorem ToldOnce.reaped_of_judged {events : List RunEvent} (h : ToldOnce events) {id : TaskId}
    {termination : Termination} {verdict : Verdict} (hjudged : .judged id termination verdict ∈ events) :
    .reaped id termination ∈ events := by
  have htold : .judged id termination verdict ∈ RunEvent.tellings id events := by
    rw [RunEvent.tellings, List.mem_filter]
    exact ⟨hjudged, by simp [RunEvent.told?]⟩
  by_cases hspawned : .spawned id ∈ events
  · by_cases hnone : ∀ learnt, .reaped id learnt ∉ events
    · rw [h.not_reaped id hspawned hnone] at htold
      simp at htold
    · obtain ⟨learnt, hlearnt⟩ := not_forall_not.1 hnone
      obtain ⟨other, hall⟩ := h.reaped id learnt hlearnt
      rw [hall] at htold
      obtain ⟨rfl, -⟩ : termination = learnt ∧ verdict = other := by simpa using htold
      exact hlearnt
  · rw [h.not_spawned id hspawned] at htold
    cases htold

/-- What a hook is told of an end was learnt. -/
theorem ToldOnce.reaped_of_call {κ W : Type} {hooks : Hooks κ W} {events : List RunEvent} (h : ToldOnce events)
    {call : HookCall} (hcall : call ∈ events.filterMap hooks.call?) {id : TaskId} {termination : Termination}
    (hending : call.ending? = some (id, termination)) : .reaped id termination ∈ events := by
  obtain ⟨event, hevent, hcall⟩ := List.mem_filterMap.1 hcall
  obtain ⟨verdict, rfl⟩ := Hooks.judged_of_call? hcall hending
  exact h.reaped_of_judged hevent

/-- A call that reports a task is followed at once by the call of the hook for its end, if there is one. -/
theorem ToldOnce.call_next {κ W : Type} {hooks : Hooks κ W} {events : List RunEvent} (h : ToldOnce events)
    {before after : List HookCall} {id : TaskId}
    (hcalls : events.filterMap hooks.call? = before ++ .reported id :: after) :
    ∃ termination verdict rest, .reaped id termination ∈ events ∧
      after = (hooks.call? (.judged id termination verdict)).toList ++ rest := by
  obtain ⟨early, late, rfl, -, hlate⟩ := List.filterMap_eq_append_iff.1 hcalls
  obtain ⟨silent, event, rest, rfl, -, hevent, rfl⟩ := List.filterMap_eq_cons_iff.1 hlate
  obtain rfl : event = .reported id := Hooks.eq_reported_of_call? hevent
  obtain ⟨termination, verdict, rest', rfl, hreaped⟩ := h.judged_next (early ++ silent) id rest (by simp)
  refine ⟨termination, verdict, rest'.filterMap hooks.call?, ?_, ?_⟩
  · rw [← List.append_assoc]
    exact List.mem_append_left _ hreaped
  · cases hcall : hooks.call? (.judged id termination verdict) <;> simp [hcall]

namespace Queue

variable {κ W : Type} {queue : Queue κ} {host : Host W} {hooks : Hooks κ W} {fuel : Nat} {w : W}
  {outcome : BatchOutcome κ W}

/-- The process of a task that is still queued was not started. -/
theorem not_spawned_of_pending (hids : (queue.pending.map (·.id)).Nodup) {task : Task κ}
    (h : task ∈ (queue.reached host hooks fuel w).pending) :
    .spawned task.id ∉ queue.events host hooks fuel w := by
  obtain ⟨phase, watched, trail⟩ := reached_trail hids host hooks fuel w
  obtain ⟨life, story, hstands⟩ := trail.story hids task.id
  obtain rfl := hstands.queued (List.mem_map_of_mem h)
  rw [story.spawned_mem_iff]
  simp [Life.isSpawned]

/-- In a run that has ended, the end of every process was learnt, or it was tried to learn it. -/
theorem reaped_or_lost (hids : (queue.pending.map (·.id)).Nodup)
    (h : queue.executeLocally host hooks fuel w = .ok outcome) {id : TaskId}
    (hspawned : .spawned id ∈ queue.events host hooks fuel w) :
    (∃ termination, .reaped id termination ∈ queue.events host hooks fuel w) ∨
      ∃ error cut, .lost id error cut ∈ queue.events host hooks fuel w := by
  obtain ⟨⟨watched, trail⟩, -⟩ := ended_trail hids h
  obtain ⟨life, story, -, halive, howes⟩ := trail.story hids id
  rw [story.spawned_mem_iff] at hspawned
  simp only [story.reaped_mem_iff]
  rw [story.lost_mem_iff]
  cases life <;> simp_all [Life.isSpawned, Life.isAlive, Life.termination?, Life.Owes]

/-- Every task whose process was started is told of once: that it began and, if its end was learnt, that it
ended, followed at once by one judgement. Nothing is told of other tasks. The code or the signal that a hook is told
is what the bits of the status say that the host answered to the wait for the process of that task, and a batch that
ends has told what came of every such wait. -/
theorem told_once (hids : (queue.pending.map (·.id)).Nodup) (host : Host W) (hooks : Hooks κ W) (fuel : Nat)
    (w : W) :
    let events := queue.events host hooks fuel w
    let calls := queue.hookCalls host hooks fuel w
    calls = events.filterMap hooks.call? ∧ ToldOnce events ∧
      (∀ id, HookCall.about id calls = (RunEvent.tellings id events).filterMap hooks.call?) ∧
      (∀ before id after, calls = before ++ .reported id :: after →
        ∃ termination verdict rest, .reaped id termination ∈ events ∧
          after = (hooks.call? (.judged id termination verdict)).toList ++ rest) ∧
      (∀ id termination verdict, .judged id termination verdict ∈ events →
        hooks.judges termination = false → verdict = queue.options.policy.verdict termination) ∧
      (∀ id termination, .reaped id termination ∈ events → queue.Learns host hooks fuel w id termination) ∧
      (∀ id error cut, .lost id error cut ∈ events → queue.Loses host hooks fuel w id error) ∧
      (∀ id code verdict, .finished id code verdict ∈ calls → queue.Learns host hooks fuel w id (.exited code)) ∧
      (∀ id signal verdict, .signalled id signal verdict ∈ calls →
        queue.Learns host hooks fuel w id (.signalled signal)) ∧
      (∀ task ∈ (queue.reached host hooks fuel w).pending, .spawned task.id ∉ events) ∧
      ∀ outcome, queue.executeLocally host hooks fuel w = .ok outcome →
        outcome.history = events ∧
        (∀ id, .spawned id ∈ events →
          (∃ termination, .reaped id termination ∈ events) ∨ ∃ error cut, .lost id error cut ∈ events) ∧
        ∀ id pid found, queue.Waited host hooks fuel w id pid found →
          ∃ event ∈ events, event.TellsWait id pid found := by
  intro events calls
  have htold : ToldOnce events := events_toldOnce hids host hooks fuel w
  have hcalls : calls = events.filterMap hooks.call? := queue.hookCalls_eq host hooks fuel w
  refine ⟨hcalls, htold, fun id => ?_, fun before id after heq => ?_,
    fun id termination verdict hjudged hnone => judged_by_policy hjudged hnone,
    fun id termination hreaped => learns_of_events hreaped, fun id error cut hlost => loses_of_events hlost,
    fun id code verdict hcall => ?_, fun id signal verdict hcall => ?_,
    fun task hpending => not_spawned_of_pending hids hpending,
    fun outcome hok => ⟨history_of_executeLocally hok, fun id hspawned => reaped_or_lost hids hok hspawned,
      fun id pid found hwaited => told_of_waited hok hwaited⟩⟩
  · rw [hcalls]
    exact hooks.about_filterMap_call? id events
  · exact htold.call_next (hcalls.symm.trans heq)
  · exact learns_of_events (htold.reaped_of_call (hcalls ▸ hcall) rfl)
  · exact learns_of_events (htold.reaped_of_call (hcalls ▸ hcall) rfl)

/-- Of three tasks, two at once, the first exits, the end of the second cannot be learnt, and the third is
dropped. -/
theorem told_once_of_lost :
    let queue := Queue.plain 2 ["first", "second", "third"]
    let host := Host.prompt fun pid => if pid = 2 then .error (.kind .deadlock) else .ok 0
    let calls := queue.hookCalls host .plain 9 0
    (queue.pending.map (·.id)).Nodup ∧ ToldOnce (queue.events host .plain 9 0) ∧
      HookCall.about (.ofNat 0) calls =
        [.began (.ofNat 0), .reported (.ofNat 0), .finished (.ofNat 0) 0 .proceed] ∧
      HookCall.about (.ofNat 1) calls = [.began (.ofNat 1)] ∧ HookCall.about (.ofNat 2) calls = [] ∧
      queue.Learns host .plain 9 0 (.ofNat 0) (.exited 0) ∧
      (∃ error, queue.Loses host .plain 9 0 (.ofNat 1) error) ∧
      ∃ outcome, queue.executeLocally host .plain 9 0 = .ok outcome ∧
        outcome.history = queue.events host .plain 9 0 ∧
        ((∃ termination, .reaped (.ofNat 1) termination ∈ queue.events host .plain 9 0) ∨
          ∃ error cut, .lost (.ofNat 1) error cut ∈ queue.events host .plain 9 0) := by
  intro queue host calls
  have hids : (queue.pending.map (·.id)).Nodup := by decide
  have hok : queue.executeLocally host .plain 9 0 = .ok (queue.outcome (queue.reached host .plain 9 0)) :=
    executeLocally_of_isOk (by decide +kernel)
  have hspawned : .spawned (.ofNat 1) ∈ queue.events host .plain 9 0 := by decide +kernel
  have hcalled : .finished (.ofNat 0) 0 .proceed ∈ calls := by decide +kernel
  have hlost : .lost (.ofNat 1) (.wait 2 (.kind .deadlock)) none ∈ queue.events host .plain 9 0 := by decide +kernel
  obtain ⟨-, htold, -, -, -, -, hloses, hlearns, -, -, hended⟩ := told_once hids host .plain 9 0
  obtain ⟨hhistory, hends, -⟩ := hended _ hok
  exact ⟨hids, htold, by decide +kernel, by decide +kernel, by decide +kernel, hlearns _ _ _ hcalled,
    ⟨_, hloses _ _ _ hlost⟩, _, hok, hhistory, hends (.ofNat 1) hspawned⟩

end Queue

end BatchRunner
