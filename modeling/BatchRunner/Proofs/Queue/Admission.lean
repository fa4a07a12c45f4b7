import BatchRunner.Proofs.Queue.Closing
import BatchRunner.Proofs.Queue.Counting

/-!
# Tasks are started in the order in which they were added

Tasks are offered to a queue one after the other, and some are refused; a refused one leaves the queue as it
is. A run starts a first part of the accepted tasks, in order, and stops starting them for good with the
first failure. The tasks that were alive then are still taken out and come to their ends
(`Queue.started_in_order`).
-/

namespace BatchRunner

/-- What a caller offers to a queue. -/
structure Offer (κ : Type) where
  id : TaskId
  spec : TaskSpec
  context : κ
  now : Nat

/-- Whether a queue takes what is offered: its environment entries are of the right form. -/
def Offer.isAccepted {κ : Type} (offer : Offer κ) : Bool :=
  match Environment.validate offer.spec.env with
  | .ok () => true
  | .error _ => false

/-- The task that a call of a hook says to have begun. -/
def HookCall.began? : HookCall → Option TaskId
  | began id => some id
  | _ => none

theorem Hooks.filterMap_began? {κ W : Type} {hooks : Hooks κ W} (h : hooks.began.isSome = true)
    (events : List RunEvent) :
    (events.filterMap hooks.call?).filterMap HookCall.began? = events.filterMap RunEvent.began? := by
  rw [List.filterMap_filterMap]
  refine List.filterMap_congr fun event _ => ?_
  cases event with
  | began id => simp [call?, h, HookCall.began?, RunEvent.began?]
  | reported id => by_cases hreported : hooks.reported.isSome <;>
      simp [call?, hreported, HookCall.began?, RunEvent.began?]
  | judged id termination verdict =>
    cases termination with
    | exited code => by_cases hfinished : hooks.finished.isSome <;>
        simp [call?, hfinished, HookCall.began?, RunEvent.began?]
    | signalled signal => by_cases hsignalled : hooks.signalled.isSome <;>
        simp [call?, hsignalled, HookCall.began?, RunEvent.began?]
  | _ => rfl

namespace Queue

variable {κ W : Type}

/-- The queue with more tasks at its end. -/
def append (queue : Queue κ) (tasks : List (Task κ)) : Queue κ := { queue with pending := queue.pending ++ tasks }

theorem append_append (queue : Queue κ) (tasks more : List (Task κ)) :
    (queue.append tasks).append more = queue.append (tasks ++ more) := by
  simp [append]

/-- A queue takes exactly the tasks whose environment entries are of the right form. -/
theorem add_eq_ok_iff {queue queue' : Queue κ} {id : TaskId} {spec : TaskSpec} {context : κ} {now : Nat} :
    queue.add id spec context now = .ok queue' ↔ Environment.validate spec.env = .ok () ∧
      queue' = queue.append [.queued id spec context queue.options.separateErrors now] := by
  unfold add
  rw [except_bind_ok]
  constructor
  · rintro ⟨task, htask, hqueue⟩
    obtain ⟨hvalid, rfl⟩ := Task.create_eq_ok_iff.1 htask
    cases hqueue
    exact ⟨hvalid, rfl⟩
  · rintro ⟨hvalid, rfl⟩
    exact ⟨_, Task.create_eq_ok_iff.2 ⟨hvalid, rfl⟩, rfl⟩

/-- The queue after a task was offered to it. -/
def offer (queue : Queue κ) (offer : Offer κ) : Queue κ :=
  match queue.add offer.id offer.spec offer.context offer.now with
  | .ok queue => queue
  | .error _ => queue

/-- The queue after tasks were offered to it in order. -/
def offerAll (queue : Queue κ) (offers : List (Offer κ)) : Queue κ := offers.foldl Queue.offer queue

/-- The tasks that are queued after tasks were offered: those that were, then the accepted ones in order. -/
def accepted (queue : Queue κ) (offers : List (Offer κ)) : List TaskId :=
  queue.pending.map (·.id) ++ (offers.filter (·.isAccepted)).map (·.id)

theorem pending_offer (queue : Queue κ) (offer : Offer κ) :
    (queue.offer offer).pending.map (·.id) = queue.accepted [offer] := by
  unfold Queue.offer add Task.create accepted
  cases hvalid : Environment.validate offer.spec.env with
  | error error => simp [Offer.isAccepted, hvalid, bind, Except.bind]
  | ok _ => simp [Offer.isAccepted, hvalid, bind, Except.bind, pure, Except.pure]

theorem pending_offerAll (queue : Queue κ) (offers : List (Offer κ)) :
    (queue.offerAll offers).pending.map (·.id) = queue.accepted offers := by
  induction offers generalizing queue with
  | nil => simp [offerAll, accepted]
  | cons offer offers ih =>
    rw [offerAll, List.foldl_cons, ← offerAll, ih, accepted, pending_offer, accepted, accepted,
      List.append_assoc, ← List.map_append, ← List.filter_append]
    rfl

/-- A task that is refused leaves the queue as it is. -/
theorem offer_of_refused {queue : Queue κ} {offer : Offer κ} (h : offer.isAccepted = false) :
    queue.offer offer = queue := by
  unfold Offer.isAccepted at h
  unfold Queue.offer add Task.create
  cases hvalid : Environment.validate offer.spec.env with
  | error error => rfl
  | ok _ =>
    rw [hvalid] at h
    cases h

variable {queue : Queue κ} {host : Host W} {hooks : Hooks κ W} {fuel : Nat} {w : W}
  {outcome : BatchOutcome κ W}

/-- In a run that ends, a task that is alive at some point is taken out after it, and comes to its end: it is
reaped and reported, or its end cannot be learnt. -/
theorem retired_after (hids : (queue.pending.map (·.id)).Nodup)
    (h : queue.executeLocally host hooks fuel w = .ok outcome) {before after : List RunEvent} {id : TaskId}
    (hevents : queue.events host hooks fuel w = before ++ after) (hid : id ∈ RunEvent.alive before) :
    .retiring id ∈ after ∧ ((∃ termination, .reaped id termination ∈ after ∧ .reported id ∈ after) ∨
      ∃ error cut, .lost id error cut ∈ after) := by
  obtain ⟨⟨watched, trail⟩, -⟩ := ended_trail hids h
  obtain ⟨between, hbefore, hafter⟩ := trail.split hevents
  rw [hbefore.alive_eq] at hid
  refine ⟨hafter.retiring_of_alive hid List.not_mem_nil, ?_⟩
  obtain ⟨life, story, hstands⟩ := hbefore.story hids id
  obtain ⟨hstarted, hnotReaped, hnotReported, hnotLost⟩ := story.of_isAlive (hstands.alive.1 hid)
  -- what is known of the whole run and not before this point happened after it
  have hlater : ∀ {event}, event ∈ queue.events host hooks fuel w → event ∉ before → event ∈ after := by
    intro event hmem hnew
    rw [hevents] at hmem
    exact (List.mem_append.1 hmem).resolve_left hnew
  have hspawned : .spawned id ∈ queue.events host hooks fuel w := by
    rw [hevents]
    exact List.mem_append_left _ hstarted
  rcases reaped_or_lost hids h hspawned with ⟨termination, hreaped⟩ | ⟨error, cut, hlost⟩
  · have hreported : .reported id ∈ queue.events host hooks fuel w := by
      obtain ⟨verdict, htellings⟩ := (events_toldOnce hids host hooks fuel w).reaped id termination hreaped
      have hmem : .reported id ∈ RunEvent.tellings id (queue.events host hooks fuel w) := by simp [htellings]
      exact List.mem_of_mem_filter hmem
    exact .inl ⟨termination, hlater hreaped (hnotReaped termination), hlater hreported hnotReported⟩
  · exact .inr ⟨error, cut, hlater hlost (hnotLost error cut)⟩

/-- The tasks that begin are the first of the accepted ones, in order, as many as are counted as launched; at
most one more is taken from the queue, because it cannot be started. After the first failure none is started,
and those that were alive still come to their ends. -/
theorem started_in_order (queue : Queue κ) (offers : List (Offer κ)) (hids : (queue.accepted offers).Nodup)
    (host : Host W) (hooks : Hooks κ W) (fuel : Nat) (w : W) :
    let batch := queue.offerAll offers
    let run := batch.reached host hooks fuel w
    let events := batch.events host hooks fuel w
    (∀ offer, offer.isAccepted = false → queue.offer offer = queue) ∧
      batch.pending.map (·.id) = queue.accepted offers ∧
      events.filterMap RunEvent.began? = (queue.accepted offers).take run.stats.launched ∧
      (hooks.began.isSome = true → (batch.hookCalls host hooks fuel w).filterMap HookCall.began? =
        (queue.accepted offers).take run.stats.launched) ∧
      (events.filterMap RunEvent.began? ++ events.filterMap RunEvent.refused? ++ run.pending.map (·.id) =
        queue.accepted offers ∧ (events.filterMap RunEvent.refused?).length ≤ 1) ∧
      (∀ before event after, events = before ++ event :: after →
        event.isFailure = true ∨ event.recorded?.isSome = true →
          ∀ later ∈ after, later.attempted? = none ∧ later.began? = none) ∧
      ∀ outcome, batch.executeLocally host hooks fuel w = .ok outcome →
        outcome.history = events ∧ outcome.queue.stats.launched = run.stats.launched ∧
          ∀ before after, events = before ++ after → ∀ id ∈ RunEvent.alive before,
            .retiring id ∈ after ∧ ((∃ termination, .reaped id termination ∈ after ∧ .reported id ∈ after) ∨
              ∃ error cut, .lost id error cut ∈ after) := by
  intro batch run events
  have haccepted : batch.pending.map (·.id) = queue.accepted offers := queue.pending_offerAll offers
  rw [← haccepted] at hids
  obtain ⟨phase, watched, trail⟩ := reached_trail hids host hooks fuel w
  have hbegan : events.filterMap RunEvent.began? = events.filterMap RunEvent.spawned? := by
    have hnone : phase.duty.begin? = none := by cases phase <;> rfl
    have hsame := trail.began_append_begin
    rw [show (Run.Moment.ledger ⟨phase, run⟩ watched).duty.begin? = none from hnone] at hsame
    simpa using hsame
  obtain ⟨hattempted, hrefused⟩ := trail.attempted_eq
  have hsplit : events.filterMap RunEvent.began? ++ events.filterMap RunEvent.refused? ++
      run.pending.map (·.id) = queue.accepted offers := by
    rw [hbegan, ← hattempted, ← haccepted]
    exact trail.attempted_append_queued
  have hlaunched : events.filterMap RunEvent.began? = (queue.accepted offers).take run.stats.launched := by
    rw [(reached_counted hids host hooks fuel w).launched, ← hsplit, List.append_assoc]
    exact (List.take_left' (congrArg List.length hbegan)).symm
  refine ⟨fun offer => offer_of_refused, haccepted, hlaunched, fun hhook => ?_, ⟨hsplit, ?_⟩,
    fun before event after hevents hclosing => ?_, fun outcome hok => ⟨history_of_executeLocally hok, ?_,
    fun before after hevents id hid => retired_after hids hok hevents hid⟩⟩
  · rw [hookCalls_eq, Hooks.filterMap_began? hhook]
    exact hlaunched
  · rcases hrefused with hnil | ⟨hone, -⟩
    · rw [hnil]
      exact Nat.zero_le 1
    · exact Nat.le_of_eq hone
  · rw [show batch.events host hooks fuel w = before ++ event :: after from hevents] at trail
    exact trail.quiet_after hclosing
  · rw [(runLocally_of_executeLocally hok).2]
    rfl

/-- Of four tasks the second is refused and the third cannot be started; the fourth stays in the queue, and
the first comes to its end. -/
theorem started_in_order_of_refused :
    let queue : Queue Unit := .plain 2 []
    let offers : List (Offer Unit) := [⟨.ofNat 0, { program := "first" }, (), 0⟩,
      ⟨.ofNat 1, { program := "second", env := ["no value"] }, (), 0⟩, ⟨.ofNat 2, { program := "" }, (), 0⟩,
      ⟨.ofNat 3, { program := "fourth" }, (), 0⟩]
    let host := Host.prompt fun _ => .ok 0
    let batch := queue.offerAll offers
    let run := batch.reached host .plain 9 0
    (queue.accepted offers).Nodup ∧ batch.executeLocally host .plain 9 0 = .ok (batch.outcome run) ∧
      run.stats.launched = 1 ∧
      (batch.hookCalls host .plain 9 0).filterMap HookCall.began? = (queue.accepted offers).take 1 ∧
      run.pending.map (·.id) = [.ofNat 3] ∧ .retiring (.ofNat 0) ∈ batch.events host .plain 9 0 := by
  intro queue offers host batch run
  have hids : (queue.accepted offers).Nodup := by decide
  have hok : batch.executeLocally host .plain 9 0 = .ok (batch.outcome run) :=
    executeLocally_of_isOk (by decide +kernel)
  obtain ⟨-, -, -, hcalls, -, -, hended⟩ := started_in_order queue offers hids host .plain 9 0
  obtain ⟨-, -, hretired⟩ := hended _ hok
  have halive : .ofNat 0 ∈ RunEvent.alive ((batch.events host .plain 9 0).take 2) := by decide +kernel
  have hretiring := (hretired _ _ (List.take_append_drop 2 _).symm _ halive).1
  have hlaunched : run.stats.launched = 1 := by decide +kernel
  exact ⟨hids, hok, hlaunched, hlaunched ▸ hcalls rfl, by decide +kernel, List.mem_of_mem_drop hretiring⟩

end Queue

end BatchRunner
