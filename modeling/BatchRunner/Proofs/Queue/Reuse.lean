import BatchRunner.Proofs.Queue.Unbroken

/-!
# Queues are as new after each batch

A queue that is used again and again keeps from call to call, besides what is queued, the tasks that execute and the
numbers of their processes, and a batch begins with whatever of them an earlier one left (`Queue.InUse`). Every batch
that comes to an end leaves none: a run ends with no task executing, whether it succeeded, was stopped or had to be
aborted. So after any history of calls a batch runs as on a queue that was just created, for any host and any hooks
(`Queue.executes_as_new`).
-/

namespace BatchRunner.Queue

variable {κ V W : Type}

/-! ## A queue in use -/

/-- What a queue keeps from one call to the next. -/
structure InUse (κ : Type) where
  queue : Queue κ
  /-- The tasks that execute. -/
  executing : List (TaskId × Task κ)

/-- A call on a queue. -/
inductive Use (κ W : Type) where
  | offer (offer : Offer κ)
  | execute (host : Host W) (hooks : Hooks κ W) (fuel : Nat) (w : W)

namespace InUse

/-- A queue that was just created. -/
def create (kind : RunnerKind) (options : QueueOptions) (source : EnvironmentSource) : InUse κ :=
  ⟨.create kind options source, []⟩

/-- The queue after tasks were offered to it in order. -/
def offerAll (used : InUse κ) (offers : List (Offer κ)) : InUse κ :=
  { used with queue := used.queue.offerAll offers }

/-- A run that is about to begin, with the tasks and the numbers that were left. -/
def start (used : InUse κ) (w : W) : Run κ W :=
  { Run.start used.queue.pending w with executing := used.executing, pids := used.queue.pids }

/-- The run of the tasks of a local queue. -/
def runLocally (used : InUse κ) (host : Host W) (hooks : Hooks κ W) (fuel : Nat) (w : W) :
    Except (Interrupted κ W) (Run κ W) :=
  (used.start w).complete (used.queue.setting host hooks fuel) fuel

/-- Runs the tasks of a queue, and gives what came of it with the tasks that execute then. -/
def execute (used : InUse κ) (host : Host W) (hooks : Hooks κ W) (fuel : Nat) (w : W) :
    Except Halt (BatchOutcome κ W × List (TaskId × Task κ)) :=
  match used.queue.kind with
  | .localProcesses =>
    match used.runLocally host hooks fuel w with
    | .ok run => .ok (used.queue.outcome run, run.executing)
    | .error interrupted => .error interrupted.halt
  | .dryRun => (used.queue.executeDry host.now hooks w).map fun outcome => (outcome, used.executing)

/-- The queue after a call, if that comes to an end. -/
def use (used : InUse κ) : Use κ W → Except Halt (InUse κ)
  | .offer offer => .ok { used with queue := used.queue.offer offer }
  | .execute host hooks fuel w => do
    let (outcome, executing) ← used.execute host hooks fuel w
    return ⟨outcome.queue, executing⟩

/-- The queue after some calls. -/
def useAll (used : InUse κ) (uses : List (Use κ W)) : Except Halt (InUse κ) := uses.foldlM use used

end InUse

/-- What was offered since the last batch, given what had been offered before. -/
def Use.waiting (offers : List (Offer κ)) : List (Use κ W) → List (Offer κ)
  | [] => offers
  | .offer next :: uses => waiting (offers ++ [next]) uses
  | .execute .. :: uses => waiting [] uses

theorem Use.waiting_cons (offers : List (Offer κ)) (use : Use κ W) (uses : List (Use κ W)) :
    waiting offers (use :: uses) = waiting (waiting offers [use]) uses := by
  cases use <;> rfl

/-! ## The counts of an earlier batch -/

/-- The queue with other counts. -/
def withStats (queue : Queue κ) (stats : BatchStats) : Queue κ := { queue with stats }

theorem outcome_withStats (queue : Queue κ) (stats : BatchStats) (run : Run κ W) :
    (queue.withStats stats).outcome run = queue.outcome run := rfl

theorem executeDry_withStats (queue : Queue κ) (stats : BatchStats) (now : W → Nat) (hooks : Hooks κ W) (w : W) :
    (queue.withStats stats).executeDry now hooks w = queue.executeDry now hooks w := rfl

theorem offerAll_withStats (queue : Queue κ) (stats : BatchStats) (offers : List (Offer κ)) :
    (queue.withStats stats).offerAll offers = (queue.offerAll offers).withStats stats := by
  rw [offerAll_eq, offerAll_eq]
  rfl

theorem execute_of_local {queue : Queue κ} (h : queue.kind = .localProcesses) (host : Host W) (hooks : Hooks κ W)
    (fuel : Nat) (w : W) : queue.execute host hooks fuel w = queue.executeLocally host hooks fuel w := by
  rw [execute, h]

theorem execute_of_dryRun {queue : Queue κ} (h : queue.kind = .dryRun) (host : Host W) (hooks : Hooks κ W)
    (fuel : Nat) (w : W) : queue.execute host hooks fuel w = queue.executeDry host.now hooks w := by
  rw [execute, h]

/-- A batch leaves a queue empty, with counts of its own. -/
theorem queue_of_execute {queue : Queue κ} {host : Host W} {hooks : Hooks κ W} {fuel : Nat} {w : W}
    {outcome : BatchOutcome κ W} (h : queue.execute host hooks fuel w = .ok outcome) :
    outcome.queue = (create queue.kind queue.options queue.source).withStats outcome.queue.stats := by
  cases hkind : queue.kind with
  | localProcesses =>
    rw [execute_of_local hkind] at h
    rw [(runLocally_of_executeLocally h).2, ← hkind]
    rfl
  | dryRun =>
    rw [execute_of_dryRun hkind] at h
    obtain ⟨last, -, hlast⟩ := except_bind_ok.1 h
    cases hlast
    rw [← hkind]
    rfl

/-! ## Nothing is left -/

namespace InUse

variable {new : Queue κ} {used after : InUse κ}

/-- A queue in use that differs from another, of which no process has a number, in the counts of its last batch
only. -/
structure Like (new : Queue κ) (used : InUse κ) : Prop where
  executing : used.executing = []
  queue : used.queue = new.withStats used.queue.stats
  pids : new.pids = []

theorem like_create (kind : RunnerKind) (options : QueueOptions) (source : EnvironmentSource) :
    Like (.create kind options source) (create kind options source : InUse κ) := ⟨rfl, rfl, rfl⟩

theorem Like.offerAll (h : used.Like new) (offers : List (Offer κ)) :
    (used.offerAll offers).Like (new.offerAll offers) := by
  have hqueue : used.queue.offerAll offers = (new.offerAll offers).withStats used.queue.stats :=
    (congrArg (·.offerAll offers) h.queue).trans (offerAll_withStats ..)
  have hstats : (used.queue.offerAll offers).stats = used.queue.stats := by
    rw [hqueue]
    rfl
  refine ⟨h.executing, ?_, ?_⟩
  · show used.queue.offerAll offers = (new.offerAll offers).withStats (used.queue.offerAll offers).stats
    rw [hstats]
    exact hqueue
  · rw [offerAll_eq]
    exact h.pids

/-- Runs of like queues begin alike, so both go the same way. -/
theorem Like.runLocally (h : used.Like new) (host : Host W) (hooks : Hooks κ W) (fuel : Nat) (w : W) :
    used.runLocally host hooks fuel w = new.runLocally host hooks fuel w := by
  have hpids : used.queue.pids = [] := by
    rw [h.queue]
    exact h.pids
  have hstart : used.start w = Run.start used.queue.pending w := by
    rw [start, h.executing, hpids]
    rfl
  rw [InUse.runLocally, hstart, h.queue]
  rfl

/-- Batches of like queues come to the same, and leave no task executing. -/
theorem Like.execute (h : used.Like new) (host : Host W) (hooks : Hooks κ W) (fuel : Nat) (w : W) :
    used.execute host hooks fuel w = (new.execute host hooks fuel w).map (·, []) := by
  have hkind : used.queue.kind = new.kind := by
    rw [h.queue]
    rfl
  unfold InUse.execute
  cases hnew : new.kind with
  | localProcesses =>
    rw [hkind, hnew, execute_of_local hnew, executeLocally]
    dsimp only
    -- One run is enough: it is that of both queues, and where it ends no task executes.
    rw [h.runLocally]
    have hleads := new.runLocally_leads host hooks fuel w
    cases hrun : new.runLocally host hooks fuel w with
    | error interrupted => rfl
    | ok run =>
      rw [hrun] at hleads
      obtain ⟨last, -, -, hended⟩ := hleads
      dsimp only
      rw [h.queue, outcome_withStats, hended.executing]
      rfl
  | dryRun =>
    rw [hkind, hnew, execute_of_dryRun hnew]
    dsimp only
    rw [h.queue, executeDry_withStats, h.executing]

variable {kind : RunnerKind} {options : QueueOptions} {source : EnvironmentSource} {offers : List (Offer κ)}

/-- A queue in use is like a new one to which the tasks were offered that wait, and a call leaves it so. -/
theorem Like.use {use : Use κ W} (h : used.Like ((Queue.create kind options source).offerAll offers))
    (huse : used.use use = .ok after) :
    after.Like ((Queue.create kind options source).offerAll (Use.waiting offers [use])) := by
  cases use with
  | offer offer =>
    cases huse
    rw [Use.waiting, Use.waiting, Queue.offerAll, List.foldl_append]
    exact h.offerAll [offer]
  | execute host hooks fuel w =>
    obtain ⟨⟨outcome, executing⟩, hexecute, hafter⟩ := except_bind_ok.1 huse
    rw [h.execute] at hexecute
    cases houtcome : ((Queue.create kind options source).offerAll offers).execute host hooks fuel w with
    | error halt =>
      rw [houtcome] at hexecute
      cases hexecute
    | ok outcome' =>
      rw [houtcome] at hexecute
      cases hexecute
      cases hafter
      have hqueue := queue_of_execute houtcome
      rw [offerAll_eq] at hqueue
      exact ⟨rfl, hqueue, rfl⟩

/-- So do any calls. -/
theorem Like.useAll {uses : List (Use κ W)} (h : used.Like ((Queue.create kind options source).offerAll offers))
    (huses : used.useAll uses = .ok after) :
    after.Like ((Queue.create kind options source).offerAll (Use.waiting offers uses)) := by
  induction uses generalizing used offers with
  | nil =>
    cases huses
    exact h
  | cons use uses ih =>
    obtain ⟨between, huse, hrest⟩ := except_bind_ok.1 huses
    rw [Use.waiting_cons]
    exact ih (h.use huse) hrest

end InUse

/-- Batches do not leak into each other. After any calls on a queue that came to an end, no task executes and no
process has a number; and a batch of what was offered since the last one goes as it would on a new queue. It takes the
same run, as far as that comes, and if it ends it gives the same result, counts, history and world, and leaves no task
executing. The hooks may remember in the world whatever they are called with, so they are called the same way. -/
theorem executes_as_new (kind : RunnerKind) (options : QueueOptions) (source : EnvironmentSource)
    (uses : List (Use κ W)) (used : InUse κ) (h : (InUse.create kind options source).useAll uses = .ok used)
    (offers : List (Offer κ)) :
    let new := (create kind options source).offerAll (Use.waiting [] uses ++ offers)
    (used.executing = [] ∧ ∀ pid, used.queue.taskForPid pid = none) ∧
      ∀ (V : Type) (host : Host V) (hooks : Hooks κ V) (fuel : Nat) (v : V),
        (used.offerAll offers).runLocally host hooks fuel v = new.runLocally host hooks fuel v ∧
          (used.offerAll offers).execute host hooks fuel v = (new.execute host hooks fuel v).map (·, []) := by
  intro new
  have hcreated : InUse.Like ((create kind options source).offerAll []) (InUse.create kind options source : InUse κ) :=
    InUse.like_create kind options source
  have hused : used.Like ((create kind options source).offerAll (Use.waiting [] uses)) := hcreated.useAll h
  have hoffered : (used.offerAll offers).Like new := by
    rw [show new = _ from List.foldl_append]
    exact hused.offerAll offers
  refine ⟨⟨hused.executing, fun pid => ?_⟩, fun V host hooks fuel v => ⟨?_, ?_⟩⟩
  · rw [taskForPid, hused.queue, withStats, hused.pids]
    rfl
  · exact hoffered.runLocally host hooks fuel v
  · exact hoffered.execute host hooks fuel v

/-- Three batches of three tasks each. The first succeeds, the second is stopped by a verdict, and the third is aborted
because nothing can be waited for, read or learnt. -/
def threeBatches : List (Use Nat Nat) :=
  (threeOffers 0).map .offer ++ [.execute (Host.prompt fun _ => .ok 0) .plain 9 0] ++
    (threeOffers 3).map .offer ++ [.execute (Host.prompt fun _ => .ok 1) .plain 9 0] ++
    (threeOffers 6).map .offer ++ [.execute faultyHost .plain 4 0]

/-- After these the next batch runs as on a new queue, though the last one left counts of its own. -/
theorem executes_as_new_of_three :
    ∃ used, (InUse.create .localProcesses ⟨2, false, .strict⟩ .ambient).useAll threeBatches = .ok used ∧
      used.queue.stats = ⟨2, 0, 0, 1, 2⟩ ∧ used.executing = [] ∧
      (used.offerAll (threeOffers 9)).execute (Host.prompt fun _ => .ok 0) .plain 9 0 =
        (((create .localProcesses ⟨2, false, .strict⟩ .ambient).offerAll (threeOffers 9)).execute
          (Host.prompt fun _ => .ok 0) .plain 9 0).map (·, []) := by
  have hstats : ((InUse.create .localProcesses ⟨2, false, .strict⟩ .ambient).useAll threeBatches).toOption.map
      (·.queue.stats) = some ⟨2, 0, 0, 1, 2⟩ := by decide +kernel
  cases hused : (InUse.create .localProcesses ⟨2, false, .strict⟩ .ambient).useAll threeBatches with
  | error halt =>
    rw [hused] at hstats
    cases hstats
  | ok used =>
    rw [hused] at hstats
    obtain ⟨⟨hnone, -⟩, hruns⟩ :=
      executes_as_new .localProcesses ⟨2, false, .strict⟩ .ambient threeBatches used hused (threeOffers 9)
    have hrun := hruns Nat (Host.prompt fun _ => .ok 0) .plain 9 0
    exact ⟨used, rfl, Option.some.inj hstats, hnone, hrun.2⟩

end BatchRunner.Queue
