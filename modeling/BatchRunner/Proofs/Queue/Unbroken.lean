import BatchRunner.Proofs.Queue.Rehearsing
import BatchRunner.Proofs.Queue.Tracking
import BatchRunner.Proofs.Task.Unbroken

/-!
# No rule is broken

A queue never makes a call on a task that breaks a rule (`Queue.execute_breaks_no_rule`). What a run needs for that is
little: queued tasks were not started, and executing ones were started and not reaped (`Run.Orderly`). The order is
broken in one place only, between the failure to read a task to the end and its leaving: it is finished then, with its
pipes closed (`Run.OrderlyBut`).
-/

namespace BatchRunner

variable {κ W : Type} {host : Host W} {fuel : Nat} {w : W}

theorem ReadinessSet.wait_unbroken (set : ReadinessSet) : Unbroken (set.wait host fuel w) := by
  induction fuel generalizing w with
  | zero => exact .outOfFuel
  | succ fuel ih =>
    rw [wait]
    split
    · exact .ok _
    · split
      · exact .stalled
      · exact .ok _
      · split
        · exact ih
        · exact .ok _

/-! ## Runs in order -/

namespace Run

variable {setting : RunSetting κ W} {run : Run κ W} {id : TaskId} {task : Task κ}

/-- A function of the control loop that breaks no rule, and ends as stated if it ends. -/
def Safely {α : Type} (result : Except (Interrupted κ W) α) (there : α → Prop) : Prop :=
  match result with
  | .ok a => there a
  | .error interrupted => ∀ violation, interrupted.halt ≠ .violation violation

namespace Safely

variable {α β : Type} {there : α → Prop} {beyond : β → Prop}

theorem ok {a : α} (h : there a) : Safely (.ok a : Except (Interrupted κ W) α) there := h

theorem of_ok {result : Except (Interrupted κ W) α} {a : α} (h : Safely result there) (hresult : result = .ok a) :
    there a := by
  rw [hresult] at h
  exact h

theorem bind {result : Except (Interrupted κ W) α} {f : α → Except (Interrupted κ W) β}
    (h : Safely result there) (hf : ∀ a, there a → Safely (f a) beyond) : Safely (result >>= f) beyond := by
  cases result with
  | ok a => exact hf a h
  | error interrupted => exact h

theorem await {call : Except Halt α} {f : α → Except (Interrupted κ W) β} (h : Unbroken call)
    (hf : ∀ a, call = .ok a → Safely (f a) beyond) : Safely (run.await call >>= f) beyond := by
  cases call with
  | ok a => exact hf a rfl
  | error halt =>
    intro violation hhalt
    exact h violation (congrArg Except.error hhalt)

end Safely

/-- Queued tasks were not started, and executing ones are active. -/
structure Orderly (run : Run κ W) : Prop where
  pending : ∀ task ∈ run.pending, task.state = .preparing ∧ task.termination = none
  executing : ∀ entry ∈ run.executing, entry.2.Active

/-- A run in order but for the task under one identifier, which may be finished already. -/
structure OrderlyBut (id : TaskId) (run : Run κ W) : Prop where
  pending : ∀ task ∈ run.pending, task.state = .preparing ∧ task.termination = none
  executing : ∀ entry ∈ run.executing, entry.2.Active ∨ entry.1 = id ∧ entry.2.Leavable

theorem Orderly.of_executing? (h : run.Orderly) (hsome : run.executing? id = some task) : task.Active :=
  h.executing _ (mem_executing_of_executing? hsome)

theorem Orderly.but (h : run.Orderly) (id : TaskId) : run.OrderlyBut id :=
  ⟨h.pending, fun entry hmem => .inl (h.executing entry hmem)⟩

theorem Orderly.update (h : run.Orderly) {after : Task κ} (hafter : after.Active) (w : W) :
    ((run.inWorld w).update id after).Orderly := by
  refine ⟨h.pending, fun entry hmem => ?_⟩
  rcases mem_update hmem with rfl | ⟨hold, -⟩
  · exact hafter
  · exact h.executing entry hold

theorem Orderly.update_but (h : run.Orderly) {after : Task κ} (hafter : after.Leavable) (w : W) :
    ((run.inWorld w).update id after).OrderlyBut id := by
  refine ⟨h.pending, fun entry hmem => ?_⟩
  rcases mem_update hmem with rfl | ⟨hold, -⟩
  · exact .inr ⟨rfl, hafter⟩
  · exact .inl (h.executing entry hold)

theorem OrderlyBut.of_executing? (h : run.OrderlyBut id) (hsome : run.executing? id = some task) :
    task.Leavable := by
  rcases h.executing _ (mem_executing_of_executing? hsome) with hactive | ⟨-, hleavable⟩
  · exact hactive.leavable
  · exact hleavable

/-- Once the one task has left, the run is in order. -/
theorem OrderlyBut.leave (h : run.OrderlyBut id) (task : Task κ) : (run.leave id task).Orderly := by
  refine ⟨h.pending, fun entry hmem => ?_⟩
  obtain ⟨hold, hother⟩ := List.mem_filter.1 hmem
  rcases h.executing entry hold with hactive | ⟨hid, -⟩
  · exact hactive
  · simp [hid] at hother

theorem OrderlyBut.orderly_of_none (h : run.OrderlyBut id) (hnone : run.executing? id = none) : run.Orderly := by
  refine ⟨h.pending, fun entry hmem => ?_⟩
  rcases h.executing entry hmem with hactive | ⟨hid, -⟩
  · exact hactive
  · have hids : entry.1 ∈ run.ids := List.mem_map_of_mem hmem
    exact absurd (hid ▸ hids) (executing?_eq_none_iff.1 hnone)

theorem Orderly.conclude (h : run.Orderly) (setting : RunSetting κ W) (task : Task κ) :
    (run.conclude setting task).Orderly := by
  obtain ⟨hpending, hexecuting⟩ :
      (run.conclude setting task).pending = run.pending ∧ (run.conclude setting task).executing = run.executing :=
    conclude_keeps run task
  exact ⟨hpending ▸ h.pending, hexecuting ▸ h.executing⟩

/-! ## The control loop -/

/-- A queued task may be started, and is active from then on. -/
theorem launch_safely (h : run.Orderly) {rest : List (Task κ)} (hpending : run.pending = task :: rest) :
    Safely (run.launch setting task rest) Orderly := by
  have hfirst : task ∈ run.pending := hpending ▸ List.mem_cons_self
  obtain ⟨hstate, htermination⟩ := h.pending task hfirst
  have hrest : ∀ other ∈ rest, other.state = .preparing ∧ other.termination = none :=
    fun other hmem => h.pending other (hpending ▸ List.mem_cons_of_mem _ hmem)
  refine .await (Task.execute_unbroken hstate) fun ⟨result, after, w⟩ hcall => ?_
  cases result with
  | error error => exact .ok ⟨hrest, h.executing⟩
  | ok _ =>
    refine .ok ⟨hrest, fun entry hmem => ?_⟩
    rcases List.mem_append.1 hmem with hold | hnew
    · exact h.executing entry (List.mem_filter.1 hold).1
    · obtain rfl := List.mem_singleton.1 hnew
      exact Task.execute_active htermination hcall

theorem launchAll_safely (fuel : Nat) (h : run.Orderly) : Safely (run.launchAll setting fuel) Orderly := by
  induction fuel generalizing run with
  | zero => exact .ok h
  | succ fuel ih =>
    unfold launchAll
    split
    · split
      · exact .ok h
      · next task rest hpending => exact (launch_safely h hpending).bind fun run' h' => ih h'
    · exact .ok h

/-- A task in hand may be reaped and done with, and none of its pipes is open then. -/
theorem settle_safely (h : run.Orderly) (htask : task.Leavable) :
    Safely (run.settle setting task) fun result => result.2.Orderly := by
  refine .await (Task.reap_unbroken htask) fun ⟨reaped, between, v⟩ hreap => ?_
  refine .await (Task.finishIfRunning_unbroken _) fun ⟨drained, after, w⟩ hfinish => ?_
  have hclosed : after.hasOpenPipes = false := Task.finishIfRunning_closes htask hreap hfinish
  dsimp only
  rw [if_neg (by simp [hclosed])]
  cases reaped with
  | error error => exact .ok ⟨h.pending, h.executing⟩
  | ok termination =>
    have hreaped : ((run.inWorld w).note (.reaped after.id termination)).Orderly := ⟨h.pending, h.executing⟩
    obtain ⟨hpending, hexecuting⟩ := hreaped.conclude setting after
    exact .ok ⟨hpending, hexecuting⟩

theorem retire_safely (h : run.OrderlyBut id) :
    Safely (run.retire setting id) fun result => result.2.Orderly := by
  unfold retire
  split
  · next hnone => exact .ok (h.orderly_of_none hnone)
  · next task hsome => exact settle_safely (h.leave task) (h.of_executing? hsome)

theorem readNow_safely (h : run.Orderly) (htask : task.Active) :
    Safely (run.readNow setting id task) fun result => result.2.Orderly := by
  refine .await (Task.readAvailable_unbroken _) fun ⟨ended, after, w⟩ hcall => ?_
  have hupdated : ((run.inWorld w).update id after).Orderly :=
    h.update (Task.readAvailable_active htask hcall) w
  cases ended with
  | error error => exact .ok ⟨hupdated.pending, hupdated.executing⟩
  | ok ended => exact .ok hupdated

theorem listen_safely (h : run.Orderly) (htask : task.Active) (event : ReadyEvent) :
    Safely (run.listen setting event task) fun result => result.2.Orderly := by
  unfold listen
  split
  · exact readNow_safely h htask
  · exact .ok h

theorem service_safely (h : run.Orderly) (event : ReadyEvent) :
    Safely (run.service setting event) fun result => result.2.Orderly := by
  unfold service
  split
  · exact .ok ⟨h.pending, h.executing⟩
  · next task hsome =>
    refine (listen_safely h (h.of_executing? hsome) event).bind fun ⟨ended, run'⟩ h' => ?_
    cases ended with
    | error error => exact .ok h'
    | ok ended =>
      dsimp only
      split
      · exact retire_safely ⟨h'.pending, (h'.but event.owner).executing⟩
      · exact .ok h'

theorem serviceAll_safely (events : List ReadyEvent) (h : run.Orderly) :
    Safely (run.serviceAll setting events) fun result => result.2.Orderly := by
  induction events generalizing run with
  | nil => exact .ok h
  | cons event events ih =>
    unfold serviceAll
    refine (service_safely h event).bind fun answer h' => ?_
    obtain ⟨result, run'⟩ := answer
    cases result with
    | error error => exact .ok h'
    | ok _ => exact ih h'

theorem round_safely (h : run.Orderly) : Safely (run.round setting) fun result => result.2.Orderly := by
  unfold round
  refine (launchAll_safely _ h).bind fun run' h' => ?_
  split
  · exact .ok h'
  · refine .await (ReadinessSet.wait_unbroken _) fun ⟨result, w⟩ _ => ?_
    cases result with
    | error cause => exact .ok ⟨h'.pending, h'.executing⟩
    | ok events =>
      have hwoken : ((run'.note run'.waitingEvent).inWorld w).Orderly := ⟨h'.pending, h'.executing⟩
      refine (serviceAll_safely events hwoken).bind fun ⟨result, run''⟩ h'' => ?_
      cases result with
      | error error => exact .ok ⟨h''.pending, h''.executing⟩
      | ok _ => exact .ok ⟨h''.pending, h''.executing⟩

theorem rounds_safely (fuel : Nat) (h : run.Orderly) : Safely (run.rounds setting fuel) Orderly := by
  induction fuel generalizing run with
  | zero => exact nofun
  | succ fuel ih =>
    unfold rounds
    split
    · refine (round_safely h).bind fun answer h' => ?_
      obtain ⟨failed, run'⟩ := answer
      dsimp only
      split
      · exact .ok h'
      · exact ih h'
    · exact .ok h

/-- Reading a task to the end leaves it finished only if that fails. -/
theorem readRest_safely (h : run.Orderly) (htask : task.Active) :
    Safely (run.readRest setting id task) (OrderlyBut id) := by
  refine .await (Task.readToClose_unbroken _) fun ⟨result, between, v⟩ hread => ?_
  have hbetween : between.Active := Task.readToClose_active htask hread
  cases result with
  | ok _ => exact .ok ((h.update hbetween v).but id)
  | error error =>
    refine .await (Task.finishExecution_unbroken hbetween.state) fun ⟨drained, after, w⟩ hfinish => ?_
    have hupdated : ((run.inWorld w).update id after).OrderlyBut id :=
      h.update_but (Task.finishExecution_leavable hbetween hfinish) w
    exact .ok ⟨hupdated.pending, hupdated.executing⟩

theorem finishOff_safely (h : run.Orderly) (id : TaskId) : Safely (run.finishOff setting id) Orderly := by
  unfold finishOff
  split
  · exact .ok h
  · next task hsome =>
    -- The task may be finished by now, so the run need not be in order until the task has left.
    refine (readRest_safely h (h.of_executing? hsome)).bind fun run' h' => ?_
    refine (retire_safely h').bind fun ⟨result, run''⟩ h'' => ?_
    cases result with
    | error error => exact .ok ⟨h''.pending, h''.executing⟩
    | ok _ => exact .ok h''

theorem finishAll_safely (ids : List TaskId) (h : run.Orderly) : Safely (run.finishAll setting ids) Orderly := by
  induction ids generalizing run with
  | nil => exact .ok h
  | cons id ids ih =>
    unfold finishAll
    exact (finishOff_safely h id).bind fun run' h' => ih h'

/-- A run in order, and if a task is in hand, one that can be reaped and done with. -/
def Point.Orderly : Point κ W → Prop
  | ⟨.retiring task _, run⟩ | ⟨.parting task _, run⟩ => run.Orderly ∧ task.Leavable
  | ⟨_, run⟩ => run.Orderly

/-- Every step of the course keeps the order, and takes only tasks in hand that can be reaped. -/
theorem Step.orderly {first last : Point κ W} (hstep : Step setting first last) (h : first.Orderly) :
    last.Orderly := by
  cases hstep with
  | launch hroom hpending hcall => exact (launch_safely h hpending).of_ok hcall
  | watch | wake | watchFail | compact | skip | abort | pass => exact ⟨h.pending, h.executing⟩
  | readFail hsome hcall =>
    have h' := (listen_safely h (h.of_executing? hsome) _).of_ok hcall
    exact ⟨h'.pending, h'.executing⟩
  | read hsome hcall hmore => exact (listen_safely h (h.of_executing? hsome) _).of_ok hcall
  | @retire run run' event events task ended after hsome hcall hend hafter =>
    have h' : run'.Orderly := (listen_safely h (h.of_executing? hsome) event).of_ok hcall
    have hmarked : (run'.watching (run'.watch.markFinished event.index)).Orderly := ⟨h'.pending, h'.executing⟩
    exact ⟨(hmarked.but event.owner).leave after, (h'.of_executing? hafter).leavable⟩
  | settle hcall | finish hcall => exact (settle_safely h.1 h.2).of_ok hcall
  | settleFail hcall | finishFail hcall =>
    have h' := (settle_safely h.1 h.2).of_ok hcall
    exact ⟨h'.pending, h'.executing⟩
  | part hsome hcall hafter =>
    have h' := (readRest_safely h (h.of_executing? hsome)).of_ok hcall
    exact ⟨h'.leave _, h'.of_executing? hafter⟩

/-- A run that begins in order breaks no rule. -/
theorem complete_safely (fuel : Nat) (h : run.Orderly) : Safely (run.complete setting fuel) Orderly := by
  unfold complete
  refine (rounds_safely fuel h).bind fun run' h' => ?_
  split
  · exact .ok h'
  · exact finishAll_safely _ ⟨h'.pending, h'.executing⟩

end Run

/-! ## Whole queues -/

namespace Queue

/-- What a dry run comes to by listing its first task: the verdict on it, and the run after it. -/
def listing (policy : Policy) (now : W → Nat) (hooks : Hooks κ W) (next : Pid) (task : Task κ) (rest : List (Task κ))
    (run : Run κ W) : Verdict × Run κ W :=
  let began := listed task next (now run.world)
  let told := hooks.tellBegan began run.world
  let ended := delisted began (now told)
  let answer := hooks.terminated policy ended told
  (answer.1, { run with
    pending := rest
    world := answer.2
    stats := { run.stats with
      launched := run.stats.launched + 1
      exited := run.stats.exited + 1
      peakExecuting := 1 }
    history := .judged ended.id (.exited 0) answer.1 :: .reported ended.id :: .began ended.id :: run.history })

/-- A dry run lists a task that was not started, and goes on unless a verdict stops it. -/
theorem listTasks_of_preparing (policy : Policy) (now : W → Nat) (hooks : Hooks κ W) (next : Pid) {run : Run κ W}
    {task : Task κ} {rest : List (Task κ)} (hpending : run.pending = task :: rest)
    (hstate : task.state = .preparing) :
    listTasks policy now hooks next run =
      let (verdict, after) := listing policy now hooks next task rest run
      if verdict.isStop then .ok (after.record (dryStopError task)) else listTasks policy now hooks (next + 1) after := by
  have hbegan : task.simulateStart next (now run.world) = .ok (listed task next (now run.world)) := by
    simp [Task.simulateStart, Task.checkMove, hstate, TaskState.canMoveTo, listed, bind, Except.bind, pure,
      Except.pure]
  have hended : ∀ time, (listed task next (now run.world)).simulateExit time =
      .ok (delisted (listed task next (now run.world)) time) := by
    intro time
    simp [Task.simulateExit, Task.checkMove, TaskState.canMoveTo, listed, delisted, bind, Except.bind, pure,
      Except.pure]
  rw [listTasks_of_cons hpending]
  simp only [hbegan, hended, bind, Except.bind, pure, Except.pure]
  rfl

/-- A dry run lists the first queued task, and ends there or goes on. -/
theorem listTasks_step (policy : Policy) (now : W → Nat) (hooks : Hooks κ W) (next : Pid) {run : Run κ W}
    {task : Task κ} {rest : List (Task κ)} (hpending : run.pending = task :: rest)
    (hstate : task.state = .preparing) :
    ∃ after : Run κ W, after.pending = rest ∧ after.stats.launched = run.stats.launched + 1 ∧
      (listTasks policy now hooks next run = .ok after ∨
        listTasks policy now hooks next run = listTasks policy now hooks (next + 1) after) := by
  rw [listTasks_of_preparing policy now hooks next hpending hstate]
  dsimp only
  split
  · exact ⟨_, rfl, rfl, .inl rfl⟩
  · exact ⟨_, rfl, rfl, .inr rfl⟩

/-- A dry run of tasks that were not started comes to an end. -/
theorem listTasks_ok (policy : Policy) (now : W → Nat) (hooks : Hooks κ W) (next : Pid) (run : Run κ W)
    (h : ∀ task ∈ run.pending, task.state = .preparing) :
    ∃ last, listTasks policy now hooks next run = .ok last ∧
      last.stats.launched + last.pending.length = run.stats.launched + run.pending.length := by
  induction hpending : run.pending generalizing run next with
  | nil =>
    refine ⟨run, listTasks_nil hpending, ?_⟩
    rw [hpending]
  | cons task rest ih =>
    rw [hpending] at h
    obtain ⟨hstate, hrest⟩ := List.forall_mem_cons.1 h
    obtain ⟨after, hafter, hlaunched, hstep⟩ := listTasks_step policy now hooks next hpending hstate
    have hlength : (task :: rest).length = rest.length + 1 := rfl
    rcases hstep with hstop | hgoes
    · refine ⟨after, hstop, ?_⟩
      rw [hafter]
      omega
    · obtain ⟨last, hlast, hcount⟩ := ih (next + 1) after (hafter ▸ hrest) hafter
      refine ⟨last, hgoes.trans hlast, ?_⟩
      omega

/-- The course of a queue of fresh tasks stays in order. -/
theorem OnCourse.orderly {queue : Queue κ} {hooks : Hooks κ W} {point : Run.Point κ W}
    (hfresh : ∀ task ∈ queue.pending, task.Fresh) (h : queue.OnCourse host hooks fuel w point) : point.Orderly := by
  induction h with
  | refl =>
    refine ⟨fun task hmem => ⟨(hfresh task hmem).state, (hfresh task hmem).termination⟩, fun entry hmem => ?_⟩
    exact absurd hmem List.not_mem_nil
  | tail _ hstep ih => exact hstep.orderly ih

theorem executeLocally_unbroken {queue : Queue κ} (hfresh : ∀ task ∈ queue.pending, task.Fresh) (host : Host W)
    (hooks : Hooks κ W) (fuel : Nat) (w : W) : Unbroken (queue.executeLocally host hooks fuel w) := by
  have horderly : (Run.start queue.pending w).Orderly :=
    ⟨fun task hmem => ⟨(hfresh task hmem).state, (hfresh task hmem).termination⟩,
      fun entry hmem => absurd hmem List.not_mem_nil⟩
  have hsafely : Run.Safely (queue.runLocally host hooks fuel w) Run.Orderly := Run.complete_safely fuel horderly
  intro violation herror
  rw [executeLocally] at herror
  split at herror
  · cases herror
  · next interrupted hrun =>
    rw [hrun] at hsafely
    exact hsafely violation (Except.error.inj herror)

/-- A dry run gives an answer, and lists no more tasks than were queued. -/
theorem executeDry_ok {queue : Queue κ} (hfresh : ∀ task ∈ queue.pending, task.Fresh) (now : W → Nat)
    (hooks : Hooks κ W) (w : W) :
    ∃ outcome, queue.executeDry now hooks w = .ok outcome ∧ outcome.queue.stats.launched ≤ queue.pending.length := by
  obtain ⟨last, hlast, hcount⟩ := listTasks_ok queue.options.policy now hooks 1 (.start queue.pending w)
    fun task hmem => (hfresh task hmem).state
  refine ⟨queue.outcome last, ?_, ?_⟩
  · rw [executeDry, hlast]
    rfl
  · have hlaunched : (queue.outcome last).queue.stats.launched = last.stats.launched := rfl
    have hzero : (Run.start queue.pending w).stats.launched = 0 := rfl
    have hall : (Run.start queue.pending w).pending.length = queue.pending.length := rfl
    omega

/-- No queue of either kind breaks a rule, whatever tasks it was offered, and whatever the hooks and the host do: no
task is moved between states that no move connects, finished early, reaped twice or without a process, and none leaves
with a pipe open. A dry run always gives an answer, and if it takes less than `2 ^ 32 - 1` tasks, the number that
follows those it gave to tasks fits a word of 32 bits. -/
theorem execute_breaks_no_rule (kind : RunnerKind) (options : QueueOptions) (source : EnvironmentSource)
    (offers : List (Offer κ)) (host : Host W) (hooks : Hooks κ W) (fuel : Nat) (w : W) :
    let queue := (create kind options source).offerAll offers
    (∀ violation, queue.execute host hooks fuel w ≠ .error (.violation violation)) ∧
      (kind = .dryRun → ∃ outcome, queue.execute host hooks fuel w = .ok outcome ∧
        ((offers.filter (·.isAccepted)).length < Nat.pow 2 32 - 1 →
          outcome.queue.stats.launched + 1 < Nat.pow 2 32)) := by
  intro queue
  have hqueue : queue = (create kind options source).append ((create kind options source).acceptedTasks offers) :=
    offerAll_eq ..
  have hfresh : ∀ task ∈ queue.pending, task.Fresh := by
    rw [hqueue]
    exact fun task hmem => fresh_of_mem_acceptedTasks hmem
  have hlength : queue.pending.length = (offers.filter (·.isAccepted)).length := by
    rw [hqueue]
    exact List.length_map ..
  have hkind : queue.kind = kind := by rw [hqueue]; rfl
  cases kind with
  | localProcesses =>
    have hexecute : queue.execute host hooks fuel w = queue.executeLocally host hooks fuel w := by
      rw [execute, hkind]
    rw [hexecute]
    refine ⟨executeLocally_unbroken hfresh host hooks fuel w, fun hdry => ?_⟩
    cases hdry
  | dryRun =>
    have hexecute : queue.execute host hooks fuel w = queue.executeDry host.now hooks w := by
      rw [execute, hkind]
    obtain ⟨outcome, houtcome, hlaunched⟩ := executeDry_ok hfresh host.now hooks w
    rw [hexecute]
    refine ⟨fun violation herror => ?_, fun _ => ⟨outcome, houtcome, fun hfew => ?_⟩⟩
    · rw [houtcome] at herror
      cases herror
    · omega

/-- A host on which processes start, but nothing can be waited for, read or learnt of them. -/
def faultyHost : Host Nat :=
  let fault : Os.Fault := .kind .other
  { Host.prompt fun _ => .error fault with
    poll := fun _ count => (.fault fault, count)
    read := fun _ _ count => (.fault fault, count) }

/-- Three tasks are taken through every failure at once; two of them are finished before they leave, and the third is
dropped. A dry run of the same tasks gives out three numbers. -/
theorem execute_breaks_no_rule_of_failures :
    let queue := (create .localProcesses ⟨2, false, .strict⟩ .ambient).offerAll (threeOffers 0)
    let dryQueue := (create .dryRun ⟨2, false, .strict⟩ .ambient).offerAll (threeOffers 0)
    (∀ violation, queue.execute faultyHost .plain 4 0 ≠ .error (.violation violation)) ∧
      (∃ outcome, queue.execute faultyHost .plain 4 0 = .ok outcome ∧
        outcome.result = .error (.readiness (.kind .other)) ∧ outcome.queue.stats = ⟨2, 0, 0, 1, 2⟩) ∧
      ((threeOffers 0).filter (·.isAccepted)).length < Nat.pow 2 32 - 1 ∧
      ∃ outcome, dryQueue.execute faultyHost .plain 4 0 = .ok outcome ∧
        outcome.queue.stats.launched + 1 < Nat.pow 2 32 := by
  intro queue dryQueue
  have hunbroken := (execute_breaks_no_rule .localProcesses ⟨2, false, .strict⟩ .ambient (threeOffers 0) faultyHost .plain 4 0).1
  have hdry := (execute_breaks_no_rule .dryRun ⟨2, false, .strict⟩ .ambient (threeOffers 0) faultyHost .plain 4 0).2 rfl
  have hfew : ((threeOffers 0).filter (·.isAccepted)).length < Nat.pow 2 32 - 1 := by decide
  obtain ⟨outcome, houtcome, hfits⟩ := hdry
  refine ⟨hunbroken, ?_, hfew, outcome, houtcome, hfits hfew⟩
  have hok : queue.executeLocally faultyHost .plain 4 0 = .ok (queue.outcome (queue.reached faultyHost .plain 4 0)) :=
    executeLocally_of_isOk (by decide +kernel)
  exact ⟨_, hok, by decide +kernel, by decide +kernel⟩

end Queue

end BatchRunner
