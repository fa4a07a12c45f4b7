import BatchRunner.Proofs.Queue.Following
import BatchRunner.Proofs.Queue.Unbroken
import BatchRunner.Proofs.Task.Answering

/-!
# The control loop comes back

If the calls cease that a run makes where it comes to (**`Queue.Answered`**), every function of the control loop comes
back from a run in order: starting tasks, one round of waiting for output and acting on it (`Queue.round_comesBack`),
and letting tasks run to their ends (`Queue.finishAll_comesBack`). That the rounds come to an end is another matter.

A function may be allowed any number of calls, so the points that matter are those that the course comes to with any
number from some on (**`Queue.Attains`**).
-/

namespace BatchRunner

variable {κ W : Type}

/-- A task that was not started is started, or cannot be. -/
theorem Task.execute_gives {task : Task κ} (hstate : task.state = .preparing) (host : Host W)
    (source : EnvironmentSource) (w : W) : ∃ step, task.execute host source w = .ok step := by
  have hmove : task.checkMove .executing = .ok () := by simp [checkMove, hstate, TaskState.canMoveTo]
  unfold execute
  rw [hmove]
  dsimp only [bind, Except.bind]
  split
  · exact ⟨_, rfl⟩
  · split <;> exact ⟨_, rfl⟩

/-- A call comes back where a function of the control loop makes it, if what follows does. -/
theorem Run.comesBack_await {α β : Type} {run : Run κ W} {call : Nat → Except Halt α}
    {f : Nat → α → Except (Interrupted κ W) β} (h : ComesBack call)
    (hf : ∀ a n, (∀ p, n ≤ p → call p = .ok a) → ComesBack (f · a)) :
    ComesBack fun p => run.await (call p) >>= f p := by
  obtain ⟨a, n, hcall⟩ := h
  have hawait : ComesBack fun p => run.await (call p) := ⟨a, n, fun p hp => congrArg run.await (hcall p hp)⟩
  exact hawait.bind fun a n h => hf a n fun p hp => of_await_ok (h p hp)

namespace Queue

open Run

/-- The calls cease that the runs of a queue make where they come to: each wait for output, which fails or tells of a
descriptor that it can be read or has hung up; what is read of a task, now or up to the end; and the wait for the end of
a process, with what is read after it. -/
structure Answered (queue : Queue κ) (host : Host W) (hooks : Hooks κ W) (w : W) : Prop where
  waiting : ∀ {fuel run}, queue.OnCourse host hooks fuel w ⟨.waiting, run⟩ → run.watch.isEmpty = false →
    Ceases (host.poll run.watch.descriptors) Reply.isInterrupted (Reply.TellsOf run.watch.descriptors.length) run.world
  serving : ∀ {fuel event events run task child}, queue.OnCourse host hooks fuel w ⟨.serving (event :: events), run⟩ →
    event.readable = true → run.executing? event.owner = some task → task.process = some child →
      host.LetsDrain child run.world
  retiring : ∀ {fuel task events run child}, queue.OnCourse host hooks fuel w ⟨.retiring task events, run⟩ →
    task.process = some child → host.LetsReap child run.world
  finishing : ∀ {fuel id ids run task child}, queue.OnCourse host hooks fuel w ⟨.finishing (id :: ids), run⟩ →
    run.executing? id = some task → task.process = some child → host.LetsClose child run.world
  parting : ∀ {fuel task ids run child}, queue.OnCourse host hooks fuel w ⟨.parting task ids, run⟩ →
    task.process = some child → host.LetsReap child run.world

/-- The course comes to a point, whatever number of calls is allowed from some number on. -/
def Attains (queue : Queue κ) (host : Host W) (hooks : Hooks κ W) (w : W) (point : Point κ W) : Prop :=
  ∃ n, ∀ p, n ≤ p → queue.OnCourse host hooks p w point

variable {queue : Queue κ} {host : Host W} {hooks : Hooks κ W} {w : W} {run : Run κ W} {id : TaskId} {task : Task κ}

/-- What the course comes to from some number of calls on, it comes to with one. -/
theorem Attains.onCourse {point : Point κ W} (h : queue.Attains host hooks w point) :
    ∃ fuel, queue.OnCourse host hooks fuel w point := by
  obtain ⟨n, hcourse⟩ := h
  exact ⟨n, hcourse n (Nat.le_refl n)⟩

/-- Steps that are made with any number of calls from some number on lead to further such points. -/
theorem Attains.steps {first last : Point κ W} {n : Nat} (h : queue.Attains host hooks w first)
    (hsteps : ∀ p, n ≤ p → Steps (queue.setting host hooks p) first last) : queue.Attains host hooks w last := by
  obtain ⟨m, hcourse⟩ := h
  exact ⟨max m n, fun p hp => Relation.ReflTransGen.trans (hcourse p (Nat.le_trans (Nat.le_max_left m n) hp))
    (hsteps p (Nat.le_trans (Nat.le_max_right m n) hp))⟩

theorem Attains.step {first last : Point κ W} {n : Nat} (h : queue.Attains host hooks w first)
    (hstep : ∀ p, n ≤ p → Step (queue.setting host hooks p) first last) : queue.Attains host hooks w last :=
  h.steps fun p hp => .single (hstep p hp)

/-! ## Starting tasks -/

theorem launch_comesBack (h : run.Orderly) {rest : List (Task κ)} (hpending : run.pending = task :: rest) :
    ComesBack fun p => run.launch (queue.setting host hooks p) task rest := by
  have hstate : task.state = .preparing := (h.pending task (hpending ▸ List.mem_cons_self)).1
  obtain ⟨step, hstep⟩ := Task.execute_gives hstate host queue.source run.world
  have hcall : ComesBack fun _ : Nat => task.execute host queue.source run.world := ⟨step, 0, fun _ _ => hstep⟩
  refine comesBack_await hcall fun ⟨result, after, w⟩ _ _ => ?_
  cases result with
  | error error => exact .ok _
  | ok _ => exact .ok (((run.pop rest w).tell (queue.setting host hooks 0) after).enter after)

/-- Starting tasks asks nothing of the host but answers, since a start is never made again. -/
theorem launchAll_comesBack (fuel : Nat) (h : run.Orderly) :
    ComesBack fun p => run.launchAll (queue.setting host hooks p) fuel := by
  induction fuel generalizing run with
  | zero => exact .ok run
  | succ fuel ih =>
    unfold launchAll
    have hroom : ∀ p, run.hasRoom (queue.setting host hooks p) = run.hasRoom (queue.setting host hooks 0) :=
      fun _ => rfl
    simp only [hroom]
    split
    · split
      · exact .ok run
      · next task rest hpending =>
        refine (launch_comesBack h hpending).bind fun run' n hcall => ih ?_
        exact (launch_safely h hpending).of_ok (hcall n (Nat.le_refl n))
    · exact .ok run

/-! ## Acting on output -/

/-- A task is settled if the wait for its end and the reads of what it left come back. -/
theorem settle_comesBack (htask : task.Leavable)
    (h : ∀ child, task.process = some child → host.LetsReap child run.world) :
    ComesBack fun p => run.settle (queue.setting host hooks p) task := by
  refine comesBack_await (Task.reap_comesBack htask h) fun ⟨reaped, between, v⟩ n hreap => ?_
  have hrest := Task.letsDrain_of_reap h (hreap n (Nat.le_refl n))
  refine comesBack_await (Task.finishIfRunning_comesBack hrest) fun ⟨drained, after, w⟩ m hfinish => ?_
  have hclosed : after.hasOpenPipes = false :=
    Task.finishIfRunning_closes htask (hreap n (Nat.le_refl n)) (hfinish m (Nat.le_refl m))
  dsimp only
  rw [hclosed]
  cases reaped with
  | error error => exact .ok _
  | ok termination =>
    exact .ok (drained, (((run.inWorld w).note (.reaped after.id termination)).conclude (queue.setting host hooks 0)
      after).note (.settled after.id (failureOf drained)))

variable (hanswered : queue.Answered host hooks w)

include hanswered

theorem listen_comesBack {event : ReadyEvent} {events : List ReadyEvent}
    (hattains : queue.Attains host hooks w ⟨.serving (event :: events), run⟩)
    (hsome : run.executing? event.owner = some task) :
    ComesBack fun p => run.listen (queue.setting host hooks p) event task := by
  obtain ⟨fuel, hcourse⟩ := hattains.onCourse
  unfold Run.listen
  split
  · next hreadable =>
    have hdrain : ∀ child, task.process = some child → host.LetsDrain child run.world :=
      fun _ hprocess => hanswered.serving hcourse hreadable hsome hprocess
    refine comesBack_await (Task.readAvailable_comesBack hdrain) fun ⟨ended, after, w⟩ _ _ => ?_
    cases ended <;> exact .ok _
  · exact .ok _

/-- Acting on an event comes back: the reads of its task do, and if the task leaves, the wait for its end. -/
theorem service_comesBack {event : ReadyEvent} {events : List ReadyEvent}
    (hattains : queue.Attains host hooks w ⟨.serving (event :: events), run⟩) (h : run.Orderly) :
    ComesBack fun p => run.service (queue.setting host hooks p) event := by
  unfold service
  cases hsome : run.executing? event.owner with
  | none => exact .ok _
  | some task =>
    refine (listen_comesBack hanswered hattains hsome).bind fun ⟨ended, run'⟩ n hlisten => ?_
    have h' : run'.Orderly := (listen_safely h (h.of_executing? hsome) event).of_ok (hlisten n (Nat.le_refl n))
    cases ended with
    | error error => exact .ok _
    | ok ended =>
      dsimp only
      split
      · next hend =>
        unfold retire
        split
        · exact .ok _
        · next after hafter =>
          -- The task leaves here, so the wait for its end is one that the course comes to.
          obtain ⟨fuel, hcourse⟩ := (hattains.step fun p hp => .retire hsome (hlisten p hp) hend hafter).onCourse
          exact settle_comesBack (h'.of_executing? hafter).leavable fun _ hprocess =>
            hanswered.retiring hcourse hprocess
      · exact .ok _

theorem serviceAll_comesBack {events : List ReadyEvent}
    (hattains : queue.Attains host hooks w ⟨.serving events, run⟩) (h : run.Orderly) :
    ComesBack fun p => run.serviceAll (queue.setting host hooks p) events := by
  induction events generalizing run with
  | nil => exact .ok _
  | cons event events ih =>
    unfold serviceAll
    refine (service_comesBack hanswered hattains h).bind fun served n hservice => ?_
    obtain ⟨result, run'⟩ := served
    have h' : run'.Orderly := (service_safely h event).of_ok (hservice n (Nat.le_refl n))
    cases result with
    | error error => exact .ok _
    | ok _ =>
      refine ih (hattains.steps (n := n) fun p hp => ?_) h'
      obtain ⟨last, hsteps, hlast⟩ := service_course.of_ok (hservice p hp)
      rcases hlast with ⟨-, rfl⟩ | ⟨error, herror, -⟩
      · exact hsteps
      · cases herror

/-- One round comes back: the waiting for output, and the acting on what it tells. -/
theorem round_comesBack (hattains : queue.Attains host hooks w ⟨.admitting, run⟩) (h : run.Orderly) :
    ComesBack fun p => run.round (queue.setting host hooks p) := by
  unfold Run.round
  refine (launchAll_comesBack _ h).bind fun run' n hlaunch => ?_
  have h' : run'.Orderly := (launchAll_safely _ h).of_ok (hlaunch n (Nat.le_refl n))
  split
  · exact .ok _
  · next hsome =>
    have hwaits : queue.Attains host hooks w ⟨.waiting, run'.note run'.waitingEvent⟩ :=
      hattains.steps (n := n) fun p hp => by
        obtain ⟨_, hsteps, rfl, hfull⟩ := (launchAll_course (Nat.le_refl _)).of_ok (hlaunch p hp)
        exact hsteps.tail (.watch (by simpa using hsome) hfull)
    obtain ⟨fuel, hcourse⟩ := hwaits.onCourse
    refine comesBack_await (watch_comesBack (hanswered.waiting hcourse)) fun ⟨result, v⟩ m hwait => ?_
    cases result with
    | error cause => exact .ok _
    | ok events =>
      have hserves : queue.Attains host hooks w ⟨.serving events, (run'.note run'.waitingEvent).inWorld v⟩ :=
        hwaits.step fun p hp => .wake (hwait p hp)
      refine (serviceAll_comesBack hanswered hserves ⟨h'.pending, h'.executing⟩).bind fun ⟨result, run''⟩ _ _ => ?_
      cases result <;> exact .ok _

/-! ## Letting tasks run to their ends -/

theorem readRest_comesBack {ids : List TaskId} (hattains : queue.Attains host hooks w ⟨.finishing (id :: ids), run⟩)
    (hsome : run.executing? id = some task) (htask : task.Active) :
    ComesBack fun p => run.readRest (queue.setting host hooks p) id task := by
  obtain ⟨fuel, hcourse⟩ := hattains.onCourse
  have hclose : ∀ child, task.process = some child → host.LetsClose child run.world :=
    fun _ hprocess => hanswered.finishing hcourse hsome hprocess
  refine comesBack_await (Task.readToClose_comesBack hclose) fun ⟨result, between, v⟩ n hread => ?_
  cases result with
  | ok _ => exact .ok _
  | error error =>
    have hbetween : between.Active := Task.readToClose_active htask (hread n (Nat.le_refl n))
    have hdrain := Task.letsDrain_of_readToClose hclose (hread n (Nat.le_refl n))
    exact comesBack_await (Task.finishExecution_comesBack hbetween.state hdrain) fun _ _ _ => .ok _

theorem finishOff_comesBack {ids : List TaskId} (hattains : queue.Attains host hooks w ⟨.finishing (id :: ids), run⟩)
    (h : run.Orderly) : ComesBack fun p => run.finishOff (queue.setting host hooks p) id := by
  unfold finishOff
  cases hsome : run.executing? id with
  | none => exact .ok _
  | some task =>
    have htask := h.of_executing? hsome
    refine (readRest_comesBack hanswered hattains hsome htask).bind fun run' n hread => ?_
    have h' : run'.OrderlyBut id := (readRest_safely h htask).of_ok (hread n (Nat.le_refl n))
    have hretire : ComesBack fun p => run'.retire (queue.setting host hooks p) id := by
      unfold retire
      split
      · exact .ok _
      · next after hafter =>
        obtain ⟨fuel, hcourse⟩ := (hattains.step fun p hp => .part hsome (hread p hp) hafter).onCourse
        exact settle_comesBack (h'.of_executing? hafter) fun _ hprocess => hanswered.parting hcourse hprocess
    refine hretire.bind fun ⟨result, run''⟩ _ _ => ?_
    cases result <;> exact .ok _

/-- Letting tasks run to their ends comes back, one task after the other. -/
theorem finishAll_comesBack {ids : List TaskId} (hattains : queue.Attains host hooks w ⟨.finishing ids, run⟩)
    (h : run.Orderly) : ComesBack fun p => run.finishAll (queue.setting host hooks p) ids := by
  induction ids generalizing run with
  | nil => exact .ok run
  | cons id ids ih =>
    unfold finishAll
    refine (finishOff_comesBack hanswered hattains h).bind fun run' n hcall => ih ?_ ?_
    · refine hattains.steps (n := n) fun p hp => ?_
      obtain ⟨_, hsteps, rfl⟩ := finishOff_course.of_ok (hcall p hp)
      exact hsteps
    · exact (finishOff_safely h id).of_ok (hcall n (Nat.le_refl n))

end Queue

end BatchRunner
