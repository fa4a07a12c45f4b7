import BatchRunner.Proofs.Host.Quiet
import BatchRunner.Proofs.Queue.OneByOne

/-!
# A run on a quiet host

On a quiet host a run with room for one task at a time handles its tasks one by one: each round starts the first
queued task (`Run.launchAll_of_quiet`), wakes up when its output has ended, and retires and judges it
(`Run.service_of_quiet`). So the run comes to its end, and is a walk (`Run.complete_walk`).
-/

namespace BatchRunner

/-- A quiet host stays quiet with a memory beside its world, and leaves the memory as it is. -/
theorem Host.Quiet.beside {W S : Type} {host : Host W} {idle : W → Prop} {lives : ChildStage → Child → W → Prop}
    (hquiet : host.Quiet idle lives) (s : S) :
    (host.within (Part.beside : Part (W × S) W)).Quiet (fun v => idle v.1 ∧ v.2 = s)
      (fun stage child v => lives stage child v.1 ∧ v.2 = s) where
  spawn := by
    rintro ⟨w, _⟩ ⟨hidle, rfl⟩ launch
    obtain ⟨child, w', hspawn, hstdout, hlives⟩ := hquiet.spawn hidle launch
    exact ⟨child, (w', _), congrArg (Part.beside.put (w, _)) hspawn, hstdout, hlives, rfl⟩
  poll := by
    rintro child fd ⟨w, _⟩ ⟨hlives, rfl⟩ hstdout
    obtain ⟨conditions, w', hpoll, hany, hlives'⟩ := hquiet.poll hlives hstdout
    exact ⟨conditions, (w', _), congrArg (Part.beside.put (w, _)) hpoll, hany, hlives', rfl⟩
  read := by
    rintro stage child fd ⟨w, _⟩ ⟨hlives, rfl⟩ hstage hstdout
    obtain ⟨w', hread, hlives'⟩ := hquiet.read hlives hstage hstdout
    exact ⟨(w', _), congrArg (Part.beside.put (w, _)) hread, hlives', rfl⟩
  readErrors := by
    rintro stage child fd ⟨w, _⟩ ⟨hlives, rfl⟩ hstage hstderr
    obtain ⟨reply, w', hread, hreply, hlives'⟩ := hquiet.readErrors hlives hstage hstderr
    exact ⟨reply, (w', _), congrArg (Part.beside.put (w, _)) hread, hreply, hlives', rfl⟩
  wait := by
    rintro child ⟨w, _⟩ ⟨hlives, rfl⟩
    obtain ⟨status, usage, w', hwait, hstatus, hlives'⟩ := hquiet.wait hlives
    exact ⟨status, usage, (w', _), congrArg (Part.beside.put (w, _)) hwait, hstatus, hlives', rfl⟩
  close := by
    rintro child ⟨w, s⟩ ⟨hlives, rfl⟩
    have hclosed := Host.closePipes_within Part.beside_lawful host w (w, s) child
    exact ⟨congrArg (fun r => r.2.1) hclosed ▸ hquiet.close hlives, congrArg (fun r => r.2.2) hclosed⟩

namespace Run

variable {κ W S : Type} {host : Host W} {idle : W → Prop} {lives : ChildStage → Child → W → Prop}
  (hquiet : host.Quiet idle lives) (hooks : Hooks κ S) (options : QueueOptions) (source : EnvironmentSource)
  (patience : Nat) {run : Run κ (W × S)} {task ended : Task κ} {child : Child} {fd : Fd}

/-- The setting of a run on a host, with hooks that keep their memory beside the world of the host. -/
def besideSetting (host : Host W) (hooks : Hooks κ S) (options : QueueOptions) (source : EnvironmentSource)
    (patience : Nat) : RunSetting κ (W × S) :=
  ⟨host.within .beside, hooks.beside, options, source, patience + 1⟩

/-- A run after an exit with zero was reported and judged. -/
structure Judged (hooks : Hooks κ S) (policy : Policy) (ended : Task κ) (run after : Run κ (W × S)) : Prop where
  pending : after.pending = run.pending
  executing : after.executing = run.executing
  watch : after.watch = run.watch
  memory : after.world.2 = (hooks.terminated policy ended run.world.2).2
  stats : after.stats = { run.stats with exited := run.stats.exited + 1 }
  held : run.held = none → ∃ text,
    after.held = if (hooks.terminated policy ended run.world.2).1.isStop then some (.stopped text) else none

theorem conclude_judged (h : ended.termination = some (.exited 0)) :
    Judged hooks options.policy ended run (run.conclude (besideSetting host hooks options source patience) ended) ∧
      (run.conclude (besideSetting host hooks options source patience) ended).world.1 = run.world.1 := by
  have hterminated : hooks.beside.terminated options.policy ended run.world =
      ((hooks.terminated options.policy ended run.world.2).1, run.world.1,
        (hooks.terminated options.policy ended run.world.2).2) := Hooks.beside_terminated ..
  have hconclude : run.conclude (besideSetting host hooks options source patience) ended = _ :=
    conclude_eq h hterminated
  rw [hconclude]
  by_cases hstop : (hooks.terminated options.policy ended run.world.2).1.isStop = true
  · rw [if_pos hstop]
    have hheld : run.held = none → (run.held <|> some (stopError ended (.exited 0))) =
        some (stopError ended (.exited 0)) := by
      intro hnone
      rw [hnone]
      rfl
    exact ⟨⟨rfl, rfl, rfl, rfl, rfl, fun hnone => ⟨_, (hheld hnone).trans (if_pos hstop).symm⟩⟩, rfl⟩
  · rw [if_neg hstop]
    exact ⟨⟨rfl, rfl, rfl, rfl, rfl, fun hnone => ⟨"", Eq.trans hnone (if_neg hstop).symm⟩⟩, rfl⟩

include hquiet

/-- On a quiet host a task whose output has ended is reaped, finished and judged. -/
theorem settle_of_quiet (hlives : lives .ended child run.world.1) (hprocess : task.process = some child)
    (hstdout : child.stdout = some fd) (hstate : task.state = .executing) (htermination : task.termination = none) :
    ∃ ended after, run.settle (besideSetting host hooks options source patience) task = .ok (.ok (), after) ∧
      ended.sight = task.sight.exitedZero ∧ ended.id = task.id ∧ idle after.world.1 ∧
      Judged hooks options.policy ended run after := by
  obtain ⟨usage, w₁, hreap, hreaped⟩ := (hquiet.beside run.world.2).reap ⟨hlives, rfl⟩ hprocess htermination patience
  have hexecuting : (task.exitedZero usage).state = .executing := hstate
  have hchild : (task.exitedZero usage).process = some child := hprocess
  obtain ⟨⟨w₂, _⟩, hfinish, hidle, rfl⟩ :=
    (hquiet.beside run.world.2).finishIfRunning hreaped hstdout hchild hexecuting patience
  let ended := (task.exitedZero usage).closed child (host.now w₂)
  let reaped := (run.inWorld (w₂, run.world.2)).note (.reaped task.id (.exited 0))
  let concluded := reaped.conclude (besideSetting host hooks options source patience) ended
  have hconcluded : Judged hooks options.policy ended reaped concluded ∧ concluded.world.1 = w₂ :=
    conclude_judged hooks options source patience rfl
  obtain ⟨hjudged, hworld⟩ := hconcluded
  have hidle' : idle concluded.world.1 := by rwa [hworld]
  refine ⟨ended, concluded.note (.settled task.id none), ?_, rfl, rfl, hidle',
    ⟨hjudged.pending, hjudged.executing, hjudged.watch, hjudged.memory, hjudged.stats, hjudged.held⟩⟩
  unfold settle
  simp only [besideSetting, await, hreap, hfinish, bind, Except.bind]
  rfl

/-- On a quiet host listening to a task whose output has ended finds that out, unless it is known already. -/
theorem listen_of_quiet (hlives : lives .ended child run.world.1) (hprocess : task.process = some child)
    (hstdout : child.stdout = some fd) (hexecuting : run.executing = [(task.id, task)]) {event : ReadyEvent}
    (howner : event.owner = task.id) (hevent : (event.readable || event.hungUp) = true) :
    ∃ w ended, run.listen (besideSetting host hooks options source patience) event task =
        .ok (.ok ended, run.inWorld (w, run.world.2)) ∧
      (event.hungUp || ended) = true ∧ lives .ended child w := by
  unfold listen
  by_cases hreadable : event.readable = true
  · obtain ⟨⟨w, _⟩, hread, hlives', rfl⟩ :=
      (hquiet.beside run.world.2).readAvailable ⟨hlives, rfl⟩ (by decide) hstdout hprocess patience
    refine ⟨w, true, ?_, Bool.or_true _, hlives'⟩
    rw [if_pos hreadable, howner]
    unfold readNow
    simp only [besideSetting, await, hread, bind, Except.bind, pure, Except.pure, update, inWorld, hexecuting,
      List.map_cons, List.map_nil, if_pos]
  · have hungUp : event.hungUp = true := by simpa [hreadable] using hevent
    rw [if_neg hreadable]
    exact ⟨run.world.1, false, rfl, by rw [hungUp]; rfl, hlives⟩

/-- On a quiet host a task whose output has ended is retired and judged. -/
theorem service_of_quiet (hlives : lives .ended child run.world.1) (hprocess : task.process = some child)
    (hstdout : child.stdout = some fd) (hstate : task.state = .executing) (htermination : task.termination = none)
    (hexecuting : run.executing = [(task.id, task)]) {event : ReadyEvent} (howner : event.owner = task.id)
    (hevent : (event.readable || event.hungUp) = true) :
    ∃ ended after, run.service (besideSetting host hooks options source patience) event = .ok (.ok (), after) ∧
      ended.sight = task.sight.exitedZero ∧ ended.id = task.id ∧ idle after.world.1 ∧
      Judged hooks options.policy ended
        { run with executing := [], watch := run.watch.markFinished event.index } after := by
  obtain ⟨w, ended, hlisten, hended, hlives'⟩ := listen_of_quiet hquiet hooks options source patience hlives hprocess
    hstdout hexecuting howner hevent
  have hfound : run.executing? event.owner = some task := by
    rw [executing?, hexecuting, howner]
    simp
  let heard := (run.inWorld (w, run.world.2)).watching (run.watch.markFinished event.index)
  have hleft : (heard.leave task.id task).executing = [] := by
    show run.executing.filter (·.1 != task.id) = []
    rw [hexecuting]
    simp
  -- The task leaves before it is settled, so nothing executes in the run that is judged.
  have hsettle : ∃ ended after,
      (heard.leave task.id task).settle (besideSetting host hooks options source patience) task = .ok (.ok (), after) ∧
        ended.sight = task.sight.exitedZero ∧ ended.id = task.id ∧ idle after.world.1 ∧
        Judged hooks options.policy ended (heard.leave task.id task) after :=
    settle_of_quiet hquiet hooks options source patience hlives' hprocess hstdout hstate htermination
  obtain ⟨ended, after, hsettled, hsight, hid, hidle, hjudged⟩ := hsettle
  refine ⟨ended, after, ?_, hsight, hid, hidle,
    ⟨hjudged.pending, hjudged.executing.trans hleft, hjudged.watch, hjudged.memory, hjudged.stats, hjudged.held⟩⟩
  have hretire : heard.retire (besideSetting host hooks options source patience) event.owner = .ok (.ok (), after) := by
    have hfound' : heard.executing? event.owner = some task := hfound
    rw [retire, hfound', howner]
    exact hsettled
  unfold service
  simp only [hfound, hlisten, bind, Except.bind]
  rw [if_pos hended]
  exact hretire

omit hquiet

/-- A run between two rounds, in which no task executes and nothing has stopped the batch. -/
structure Resting (idle : W → Prop) (run : Run κ (W × S)) : Prop where
  idle : idle run.world.1
  executing : run.executing = []
  watch : run.watch = .empty
  held : run.held = none
  peak : run.stats.peakExecuting ≤ 1
  fresh : ∀ task ∈ run.pending, task.Fresh

/-- A run after its only task was started. -/
structure Launched (hooks : Hooks κ S) (task began : Task κ) (child : Child) (fd : Fd) (run after : Run κ (W × S)) :
    Prop where
  sight : began.sight = task.sight.executing
  id : began.id = task.id
  process : began.process = some child
  stdout : child.stdout = some fd
  termination : began.termination = none
  pending : run.pending = task :: after.pending
  executing : after.executing = [(began.id, began)]
  watch : after.watch = ReadinessSet.empty.register fd began.id
  memory : after.world.2 = hooks.tellBegan began run.world.2
  stats : after.stats = { run.stats with launched := run.stats.launched + 1, peakExecuting := 1 }
  held : after.held = none

theorem watch_enter (run : Run κ W) {began : Task κ} (h : began.stdout? = some fd) :
    (run.enter began).watch = run.watch.register fd began.id := by
  simp only [enter, h]

/-- A round in which one event is served ends with the entries that are still watched. -/
theorem round_of_served {setting : RunSetting κ W} {run launched after : Run κ W} {event : ReadyEvent} {w : W}
    (hlaunch : run.launchAll setting run.pending.length = .ok launched) (hbusy : launched.executing.isEmpty = false)
    (hwatch : launched.watch.wait setting.host setting.patience launched.world = .ok (.ok [event], w))
    (hservice : ((launched.note launched.waitingEvent).inWorld w).service setting event = .ok (.ok (), after)) :
    run.round setting = .ok (false, after.watching after.watch.compact) := by
  have hawait : (launched.note launched.waitingEvent).await
      ((launched.note launched.waitingEvent).watch.wait setting.host setting.patience
        (launched.note launched.waitingEvent).world) = .ok (.ok [event], w) := by
    show (launched.note launched.waitingEvent).await
      (launched.watch.wait setting.host setting.patience launched.world) = _
    rw [hwatch]
    rfl
  unfold round
  simp only [hlaunch, bind, Except.bind, hbusy, Bool.false_eq_true, if_false, hawait, serviceAll, hservice]
  rfl

theorem launchAll_of_full {setting : RunSetting κ W} {run : Run κ W} (h : run.hasRoom setting = false) (fuel : Nat) :
    run.launchAll setting fuel = .ok run := by
  cases fuel with
  | zero => rfl
  | succ fuel =>
    rw [launchAll, h]
    rfl

include hquiet

/-- On a quiet host the first queued task is started, and no other. -/
theorem launchAll_of_quiet (hlimit : options.parallelism ≤ 1) (hrest : run.Resting idle) {rest : List (Task κ)}
    (hpending : run.pending = task :: rest) : ∃ began child fd after,
      run.launchAll (besideSetting host hooks options source patience) run.pending.length = .ok after ∧
      Launched hooks task began child fd run after ∧ lives .running child after.world.1 := by
  have hfresh : task.Fresh := hrest.fresh task (by rw [hpending]; exact List.mem_cons_self)
  have hone : options.effectiveParallelism = 1 := Nat.max_eq_right hlimit
  obtain ⟨child, ⟨w, _⟩, hexecute, hisSome, hlives, rfl⟩ :=
    (hquiet.beside run.world.2).execute ⟨hrest.idle, rfl⟩ hfresh source
  obtain ⟨fd, hstdout⟩ := Option.isSome_iff_exists.1 hisSome
  let began := task.started child (host.now w)
  let after := ((run.pop rest (w, run.world.2)).tell (besideSetting host hooks options source patience) began).enter began
  have htold : hooks.beside.tellBegan began (w, run.world.2) = (w, hooks.tellBegan began run.world.2) :=
    Hooks.beside_tellBegan ..
  have hlaunch : run.launch (besideSetting host hooks options source patience) task rest = .ok after := by
    unfold launch
    simp only [besideSetting, await, hexecute, bind, Except.bind]
    rfl
  have hroom : run.hasRoom (besideSetting host hooks options source patience) = true := by
    simp [hasRoom, isStopped, hrest.held, hrest.executing, besideSetting, hone]
  have hexecuting : after.executing = [(began.id, began)] := by
    show run.executing.filter (·.1 != began.id) ++ [(began.id, began)] = _
    rw [hrest.executing]
    rfl
  -- One task executes now, so there is no room for a second one, and the launching ends.
  have hfull : after.hasRoom (besideSetting host hooks options source patience) = false := by
    simp [hasRoom, hexecuting, besideSetting, hone]
  refine ⟨began, child, fd, after, ?_, ⟨rfl, rfl, rfl, hstdout, hfresh.termination, hpending, hexecuting, ?_, ?_, ?_, ?_⟩,
    ?_⟩
  · rw [hpending, List.length_cons, launchAll, if_pos hroom]
    simp only [hpending, hlaunch, bind, Except.bind]
    exact launchAll_of_full hfull rest.length
  · have hwatched : began.stdout? = some fd := hstdout
    have hregistered := watch_enter
      ((run.pop rest (w, run.world.2)).tell (besideSetting host hooks options source patience) began) hwatched
    rw [hregistered]
    show run.watch.register fd began.id = _
    rw [hrest.watch]
  · show (hooks.beside.tellBegan began (w, run.world.2)).2 = _
    rw [htold]
  · have hpeak := hrest.peak
    show { run.stats with
      launched := run.stats.launched + 1
      peakExecuting := max run.stats.peakExecuting after.executing.length } = _
    rw [hexecuting, List.length_singleton, Nat.max_eq_right hpeak]
  · exact hrest.held
  · show lives .running child (hooks.beside.tellBegan began (w, run.world.2)).1
    rw [htold]
    exact hlives

/-- On a quiet host a round handles the first queued task. -/
theorem round_of_quiet (hlimit : options.parallelism ≤ 1) (hrest : run.Resting idle) {rest : List (Task κ)}
    (hpending : run.pending = task :: rest) : ∃ began ended after,
      run.round (besideSetting host hooks options source patience) = .ok (false, after) ∧
      Handled hooks options.policy (fun _ => True) task began ended run after ∧
      (after.held = none → after.Resting idle) ∧ after.executing = [] := by
  obtain ⟨began, child, fd, launched, hlaunch, hbegan, hlives⟩ :=
    launchAll_of_quiet hquiet hooks options source patience hlimit hrest hpending
  obtain ⟨event, ⟨w, _⟩, hwatch, hindex, howner, hevent, hlives', rfl⟩ :=
    (hquiet.beside launched.world.2).watch ⟨hlives, rfl⟩ hbegan.stdout began.id patience
  rw [← hbegan.watch] at hwatch
  let woken := (launched.note launched.waitingEvent).inWorld (w, launched.world.2)
  have hwoken : woken.executing = [(began.id, began)] := hbegan.executing
  have hservice : ∃ ended after,
      woken.service (besideSetting host hooks options source patience) event = .ok (.ok (), after) ∧
        ended.sight = began.sight.exitedZero ∧ ended.id = began.id ∧ idle after.world.1 ∧
        Judged hooks options.policy ended
          { woken with executing := [], watch := woken.watch.markFinished event.index } after :=
    service_of_quiet hquiet hooks options source patience hlives' hbegan.process hbegan.stdout
      (congrArg Sight.state hbegan.sight) hbegan.termination hwoken howner hevent
  obtain ⟨ended, after, hserved, hsight, hid, hidle, hjudged⟩ := hservice
  have hcompact : after.watch.compact = .empty := by
    rw [hjudged.watch, hindex]
    show (launched.watch.markFinished 0).compact = .empty
    rw [hbegan.watch]
    rfl
  have hstats : after.stats = { run.stats with
      launched := run.stats.launched + 1
      exited := run.stats.exited + 1
      peakExecuting := 1 } := by
    rw [hjudged.stats]
    show { launched.stats with exited := launched.stats.exited + 1 } = _
    rw [hbegan.stats]
  have hafter : run.pending = task :: after.pending := by
    rw [hbegan.pending, hjudged.pending]
    rfl
  refine ⟨began, ended, after.watching after.watch.compact, ?_, ?_, fun hnone => ?_, hjudged.executing⟩
  · have hbusy : launched.executing.isEmpty = false := by
      rw [hbegan.executing]
      rfl
    exact round_of_served hlaunch hbusy hwatch hserved
  · have hmemory : after.world.2 =
        (hooks.terminated options.policy ended (hooks.tellBegan began run.world.2)).2 := by
      rw [hjudged.memory, ← hbegan.memory]
      rfl
    refine ⟨hafter, hbegan.sight, hbegan.id, trivial, ?_, hid.trans hbegan.id, trivial, hmemory, hstats, ?_⟩
    · rw [hsight, hbegan.sight]
      rfl
    · rw [← hbegan.memory]
      exact hjudged.held hbegan.held
  · refine ⟨hidle, hjudged.executing, hcompact, hnone, ?_, fun other hmem => hrest.fresh other ?_⟩
    · exact Nat.le_of_eq (congrArg BatchStats.peakExecuting hstats)
    · rw [hafter]
      exact List.mem_cons_of_mem _ hmem

/-- On a quiet host the rounds of a run handle the tasks one by one. -/
theorem rounds_walk (hlimit : options.parallelism ≤ 1) (place : Nat) (hrest : run.Resting idle) {fuel : Nat}
    (hfuel : run.pending.length < fuel) :
    ∃ last, run.rounds (besideSetting host hooks options source patience) fuel = .ok last ∧
      Walk hooks options.policy (fun _ _ => True) place run last ∧ last.executing = [] := by
  induction hpending : run.pending generalizing run place fuel with
  | nil =>
    obtain ⟨fuel, rfl⟩ := Nat.exists_eq_add_of_lt hfuel
    have hinactive : run.isActive = false := by simp [isActive, hpending, hrest.executing]
    refine ⟨run, ?_, .finished hpending hrest.held, hrest.executing⟩
    rw [rounds, hinactive]
    rfl
  | cons task rest ih =>
    obtain ⟨began, ended, after, hround, hhandled, hresting, hexecuting⟩ :=
      round_of_quiet hquiet hooks options source patience hlimit hrest hpending
    have hafter : after.pending = rest := hhandled.rest_eq hpending
    rw [hpending, List.length_cons] at hfuel
    obtain ⟨fuel, rfl⟩ : ∃ less, fuel = less + 1 := ⟨fuel - 1, by omega⟩
    have hactive : run.isActive = true := by simp [isActive, isStopped, hpending, hrest.held]
    have hrounds : run.rounds (besideSetting host hooks options source patience) (fuel + 1) =
        after.rounds (besideSetting host hooks options source patience) fuel := by
      rw [rounds, if_pos hactive, hround]
      rfl
    rw [hrounds]
    rcases hhandled.goes_on_or_stopped with hgoes | ⟨text, hstopped⟩
    · have henough : after.pending.length < fuel := by
        rw [hafter]
        omega
      obtain ⟨last, hlast, hwalk, hdone⟩ := ih (place + 1) (hresting hgoes) henough hafter
      exact ⟨last, hlast, .step hrest.held hhandled hwalk, hdone⟩
    · -- A stopped run has no task left to wait for, so the next round is the last.
      obtain ⟨less, rfl⟩ : ∃ less, fuel = less + 1 := ⟨fuel - 1, by omega⟩
      have hinactive : after.isActive = false := by simp [isActive, isStopped, hstopped, hexecuting]
      refine ⟨after, ?_, .step hrest.held hhandled (.stopped hstopped), hexecuting⟩
      rw [rounds, hinactive]
      rfl

/-- On a quiet host a whole run handles the tasks one by one. -/
theorem complete_walk (hlimit : options.parallelism ≤ 1) (hrest : run.Resting idle) {fuel : Nat}
    (hfuel : run.pending.length < fuel) :
    ∃ last, run.complete (besideSetting host hooks options source patience) fuel = .ok last ∧
      Walk hooks options.policy (fun _ _ => True) 0 run last := by
  obtain ⟨last, hlast, hwalk, hdone⟩ := rounds_walk hquiet hooks options source patience hlimit 0 hrest hfuel
  refine ⟨last, ?_, hwalk⟩
  unfold complete
  rw [hlast]
  simp [bind, Except.bind, pure, Except.pure, hdone]

end Run

end BatchRunner
