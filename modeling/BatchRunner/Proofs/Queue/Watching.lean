import BatchRunner.Proofs.Queue.Following
import BatchRunner.Proofs.Host.Scripted
import BatchRunner.Proofs.Queue.Holding
import BatchRunner.Proofs.Readiness

/-!
# What a run watches

Whenever output is waited for, the readiness set has one entry for each executing task, its standard output
(`Run.Mirrors`). Acting on an event may mark the entry of its owner, and then the owner executes no more; the
entries of the events that are left keep their indices and their owners (`Run.Serving`). So compacting the set
after the last event leaves what is to be watched next (`Step.watched`).
-/

namespace BatchRunner

namespace Run

variable {κ W : Type} {setting : RunSetting κ W} {tasks : List (Task κ)}

/-! ## Sets that mirror what executes -/

/-- What there is to watch: the standard output of each executing task, while it is open. -/
def outputs (executing : List (TaskId × Task κ)) : List (TaskId × Fd) :=
  executing.filterMap fun entry => entry.2.stdout?.map (entry.1, ·)

@[simp] theorem outputs_append (l r : List (TaskId × Task κ)) : outputs (l ++ r) = outputs l ++ outputs r :=
  List.filterMap_append

theorem outputs_filter (id : TaskId) (executing : List (TaskId × Task κ)) :
    outputs (executing.filter (·.1 != id)) = (outputs executing).filter (·.1 != id) := by
  simp only [outputs, List.filterMap_filter, List.filter_filterMap]
  refine List.filterMap_congr fun entry _ => ?_
  cases entry.2.stdout? <;> by_cases hid : entry.1 = id <;> simp [Option.filter, hid]

theorem mem_of_mem_outputs {executing : List (TaskId × Task κ)} {id : TaskId} {fd : Fd}
    (h : (id, fd) ∈ outputs executing) : ∃ task, (id, task) ∈ executing ∧ task.stdout? = some fd := by
  obtain ⟨⟨id', task⟩, hmem, hentry⟩ := List.mem_filterMap.1 h
  obtain ⟨fd', hfd, heq⟩ := Option.map_eq_some_iff.1 hentry
  cases heq
  exact ⟨task, hmem, hfd⟩

theorem outputs_sublist (executing : List (TaskId × Task κ)) :
    ((outputs executing).map (·.1)).Sublist (executing.map (·.1)) := by
  induction executing with
  | nil => exact .slnil
  | cons entry executing ih =>
    rw [List.map_cons, outputs, List.filterMap_cons]
    cases entry.2.stdout? with
    | none => exact ih.cons _
    | some fd => exact ih.cons_cons _

/-- A set whose entries are what there is to watch. -/
structure Mirrors (set : ReadinessSet) (executing : List (TaskId × Task κ)) : Prop where
  aligned : set.Aligned
  entries : set.entries = outputs executing

namespace Mirrors

variable {set : ReadinessSet} {executing : List (TaskId × Task κ)}

theorem register (h : Mirrors set executing) (id : TaskId) (task : Task κ) :
    Mirrors (match task.stdout? with
      | some fd => set.register fd id
      | none => set) (executing ++ [(id, task)]) := by
  have hlast : outputs (executing ++ [(id, task)]) = outputs executing ++ (task.stdout?.map (id, ·)).toList := by
    rw [outputs_append]
    cases hout : task.stdout? <;> simp [outputs, hout]
  cases hout : task.stdout? with
  | none => exact ⟨h.aligned, by rw [hlast, hout, h.entries]; exact (List.append_nil _).symm⟩
  | some fd =>
    refine ⟨h.aligned.register fd id, ?_⟩
    dsimp only
    rw [ReadinessSet.entries_register h.aligned, h.entries, hlast, hout]
    rfl

/-- Marking the entry of a task and taking the task out go together. -/
theorem markFinished (h : Mirrors set executing) (hnodup : set.owners.Nodup) {index : Nat} {owner : TaskId}
    (howner : set.owners[index]? = some owner) :
    Mirrors (set.markFinished index) (executing.filter (·.1 != owner)) where
  aligned := h.aligned.markFinished index
  entries := by
    rw [ReadinessSet.entries_markFinished h.aligned hnodup howner, h.entries, outputs_filter]

theorem compact (h : Mirrors set executing) : Mirrors set.compact executing where
  aligned := h.aligned.compact
  entries := by rw [ReadinessSet.entries_compact h.aligned, h.entries]

end Mirrors

/-- While tasks are started, or output is waited for, no entry is marked. -/
structure Idle (set : ReadinessSet) (executing : List (TaskId × Task κ)) : Prop where
  mirrors : Mirrors set executing
  fresh : ∀ mark ∈ set.finished, mark = false

/-- While events are acted on, the entries of those that are left are where the events say, and not marked. -/
structure Serving (events : List ReadyEvent) (set : ReadinessSet) (executing : List (TaskId × Task κ)) : Prop where
  mirrors : Mirrors set executing
  owners : set.owners.Nodup
  event : ∀ event ∈ events, set.owners[event.index]? = some event.owner ∧ set.finished[event.index]? = some false
  indices : events.Pairwise (·.index < ·.index)

/-- The set at a point. Once waiting has been given up it does not matter any more. -/
def Watched (point : Point κ W) : Prop :=
  match point.stage with
  | .admitting | .waiting => Idle point.run.watch point.run.executing
  | .serving events | .retiring _ events => Serving events point.run.watch point.run.executing
  | .failed | .finishing _ | .parting .. => True

/-- With distinct tasks and no marks, no two entries have the same owner. -/
theorem Idle.nodup {set : ReadinessSet} {executing : List (TaskId × Task κ)} (h : Idle set executing)
    (hids : (executing.map (·.1)).Nodup) : set.owners.Nodup := by
  rw [ReadinessSet.owners_eq h.mirrors.aligned h.fresh, h.mirrors.entries]
  exact hids.sublist (outputs_sublist executing)

theorem Idle.wake {host : Host W} {fuel : Nat} {w w' : W} {set : ReadinessSet} {events : List ReadyEvent}
    {executing : List (TaskId × Task κ)} (h : Idle set executing) (hids : (executing.map (·.1)).Nodup)
    (hcall : set.wait host fuel w = .ok (.ok events, w')) : Serving events set executing := by
  refine ⟨h.mirrors, h.nodup hids, fun event hmem => ?_, ?_⟩
  · rcases ReadinessSet.wait_ok hcall with rfl | ⟨v, conditions, -, rfl⟩
    · cases hmem
    · obtain ⟨c, -, -, hevent⟩ := ReadinessSet.mem_eventsFrom hmem
      obtain ⟨-, howner, hmark, -⟩ := ReadinessSet.eventAt_eq_some hevent
      exact ⟨howner, hmark⟩
  · rcases ReadinessSet.wait_ok hcall with rfl | ⟨v, conditions, -, rfl⟩
    · exact .nil
    · exact ReadinessSet.pairwise_eventsFrom set 0 conditions

namespace Serving

variable {run run' : Run κ W} {event : ReadyEvent} {events : List ReadyEvent}

theorem mem_ids (h : Serving events run.watch run.executing) (hmem : event ∈ events) : event.owner ∈ run.ids := by
  obtain ⟨howner, hmark⟩ := h.event event hmem
  obtain ⟨hlt, -⟩ := List.getElem?_eq_some_iff.1 howner
  have hfd := List.getElem?_eq_getElem (h.mirrors.aligned.owners ▸ hlt)
  have hentry := ReadinessSet.mem_entries howner hfd hmark
  rw [h.mirrors.entries] at hentry
  obtain ⟨task, htask, -⟩ := mem_of_mem_outputs hentry
  exact List.mem_map.2 ⟨_, htask, rfl⟩

theorem tail {set : ReadinessSet} {executing : List (TaskId × Task κ)} (h : Serving (event :: events) set executing) :
    Serving events set executing :=
  ⟨h.mirrors, h.owners, fun other hmem => h.event other (List.mem_cons_of_mem _ hmem), h.indices.of_cons⟩

/-- After the last event compacting leaves no marks. -/
theorem compact {set : ReadinessSet} {executing : List (TaskId × Task κ)} (h : Serving events set executing) :
    Idle set.compact executing :=
  ⟨h.mirrors.compact, fun _ => ReadinessSet.eq_false_of_mem_unmarked⟩

theorem update (h : Serving events run.watch run.executing) (hids : run.ids.Nodup) {id : TaskId}
    {task after : Task κ} (hsome : run.executing? id = some task)
    (hafter : after = { task with streams := after.streams }) :
    Serving events run.watch (run.update id after).executing := by
  obtain ⟨l, r, hsplit, hl, hr⟩ := executing_split hids hsome
  have hout : after.stdout? = task.stdout? := by rw [hafter]; rfl
  refine ⟨⟨h.mirrors.aligned, ?_⟩, h.owners, h.event, h.indices⟩
  rw [h.mirrors.entries, update_executing hsplit hl hr, hsplit]
  simp only [outputs, List.filterMap_append, List.filterMap_cons, hout]

theorem listen (h : Serving events run.watch run.executing) (hids : run.ids.Nodup) {heard : ReadyEvent}
    {task : Task κ} {result : Except Error Bool} (hsome : run.executing? heard.owner = some task)
    (hcall : run.listen setting heard task = .ok (result, run')) : Serving events run'.watch run'.executing := by
  rcases listen_ok hcall with ⟨-, rfl⟩ | ⟨after, w, history, hread, rfl⟩
  · exact h
  · exact h.update hids hsome (Task.readAvailable_eq hread)

/-- Retiring the owner of an event leaves the others to be acted on. -/
theorem retire {set : ReadinessSet} {executing : List (TaskId × Task κ)} (h : Serving (event :: events) set executing) :
    Serving events (set.markFinished event.index) (executing.filter (·.1 != event.owner)) where
  mirrors := h.mirrors.markFinished h.owners (h.event event List.mem_cons_self).1
  owners := h.owners
  event := fun other hmem => by
    obtain ⟨howner, hmark⟩ := h.event other (List.mem_cons_of_mem _ hmem)
    have hlt := (List.pairwise_cons.1 h.indices).1 other hmem
    exact ⟨howner, (List.getElem?_set_ne (Nat.ne_of_lt hlt)).trans hmark⟩
  indices := h.indices.of_cons

end Serving

theorem Idle.enter (run : Run κ W) {task : Task κ} (h : Idle run.watch run.executing) (hnew : task.id ∉ run.ids) :
    Idle (run.enter task).watch (run.enter task).executing := by
  rw [executing_enter run hnew]
  refine ⟨h.mirrors.register task.id task, ?_⟩
  unfold Run.enter
  dsimp only
  split
  · simpa [ReadinessSet.register] using h.fresh
  · exact h.fresh

theorem Step.watched {first last : Point κ W} (hids : (tasks.map (·.id)).Nodup) (hstep : Step setting first last)
    (htracked : Tracked tasks setting.options.effectiveParallelism first.moment) (h : Watched first) :
    Watched last := by
  have hnodup : first.run.ids.Nodup := htracked.ids_nodup hids
  cases hstep with
  | @launch run run' task rest hroom hpending hcall =>
    rcases launch_ok hcall with ⟨error, after, w, -, rfl⟩ | ⟨after, w, hexecute, rfl⟩
    · exact h
    · obtain ⟨watched, -, trail⟩ := htracked
      have hnew : after.id ∉ run.ids :=
        not_mem_ids_of_pending hids hpending (Task.execute_request hexecute) trail
      have hidle : Idle run.watch run.executing := h
      exact hidle.enter ((run.pop rest w).tell setting after) hnew
  | watch hsome hbusy => exact h
  | wake hcall => exact Idle.wake h hnodup hcall
  | watchFail hcall => trivial
  | compact => exact Serving.compact h
  | skip hnone =>
    -- The owner of an event that is left executes, so nothing is ever skipped.
    exact absurd (Serving.mem_ids h List.mem_cons_self) (executing?_eq_none_iff.1 hnone)
  | readFail hsome hcall => trivial
  | read hsome hcall hmore => exact (Serving.listen h hnodup hsome hcall).tail
  | retire hsome hcall hend hafter => exact (Serving.listen h hnodup hsome hcall).retire
  | settle hcall =>
    obtain ⟨hexecuting, hwatch⟩ := settle_keeps hcall
    show Serving _ _ _
    rw [hexecuting, hwatch]
    exact h
  | settleFail hcall => trivial
  | abort hsome => trivial
  | pass hnone => trivial
  | part hsome hcall hafter => trivial
  | finish hcall => trivial
  | finishFail hcall => trivial

end Run

namespace Queue

open Run

variable {κ W : Type} {queue : Queue κ} {host : Host W} {hooks : Hooks κ W} {fuel : Nat} {w : W}
  {point : Point κ W} {account : Account W}

theorem OnCourse.tracked (hids : (queue.pending.map (·.id)).Nodup)
    (h : queue.OnCourse host hooks fuel w point) :
    Sound queue.pending point.moment ∧ Tracked queue.pending queue.limit point.moment :=
  Moves.tracked hids h.moves (sound_start w) (tracked_start _ w)

theorem OnCourse.watched (hids : (queue.pending.map (·.id)).Nodup)
    (h : queue.OnCourse host hooks fuel w point) : Watched point := by
  induction h with
  | refl => exact ⟨⟨.empty, rfl⟩, List.forall_mem_nil _⟩
  | tail hbefore hstep ih => exact hstep.watched hids (OnCourse.tracked hids hbefore).2 ih

theorem OnCourse.holds (horderly : account.Orderly host hooks) (hids : (queue.pending.map (·.id)).Nodup)
    (h : queue.OnCourse host hooks fuel w point) : Holds account point.moment :=
  Moves.holds horderly hids h.moves (sound_start w) (tracked_start _ w) (holds_start _ w)

end Queue

namespace Run

variable {κ W : Type} {account : Account W}

/-- The readiness set and the numbers of a run are those of its executing tasks. -/
structure WatchesAll (account : Account W) (run : Run κ W) : Prop where
  nonempty : run.watch.isEmpty = false
  fresh : ∀ mark ∈ run.watch.finished, mark = false
  owners : run.watch.owners = run.ids
  distinct : run.watch.owners.Nodup
  /-- Each entry is the standard output of its owner, which is open. -/
  descriptor : ∀ {index : Nat} {owner : TaskId} {fd : Fd}, run.watch.owners[index]? = some owner →
    run.watch.descriptors[index]? = some fd →
      ∃ task, run.executing? owner = some task ∧ task.stdout? = some fd ∧ account.IsOpen run.world fd
  aligned : run.watch.descriptors.length = run.watch.owners.length
  apart : run.watch.descriptors.Nodup
  /-- The numbers lead to the tasks whose processes have them, and to nothing else. -/
  numbers : ∀ {pid : Pid} {id : TaskId},
    run.pids.lookup pid = some id ↔ ∃ task, run.executing? id = some task ∧ task.pid = some pid
  unique : (run.pids.map (·.1)).Nodup

/-- With distinct keys, what is found is what is there. -/
theorem lookup_eq_some_iff_mem {α β : Type} [BEq α] [LawfulBEq α] {entries : List (α × β)}
    (hkeys : (entries.map (·.1)).Nodup) {a : α} {b : β} : entries.lookup a = some b ↔ (a, b) ∈ entries := by
  rw [List.lookup_eq_some_iff]
  constructor
  · rintro ⟨l, r, rfl, -⟩
    exact List.mem_append_right _ List.mem_cons_self
  · intro hmem
    obtain ⟨l, r, rfl⟩ := List.append_of_mem hmem
    refine ⟨l, r, rfl, fun entry hentry => bne_iff_ne.2 fun heq => ?_⟩
    rw [List.map_append, List.map_cons, List.nodup_append] at hkeys
    exact hkeys.2.2 _ (List.mem_map_of_mem hentry) a List.mem_cons_self heq.symm

section Executing

variable {run : Run κ W}

theorem Holds.stdout {phase : Phase κ} (h : Holds account ⟨phase, run⟩) (hrunning : run.Running) {id : TaskId}
    {task : Task κ} (hmem : (id, task) ∈ run.executing) :
    ∃ fd, task.stdout? = some fd ∧ account.IsOpen run.world fd := by
  obtain ⟨child, hchild⟩ := h.apart.attached task (List.mem_append_left _ (List.mem_map.2 ⟨_, hmem, rfl⟩))
  rcases hchild.state with ⟨-, hout, -⟩ | ⟨hfinished, -⟩
  · obtain ⟨fd, hfd⟩ := Option.isSome_iff_exists.1 hout
    refine ⟨fd, by rw [Task.stdout?, hchild.process]; exact hfd, hchild.isOpen fd ?_⟩
    simp [Child.descriptors, hfd]
  · have hstate : task.state = .executing := hrunning _ hmem
    rw [hstate] at hfinished
    cases hfinished

theorem outputs_ids {executing : List (TaskId × Task κ)} (h : ∀ entry ∈ executing, ∃ fd, entry.2.stdout? = some fd) :
    (outputs executing).map (·.1) = executing.map (·.1) := by
  induction executing with
  | nil => rfl
  | cons entry executing ih =>
    obtain ⟨⟨fd, hfd⟩, hrest⟩ := List.forall_mem_cons.1 h
    have hrest := ih hrest
    simp only [outputs, List.filterMap_cons, hfd, Option.map_some, List.map_cons] at hrest ⊢
    rw [hrest]

theorem outputs_descriptors (executing : List (TaskId × Task κ)) :
    ((outputs executing).map (·.2)).Sublist ((executing.map (·.2)).flatMap Task.descriptors) := by
  induction executing with
  | nil => exact .slnil
  | cons entry executing ih =>
    have hown : (entry.2.stdout?.toList).Sublist entry.2.descriptors := by
      cases hprocess : entry.2.process with
      | none => simp [Task.stdout?, hprocess]
      | some child => simp [Task.stdout?, Task.descriptors, Child.descriptors, hprocess]
    rw [List.map_cons, List.flatMap_cons]
    refine List.Sublist.trans ?_ (hown.append ih)
    cases hout : entry.2.stdout? <;> simp [outputs, hout]

theorem numbers_keys (executing : List (TaskId × Task κ)) :
    (numbers executing).map (·.1) = (executing.map (·.2)).filterMap (·.pid) := by
  rw [numbers, List.map_filterMap, List.filterMap_map]
  refine List.filterMap_congr fun entry _ => ?_
  rw [Option.map_map, Function.comp_apply]
  exact Option.map_id'

theorem mem_numbers {executing : List (TaskId × Task κ)} {pid : Pid} {id : TaskId} :
    (pid, id) ∈ numbers executing ↔ ∃ task, (id, task) ∈ executing ∧ task.pid = some pid := by
  simp only [numbers, List.mem_filterMap, Option.map_eq_some_iff, Prod.mk.injEq, Prod.exists]
  constructor
  · rintro ⟨id, task, hmem, pid, hpid, rfl, rfl⟩
    exact ⟨task, hmem, hpid⟩
  · rintro ⟨task, hmem, hpid⟩
    exact ⟨id, task, hmem, pid, hpid, rfl, rfl⟩

/-- Where no entry is marked, each is the standard output of its owner. -/
theorem Idle.descriptor {set : ReadinessSet} {executing : List (TaskId × Task κ)} (h : Idle set executing)
    {index : Nat} {owner : TaskId} {fd : Fd} (howner : set.owners[index]? = some owner)
    (hfd : set.descriptors[index]? = some fd) : ∃ task, (owner, task) ∈ executing ∧ task.stdout? = some fd := by
  obtain ⟨hlt, -⟩ := List.getElem?_eq_some_iff.1 howner
  rw [h.mirrors.aligned.owners, ← h.mirrors.aligned.finished] at hlt
  have hmark : set.finished[index]? = some false := by
    rw [List.getElem?_eq_getElem hlt, h.fresh _ (List.getElem_mem hlt)]
  have hentry := ReadinessSet.mem_entries howner hfd hmark
  rw [h.mirrors.entries] at hentry
  exact mem_of_mem_outputs hentry

/-- An unmarked mirror of tasks that execute is what the set is to be when output is waited for. -/
theorem Idle.watchesAll (h : Idle run.watch run.executing) (hsome : run.executing ≠ []) (hrunning : run.Running)
    (hids : run.ids.Nodup) (hholds : Holds account ⟨.serving, run⟩) : run.WatchesAll account := by
  have hlookup : ∀ {id task}, run.executing? id = some task ↔ (id, task) ∈ run.executing :=
    lookup_eq_some_iff_mem hids
  have hdescriptors := ReadinessSet.descriptors_eq h.mirrors.aligned h.fresh
  have howners := ReadinessSet.owners_eq h.mirrors.aligned h.fresh
  rw [h.mirrors.entries] at hdescriptors howners
  have howners' : run.watch.owners = run.ids := by
    rw [howners, outputs_ids fun entry hmem => ?_, ids]
    obtain ⟨fd, hfd, -⟩ := hholds.stdout hrunning hmem
    exact ⟨fd, hfd⟩
  have happart := hholds.apart
  simp only [Moment.alive, Phase.leaving?, Option.toList_none, List.append_nil] at happart
  have hkeys : (run.pids.map (·.1)).Nodup := by
    rw [show run.pids = numbers run.executing from hholds.pids, numbers_keys]
    exact happart.numbers
  exact {
    nonempty := by
      rw [ReadinessSet.isEmpty, List.isEmpty_eq_false_iff]
      intro hnil
      have hlength := h.mirrors.aligned.owners
      rw [hnil, howners', ids, List.length_map, List.length_nil] at hlength
      exact hsome (List.eq_nil_of_length_eq_zero hlength)
    fresh := h.fresh
    owners := howners'
    distinct := howners' ▸ hids
    descriptor := fun {index owner fd} howner hfd => by
      obtain ⟨task, hmem, hout⟩ := h.descriptor howner hfd
      obtain ⟨fd', hfd', hopen⟩ := hholds.stdout hrunning hmem
      obtain rfl : fd' = fd := Option.some.inj (hfd'.symm.trans hout)
      exact ⟨task, hlookup.2 hmem, hout, hopen⟩
    aligned := h.mirrors.aligned.owners.symm
    apart := hdescriptors ▸ happart.descriptors.sublist (outputs_descriptors run.executing)
    numbers := fun {pid id} => by
      rw [lookup_eq_some_iff_mem hkeys, show run.pids = Run.numbers run.executing from hholds.pids, mem_numbers]
      simp only [hlookup]
    unique := hkeys }

end Executing

end Run

namespace Queue

open Run

variable {κ W : Type} {queue : Queue κ} {host : Host W} {hooks : Hooks κ W} {fuel : Nat} {w : W}
  {point : Point κ W} {account : Account W}

theorem OnCourse.executing_ne_nil {run : Run κ W} (h : queue.OnCourse host hooks fuel w ⟨.waiting, run⟩) :
    run.executing ≠ [] := by
  cases h with
  | tail hbefore hstep =>
    cases hstep with
    | watch hsome hbusy => exact hsome

/-- Whenever output is waited for, the readiness set has one entry for each executing task and no other, none of
them marked; whenever an event is acted on, its index is that of its owner's entry, so that marking it takes out
what its owner has and nothing else. -/
theorem watches_executing (horderly : account.Orderly host hooks) (hids : (queue.pending.map (·.id)).Nodup)
    (fuel : Nat) (w : W) :
    (∀ run, queue.OnCourse host hooks fuel w ⟨.waiting, run⟩ → run.WatchesAll account) ∧
    (∀ event events run, queue.OnCourse host hooks fuel w ⟨.serving (event :: events), run⟩ →
      event.owner ∈ run.ids ∧ run.watch.owners[event.index]? = some event.owner ∧
        (run.watch.markFinished event.index).entries = run.watch.entries.filter (·.1 != event.owner)) ∧
    (∀ event before after, event.isWaiting = true →
      queue.events host hooks fuel w = before ++ event :: after →
        ∃ run, queue.OnCourse host hooks fuel w ⟨.waiting, run⟩ ∧ event = run.waitingEvent ∧
          run.history.reverse = before ++ [event]) := by
  refine ⟨fun run hcourse => ?_, fun event events run hcourse => ?_, fun event before after hevent hsplit => ?_⟩
  · have hidle : Idle run.watch run.executing := hcourse.watched hids
    have hnodup : run.ids.Nodup := (hcourse.tracked hids).2.ids_nodup hids
    exact hidle.watchesAll hcourse.executing_ne_nil hcourse.running hnodup (hcourse.holds horderly hids)
  · have hserving : Serving (event :: events) run.watch run.executing := hcourse.watched hids
    have howner := (hserving.event event List.mem_cons_self).1
    exact ⟨hserving.mem_ids List.mem_cons_self, howner,
      ReadinessSet.entries_markFinished hserving.mirrors.aligned hserving.owners howner⟩
  · have hannounces : event.announces = true := by cases event <;> first | rfl | cases hevent
    obtain ⟨⟨stage, run⟩, hcourse, hannounced, hhistory⟩ := announced_of_events hannounces hsplit
    cases stage <;> cases hannounced
    · exact ⟨run, hcourse, rfl, hhistory⟩
    · cases hevent
    · cases hevent

/-- Two tasks that write a byte each are both watched; the first has ended when its output is read, and marking its
entry leaves that of the second. -/
theorem watches_executing_of_two :
    let queue := Queue.streaming 2 true ["first", "second"]
    let host := Host.scripted 4 fun _ => some [.write false ⟨#[7]⟩]
    Account.scripted.Orderly host (Hooks.plain : Hooks Unit Scripted.World) ∧ (queue.pending.map (·.id)).Nodup ∧
      (∃ run, queue.OnCourse host .plain 9 (.fresh []) ⟨.waiting, run⟩ ∧ run.WatchesAll Account.scripted ∧
        run.watch.descriptors = [0, 2]) ∧
      ∃ event events run, queue.OnCourse host .plain 9 (.fresh []) ⟨.serving (event :: events), run⟩ ∧
        event.owner ∈ run.ids ∧ (run.watch.markFinished event.index).entries = [(.ofNat 1, 2)] := by
  intro queue host
  have horderly : Account.scripted.Orderly host (Hooks.plain : Hooks Unit Scripted.World) :=
    Account.scripted_orderly 4 _
  have hids : (queue.pending.map (·.id)).Nodup := by decide
  obtain ⟨hwaiting, hserving, -⟩ := watches_executing horderly hids 9 (.fresh [])
  have hwatch : queue.OnCourse host .plain 9 (.fresh []) ⟨.waiting, _⟩ :=
    .tail (.tail (.tail .refl (.launch rfl rfl rfl)) (.launch rfl rfl rfl)) (.watch nofun (.inr rfl))
  have hserves : (do
      let point ← queue.pointAfter host .plain 9 (.fresh []) 4
      match point.stage with
      | .serving events => events.head?.map fun event => (point.run.watch.markFinished event.index).entries
      | _ => none) = some [(.ofNat 1, 2)] := by decide +kernel
  obtain ⟨⟨stage, run⟩, hpoint, hserves⟩ := Option.bind_eq_some_iff.1 hserves
  split at hserves
  · next served hstage =>
    obtain rfl : stage = .serving served := hstage
    obtain ⟨event, hevent, hentries⟩ := Option.map_eq_some_iff.1 hserves
    obtain ⟨events, rfl⟩ := List.head?_eq_some_iff.1 hevent
    have hwake : queue.OnCourse host .plain 9 (.fresh []) ⟨.serving (event :: events), run⟩ :=
      onCourse_iff.2 ⟨4, hpoint⟩
    exact ⟨horderly, hids, ⟨_, hwatch, hwaiting _ hwatch, by decide +kernel⟩,
      ⟨event, events, run, hwake, (hserving _ _ _ hwake).1, hentries⟩⟩
  · cases hserves

end Queue

end BatchRunner
