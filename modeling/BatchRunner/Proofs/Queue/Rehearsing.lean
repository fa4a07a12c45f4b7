import BatchRunner.Proofs.Queue.Admission
import BatchRunner.Proofs.Queue.Quietly

/-!
# A dry run rehearses a quiet run

A dry run and a run on a quiet host that takes one task at a time both handle the offered tasks one by one. So hooks
that see nothing but the sights of tasks are called the same way in both, with the same tasks in the same order, and
both come to the same end with the same counts (`Queue.executeDry_rehearses`).
-/

namespace BatchRunner

/-! ## What is offered to both queues -/

namespace Offer

variable {κ : Type} {a b : Offer κ} {offers offers' : List (Offer κ)}

/-- The same is offered, under any identifiers and at any times. -/
structure Same (a b : Offer κ) : Prop where
  spec : a.spec = b.spec
  context : a.context = b.context

/-- The task that is queued if an offer is taken. -/
def task (offer : Offer κ) (separateByDefault : Bool) : Task κ :=
  .queued offer.id offer.spec offer.context separateByDefault offer.now

theorem Same.isAccepted (h : Same a b) : a.isAccepted = b.isAccepted := by
  unfold Offer.isAccepted
  rw [h.spec]

theorem Same.sight (h : Same a b) (separateByDefault : Bool) :
    (a.task separateByDefault).sight = (b.task separateByDefault).sight := by
  obtain ⟨id, spec, context, now⟩ := a
  obtain ⟨id', spec', context', now'⟩ := b
  obtain rfl : spec = spec' := h.spec
  obtain rfl : context = context' := h.context
  rfl

theorem forall₂_accepted (h : List.Forall₂ Same offers offers') :
    List.Forall₂ Same (offers.filter (·.isAccepted)) (offers'.filter (·.isAccepted)) := by
  induction h with
  | nil => exact .nil
  | cons hsame _ ih =>
    rw [List.filter_cons, List.filter_cons, hsame.isAccepted]
    split
    · exact .cons hsame ih
    · exact ih

theorem validate_of_isAccepted (h : a.isAccepted = true) : Environment.validate a.spec.env = .ok () := by
  unfold Offer.isAccepted at h
  split at h
  · next hvalid => exact hvalid
  · cases h

theorem fresh_task (h : a.isAccepted = true) (separateByDefault : Bool) : (a.task separateByDefault).Fresh where
  state := rfl
  termination := rfl
  env := validate_of_isAccepted h

end Offer

namespace Queue

variable {κ W V S : Type}

/-- The tasks of the offers that a queue takes. -/
def acceptedTasks (queue : Queue κ) (offers : List (Offer κ)) : List (Task κ) :=
  (offers.filter (·.isAccepted)).map (·.task queue.options.separateErrors)

/-- A queue takes the offers that are of the right form, in order. -/
theorem offerAll_eq (queue : Queue κ) (offers : List (Offer κ)) :
    queue.offerAll offers = queue.append (queue.acceptedTasks offers) := by
  induction offers generalizing queue with
  | nil => simp [offerAll, acceptedTasks, append]
  | cons offer offers ih =>
    rw [offerAll, List.foldl_cons, ← offerAll, ih]
    cases haccepted : offer.isAccepted with
    | false => rw [offer_of_refused haccepted, acceptedTasks, acceptedTasks, List.filter_cons_of_neg (by simp [haccepted])]
    | true =>
      have hadd : queue.add offer.id offer.spec offer.context offer.now =
          .ok (queue.append [offer.task queue.options.separateErrors]) :=
        add_eq_ok_iff.2 ⟨Offer.validate_of_isAccepted haccepted, rfl⟩
      have hoffer : queue.offer offer = queue.append [offer.task queue.options.separateErrors] := by
        rw [Queue.offer, hadd]
      rw [hoffer, append_append, acceptedTasks, acceptedTasks, List.filter_cons_of_pos (by simp [haccepted])]
      rfl

theorem fresh_of_mem_acceptedTasks {queue : Queue κ} {offers : List (Offer κ)} {task : Task κ}
    (h : task ∈ queue.acceptedTasks offers) : task.Fresh := by
  obtain ⟨offer, hoffer, rfl⟩ := List.mem_map.1 h
  exact Offer.fresh_task (List.mem_filter.1 hoffer).2 _

theorem acceptedTasks_sights {queue queue' : Queue κ} {offers offers' : List (Offer κ)}
    (hseparate : queue.options.separateErrors = queue'.options.separateErrors)
    (h : List.Forall₂ Offer.Same offers offers') :
    List.Forall₂ (fun x y : Task κ => x.sight = y.sight) (queue.acceptedTasks offers) (queue'.acceptedTasks offers') := by
  unfold acceptedTasks
  rw [hseparate, List.forall₂_map_left_iff, List.forall₂_map_right_iff]
  exact (Offer.forall₂_accepted h).imp fun _ _ hsame => hsame.sight _

/-! ## Walks through a queue -/

/-- A local queue of fresh tasks, with room for one at a time, is walked through on a quiet host. -/
theorem execute_walk_of_quiet {host : Host W} {idle : W → Prop} {lives : ChildStage → Child → W → Prop}
    (hquiet : host.Quiet idle lives) {queue : Queue κ} (hkind : queue.kind = .localProcesses)
    (hlimit : queue.options.parallelism ≤ 1) (hfresh : ∀ task ∈ queue.pending, task.Fresh) (hooks : Hooks κ S)
    {w : W} (hidle : idle w) (s : S) {fuel : Nat} (hfuel : queue.pending.length < fuel) :
    ∃ last, queue.execute (host.within .beside) hooks.beside fuel (w, s) = .ok (queue.outcome last) ∧
      Run.Walk hooks queue.options.policy (fun _ _ => True) 0 (.start queue.pending (w, s)) last := by
  obtain ⟨patience, rfl⟩ : ∃ patience, fuel = patience + 1 := ⟨fuel - 1, by omega⟩
  have hresting : (Run.start queue.pending (w, s)).Resting idle := ⟨hidle, rfl, rfl, rfl, Nat.zero_le 1, hfresh⟩
  obtain ⟨last, hlast, hwalk⟩ :=
    Run.complete_walk hquiet hooks queue.options queue.source patience hlimit hresting hfuel
  have hrun : queue.runLocally (host.within .beside) hooks.beside (patience + 1) (w, s) = .ok last := hlast
  refine ⟨last, ?_, hwalk⟩
  rw [execute, hkind]
  dsimp only
  rw [executeLocally, hrun]

/-- A dry queue of fresh tasks is walked through on any host, under numbers that count the places. -/
theorem execute_walk_of_dryRun (host : Host V) {queue : Queue κ} (hkind : queue.kind = .dryRun)
    (hfresh : ∀ task ∈ queue.pending, task.Fresh) (hooks : Hooks κ S) (v : V) (s : S) (fuel : Nat) :
    ∃ last, queue.execute (host.within .beside) hooks.beside fuel (v, s) = .ok (queue.outcome last) ∧
      Run.Walk hooks queue.options.policy (fun place task => task.pid = some (place + 1)) 0
        (.start queue.pending (v, s)) last := by
  have hlisted : ∃ last, listTasks queue.options.policy (host.within Part.beside).now hooks.beside (0 + 1)
      (.start queue.pending (v, s)) = .ok last ∧
        Run.Walk hooks queue.options.policy (fun place task => task.pid = some (place + 1)) 0
          (.start queue.pending (v, s)) last :=
    listTasks_walk 0 (fun task hmem => (hfresh task hmem).state) rfl
  obtain ⟨last, hlast, hwalk⟩ := hlisted
  refine ⟨last, ?_, hwalk⟩
  rw [execute, hkind]
  exact congrArg (fun result => result >>= fun run => Except.ok (queue.outcome run)) hlast

/-! ## The rehearsal -/

/-- Two outcomes of the same batch: the same calls of hooks, made with tasks of the same sights in the same places, the
same memory left by them, the same counts, and either both batches succeeded or both were stopped by verdict. -/
structure Rehearsed (ids ids' : List TaskId) (real : BatchOutcome κ (W × Noted κ S))
    (dry : BatchOutcome κ (V × Noted κ S)) : Prop where
  calls : List.Forall₂ (TaskCall.Alike (Run.SamePlace ids ids')) real.world.2.calls dry.world.2.calls
  memory : real.world.2.memory = dry.world.2.memory
  stats : real.queue.stats = dry.queue.stats
  result : real.result = .ok () ∧ dry.result = .ok () ∨
    ∃ text text', real.result = .error (.stopped text) ∧ dry.result = .error (.stopped text')

/-- Runs that stand at the same place have outcomes that rehearse one another. -/
theorem rehearsed_of_abreast {queue queue' : Queue κ} {ids ids' : List TaskId} {place : Nat}
    {real : Run κ (W × Noted κ S)} {dry : Run κ (V × Noted κ S)}
    (h : Run.Abreast (Noted.Alike (Run.SamePlace ids ids')) ids ids' place real dry) :
    Rehearsed ids ids' (queue.outcome real) (queue'.outcome dry) where
  calls := h.memory.calls
  memory := h.memory.memory
  stats := by
    show { real.stats with dropped := real.pending.length } = { dry.stats with dropped := dry.pending.length }
    rw [h.stats, h.pending.length_eq]
  result := by
    rcases h.held with ⟨hreal, hdry⟩ | ⟨text, text', hreal, hdry⟩
    · exact .inl ⟨congrArg resultOf hreal, congrArg resultOf hdry⟩
    · exact .inr ⟨text, text', congrArg resultOf hreal, congrArg resultOf hdry⟩

/-- In a rehearsal the made-up numbers of processes count the places of the queue, from one. -/
theorem Rehearsed.numbered {ids ids' : List TaskId} {real : BatchOutcome κ (W × Noted κ S)}
    {dry : BatchOutcome κ (V × Noted κ S)} (h : Rehearsed ids ids' real dry) {call : TaskCall κ}
    (hmem : call ∈ dry.world.2.calls) :
    ∃ place, ids'[place]? = some call.task.id ∧ call.task.pid = some (place + 1) := by
  obtain ⟨index, rfl⟩ := List.mem_iff_get.1 hmem
  have hindex : index.1 < real.world.2.calls.length := by
    rw [h.calls.length_eq]
    exact index.2
  obtain ⟨place, -, hid, hpid⟩ := (h.calls.get hindex index.2).task.place
  exact ⟨place, hid, hpid⟩

/-- Noting the calls of hooks does not disturb the run of a queue of either kind. -/
theorem execute_noting {queue : Queue κ} {host : Host W} {hooks : Hooks κ S} {fuel : Nat} {w : W} {s : S}
    {outcome : BatchOutcome κ (W × Noted κ S)}
    (h : queue.execute (host.within .beside) hooks.noting.beside fuel (w, ⟨s, []⟩) = .ok outcome) :
    queue.execute (host.within .beside) hooks.beside fuel (w, s) = .ok (outcome.view Noted.part) := by
  have hhost : (host.within Part.beside : Host (W × Noted κ S)) = (host.within Part.beside).within Noted.part := rfl
  unfold execute at h ⊢
  split at h
  · have hsame := queue.executeLocally_within Noted.part_lawful hooks.noting_over (host.within Part.beside) fuel
      (w, ⟨s, []⟩)
    rw [← hhost, h] at hsame
    exact hsame
  · have hsame := executeDry_within hooks.noting_over queue (host.within Part.beside).now (w, ⟨s, []⟩)
    exact hsame.trans (congrArg (Except.map _) h)

/-- A dry run rehearses a run of one task at a time on a quiet host, whatever hooks that cannot tell tasks apart but by
their sight remember and answer: the hooks are called the same way, and both come to the same end. The made-up numbers
count the tasks, and fit a word of 32 bits. -/
theorem executeDry_rehearses {host : Host W} {idle : W → Prop} {lives : ChildStage → Child → W → Prop}
    (hquiet : host.Quiet idle lives) (other : Host V) {hooks : Hooks κ S} (hblind : hooks.Blind)
    (options : QueueOptions) {limit : Nat} (hlimit : limit ≤ 1) (source drySource : EnvironmentSource)
    {offers dryOffers : List (Offer κ)} (hoffers : List.Forall₂ Offer.Same offers dryOffers)
    (hcount : (offers.filter (·.isAccepted)).length < Nat.pow 2 32 - 1) (w : W) (hidle : idle w) (v : V) (s : S) :
    let queue := (create .localProcesses { options with parallelism := limit } source).offerAll offers
    let dryQueue := (create .dryRun options drySource).offerAll dryOffers
    ∀ fuel, (offers.filter (·.isAccepted)).length < fuel → ∀ dryFuel, ∃ real dry,
      queue.execute (host.within .beside) hooks.noting.beside fuel (w, ⟨s, []⟩) = .ok real ∧
      dryQueue.execute (other.within .beside) hooks.noting.beside dryFuel (v, ⟨s, []⟩) = .ok dry ∧
      Rehearsed (queue.pending.map (·.id)) (dryQueue.pending.map (·.id)) real dry ∧
      (∀ call ∈ dry.world.2.calls, ∃ place, (dryQueue.pending.map (·.id))[place]? = some call.task.id ∧
        call.task.pid = some (place + 1) ∧ place + 2 < Nat.pow 2 32) ∧
      queue.execute (host.within .beside) hooks.beside fuel (w, s) = .ok (real.view Noted.part) ∧
      dryQueue.execute (other.within .beside) hooks.beside dryFuel (v, s) = .ok (dry.view Noted.part) := by
  intro queue dryQueue
  let localQueue : Queue κ := create .localProcesses { options with parallelism := limit } source
  let listQueue : Queue κ := create .dryRun options drySource
  have hqueue : queue = localQueue.append (localQueue.acceptedTasks offers) := offerAll_eq ..
  have hdryQueue : dryQueue = listQueue.append (listQueue.acceptedTasks dryOffers) := offerAll_eq ..
  have hfresh : ∀ task ∈ queue.pending, task.Fresh := by
    rw [hqueue]
    exact fun task hmem => fresh_of_mem_acceptedTasks hmem
  have hdryFresh : ∀ task ∈ dryQueue.pending, task.Fresh := by
    rw [hdryQueue]
    exact fun task hmem => fresh_of_mem_acceptedTasks hmem
  have hsights : List.Forall₂ (fun x y : Task κ => x.sight = y.sight) queue.pending dryQueue.pending := by
    rw [hqueue, hdryQueue]
    exact acceptedTasks_sights rfl hoffers
  have hlength : queue.pending.length = (offers.filter (·.isAccepted)).length := by
    rw [hqueue]
    exact List.length_map ..
  intro fuel hfuel dryFuel
  have hkind : queue.kind = .localProcesses := by rw [hqueue]; rfl
  have hroom : queue.options.parallelism ≤ 1 := by rw [hqueue]; exact hlimit
  obtain ⟨last, hreal, hwalk⟩ :=
    execute_walk_of_quiet hquiet hkind hroom hfresh hooks.noting hidle ⟨s, []⟩ (hlength ▸ hfuel)
  have hdryKind : dryQueue.kind = .dryRun := by rw [hdryQueue]; rfl
  obtain ⟨dryLast, hdry, hdryWalk⟩ :=
    execute_walk_of_dryRun other hdryKind hdryFresh hooks.noting v ⟨s, []⟩ dryFuel
  have hpolicy : queue.options.policy = dryQueue.options.policy := by
    rw [hqueue, hdryQueue]
    rfl
  rw [hpolicy] at hwalk
  -- Both runs start at the first place with nothing remembered, so they stand abreast.
  have habreast : (Run.start queue.pending (w, (⟨s, []⟩ : Noted κ S))).Abreast
      (Noted.Alike (Run.SamePlace (queue.pending.map (·.id)) (dryQueue.pending.map (·.id))))
      (queue.pending.map (·.id)) (dryQueue.pending.map (·.id)) 0 (.start dryQueue.pending (v, ⟨s, []⟩)) :=
    ⟨⟨rfl, .nil⟩, hsights, List.drop_zero, List.drop_zero, rfl, .inl ⟨rfl, rfl⟩⟩
  obtain ⟨place, hagreed⟩ := hwalk.agrees (hblind.noting_follows fun hsame => hsame.sight) habreast hdryWalk
  have hrehearsed : Rehearsed (queue.pending.map (·.id)) (dryQueue.pending.map (·.id)) (queue.outcome last)
      (dryQueue.outcome dryLast) := rehearsed_of_abreast hagreed
  refine ⟨_, _, hreal, hdry, hrehearsed, fun call hmem => ?_, execute_noting hreal, execute_noting hdry⟩
  obtain ⟨place, hid, hpid⟩ := hrehearsed.numbered hmem
  obtain ⟨hplace, -⟩ := List.getElem?_eq_some_iff.1 hid
  rw [List.length_map, ← hsights.length_eq, hlength] at hplace
  exact ⟨place, hid, hpid, by omega⟩

/-- Hooks that count the tasks that begin, and stop the batch at those with a certain context. -/
def countingHooks (last : Nat) : Hooks Nat Nat where
  began := some fun _ count => count + 1
  finished := some fun task _ count => (.ofStop (task.context == last), count)

theorem countingHooks_blind (last : Nat) : (countingHooks last).Blind where
  began := by
    rintro hook hmem a b -
    obtain rfl := Option.some.inj hmem
    rfl
  finished := by
    rintro hook hmem a b hsight
    obtain rfl := Option.some.inj hmem
    have hcontext : a.context = b.context := congrArg Sight.context hsight
    simp only [hcontext]
  signalled := nofun
  reported := nofun

/-- Three offers, with identifiers from a number on. -/
def threeOffers (first : Nat) : List (Offer Nat) :=
  (List.range 3).map fun index => ⟨.ofNat (first + index), { program := "true" }, index, first⟩

/-- A batch of three that its hooks stop at the second task is stopped there by a dry run, too. -/
theorem executeDry_rehearses_of_three : ∃ dry,
    ((create .dryRun ⟨7, true, .strict⟩ .ambient).offerAll (threeOffers 5)).execute (Host.obedient.within .beside)
      (countingHooks 1).noting.beside 0 (0, ⟨0, []⟩) = .ok dry ∧
    (∃ text, dry.result = .error (.stopped text)) ∧ dry.world.2.memory = 2 ∧ dry.queue.stats = ⟨2, 2, 0, 1, 1⟩ := by
  have hoffers : List.Forall₂ Offer.Same (threeOffers 0) (threeOffers 5) :=
    .cons ⟨rfl, rfl⟩ (.cons ⟨rfl, rfl⟩ (.cons ⟨rfl, rfl⟩ .nil))
  obtain ⟨real, dry, hreal, hdry, hrehearsed, -⟩ := executeDry_rehearses Host.obedient_quiet .obedient (countingHooks_blind 1)
    ⟨7, true, .strict⟩ (Nat.le_refl 1) .ambient .ambient hoffers (by decide) 0 trivial 0 0 4 (by decide) 0
  have hevaluated : (((create .localProcesses ⟨1, true, .strict⟩ .ambient).offerAll (threeOffers 0)).execute
      (Host.obedient.within .beside) (countingHooks 1).noting.beside 4 (0, ⟨0, []⟩)).toOption.map
        (fun outcome => (outcome.result, outcome.world.2.memory, outcome.queue.stats)) =
      some (.error (.stopped "'true' exited with code 0"), 2, ⟨2, 2, 0, 1, 1⟩) := by decide +kernel
  have hrun : some (real.result, real.world.2.memory, real.queue.stats) =
      some (.error (.stopped "'true' exited with code 0"), 2, ⟨2, 2, 0, 1, 1⟩) :=
    Eq.trans (congrArg (fun result => (Except.toOption result).map
      fun outcome : BatchOutcome Nat (Nat × Noted Nat Nat) =>
        (outcome.result, outcome.world.2.memory, outcome.queue.stats)) hreal.symm) hevaluated
  simp only [Option.some.injEq, Prod.mk.injEq] at hrun
  obtain ⟨hresult, hmemory, hstats⟩ := hrun
  refine ⟨dry, hdry, ?_, hrehearsed.memory ▸ hmemory, hrehearsed.stats ▸ hstats⟩
  rcases hrehearsed.result with ⟨hok, -⟩ | ⟨-, text, -, hstopped⟩
  · rw [hresult] at hok
    cases hok
  · exact ⟨text, hstopped⟩

end Queue

end BatchRunner
