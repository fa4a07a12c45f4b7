import BatchRunner.Proofs.Host.Prompt
import BatchRunner.Proofs.Readiness

/-!
# A readiness set as a list of rows

The descriptors, owners and marks of a set are the columns of a list of rows (`ReadinessSet.rows`). Each call keeps the
columns of one length and does to the rows what it says: it adds one, marks one, or takes out those that are marked or
all of them (`Call.rows_perform`). So after any calls the rows are those of a plain list, each as it was registered, and
a wait tells of the rows that are not marked and have a condition, of each one once (`refines_rows`).
-/

namespace BatchRunner

/-! ## The bits of a condition -/

/-- A word that is masked is not zero if it shares a bit with the mask. -/
theorem and_ne_zero_iff (word mask : BitVec 16) :
    word &&& mask ≠ 0#16 ↔ ∃ bit < 16, mask.getLsbD bit = true ∧ word.getLsbD bit = true := by
  constructor
  · intro h
    by_contra hnone
    push Not at hnone
    refine h (BitVec.eq_of_getLsbD_eq fun bit hbit => ?_)
    rw [BitVec.getLsbD_and, BitVec.getLsbD_zero]
    cases hmask : mask.getLsbD bit with
    | false => exact Bool.and_false _
    | true => rw [Bool.and_true, Bool.eq_false_iff.2 (hnone bit hbit hmask)]
  · rintro ⟨bit, -, hmask, hword⟩ hzero
    have hbit : (word &&& mask).getLsbD bit = true := by rw [BitVec.getLsbD_and, hmask, hword, Bool.and_true]
    rw [hzero, BitVec.getLsbD_zero] at hbit
    cases hbit

namespace Conditions

theorem isReadable_eq (c : Conditions) : c.isReadable = c.revents.getLsbD 0 := by
  rw [Bool.eq_iff_iff, isReadable, bne_iff_ne, and_ne_zero_iff]
  constructor
  · rintro ⟨bit, hbit, hmask, hset⟩
    have hplace : ∀ bit < 16, inputBit.getLsbD bit = true → bit = 0 := by decide
    rw [hplace bit hbit hmask] at hset
    exact hset
  · exact fun h => ⟨0, by decide, by decide, h⟩

/-- An error, a hang-up and a descriptor that is not open are told as one. -/
theorem isHungUp_eq (c : Conditions) :
    c.isHungUp = (c.revents.getLsbD 3 || c.revents.getLsbD 4 || c.revents.getLsbD 5) := by
  rw [Bool.eq_iff_iff, isHungUp, bne_iff_ne, and_ne_zero_iff, Bool.or_eq_true, Bool.or_eq_true]
  constructor
  · rintro ⟨bit, hbit, hmask, hset⟩
    have hplaces : ∀ bit < 16, (hangUpBit ||| errorBit ||| invalidBit).getLsbD bit = true →
        bit = 3 ∨ bit = 4 ∨ bit = 5 := by decide
    rcases hplaces bit hbit hmask with rfl | rfl | rfl
    · exact .inl (.inl hset)
    · exact .inl (.inr hset)
    · exact .inr hset
  · rintro ((h | h) | h)
    · exact ⟨3, by decide, by decide, h⟩
    · exact ⟨4, by decide, by decide, h⟩
    · exact ⟨5, by decide, by decide, h⟩

end Conditions

namespace ReadinessSet

/-! ## Rows -/

/-- What stands at one index of a set. -/
structure Row where
  descriptor : Fd
  owner : TaskId
  finished : Bool
  deriving DecidableEq, Repr

def Row.of (columns : Fd × TaskId × Bool) : Row := ⟨columns.1, columns.2.1, columns.2.2⟩

/-- All that is in a set, marked or not. -/
def rows (set : ReadinessSet) : List Row := (set.descriptors.zip (set.owners.zip set.finished)).map Row.of

variable {set : ReadinessSet}

theorem getElem?_rows {index : Nat} {row : Row} : set.rows[index]? = some row ↔
    set.descriptors[index]? = some row.descriptor ∧ set.owners[index]? = some row.owner ∧
      set.finished[index]? = some row.finished := by
  rw [rows, List.getElem?_map, Option.map_eq_some_iff]
  constructor
  · rintro ⟨columns, hcolumns, rfl⟩
    obtain ⟨hfd, hrest⟩ := List.getElem?_zip_eq_some.1 hcolumns
    exact ⟨hfd, List.getElem?_zip_eq_some.1 hrest⟩
  · rintro ⟨hfd, hrest⟩
    exact ⟨(row.descriptor, row.owner, row.finished),
      List.getElem?_zip_eq_some.2 ⟨hfd, List.getElem?_zip_eq_some.2 hrest⟩, rfl⟩

theorem descriptors_rows (h : set.Aligned) : set.rows.map (·.descriptor) = set.descriptors := by
  have hlength : set.descriptors.length ≤ (set.owners.zip set.finished).length := by
    simp [h.owners, h.finished]
  rw [rows, List.map_map]
  exact List.map_fst_zip hlength

theorem finished_rows (h : set.Aligned) : set.rows.map (·.finished) = set.finished := by
  have hlength : (set.owners.zip set.finished).length ≤ set.descriptors.length := by
    simp [h.owners, h.finished]
  have hmarks : set.finished.length ≤ set.owners.length := by simp [h.owners, h.finished]
  have hpairs : (set.descriptors.zip (set.owners.zip set.finished)).map Prod.snd = set.owners.zip set.finished :=
    List.map_snd_zip hlength
  calc set.rows.map (·.finished)
      = ((set.descriptors.zip (set.owners.zip set.finished)).map Prod.snd).map Prod.snd := by
        rw [rows, List.map_map, List.map_map]
        rfl
    _ = set.finished := by rw [hpairs, List.map_snd_zip hmarks]

/-! ## Calls -/

theorem rows_register (h : set.Aligned) (fd : Fd) (owner : TaskId) :
    (set.register fd owner).rows = set.rows ++ [⟨fd, owner, false⟩] := by
  have hmarks : set.owners.length = set.finished.length := h.owners.trans h.finished.symm
  have hrest : set.descriptors.length = (set.owners.zip set.finished).length := by
    rw [List.length_zip, h.owners, h.finished, Nat.min_self]
  rw [rows, register, List.zip_append hmarks, List.zip_append hrest, List.map_append]
  rfl

theorem rows_markFinished (set : ReadinessSet) (index : Nat) :
    (set.markFinished index).rows = set.rows.modify index fun row => { row with finished := true } := by
  apply List.ext_getElem?
  intro other
  apply Option.ext
  intro row
  rw [getElem?_rows, List.getElem?_modify]
  by_cases h : index = other
  · subst h
    simp only [markFinished, if_true, Option.map_eq_map, Option.map_eq_some_iff]
    constructor
    · rintro ⟨hfd, howner, hmark⟩
      obtain ⟨hlt, hvalue⟩ := List.getElem?_eq_some_iff.1 hmark
      rw [List.length_set] at hlt
      rw [List.getElem_set_self] at hvalue
      refine ⟨⟨row.descriptor, row.owner, set.finished[index]⟩, ?_, by rw [hvalue]⟩
      exact getElem?_rows.2 ⟨hfd, howner, List.getElem?_eq_getElem hlt⟩
    · rintro ⟨before, hbefore, rfl⟩
      obtain ⟨hfd, howner, hmark⟩ := getElem?_rows.1 hbefore
      obtain ⟨hlt, -⟩ := List.getElem?_eq_some_iff.1 hmark
      exact ⟨hfd, howner, List.getElem?_set_self hlt⟩
  · simp only [markFinished, if_neg h, List.getElem?_set_ne h, Option.map_eq_map, Option.map_id']
    exact getElem?_rows.symm

/-- What is left of a list is what its own marks do not take out. -/
theorem unmarked_map_eq_filter {α : Type} (mark : α → Bool) (as : List α) :
    unmarked (as.map mark) as = as.filter (!mark ·) := by
  induction as with
  | nil => rfl
  | cons a as ih => cases h : mark a <;> simp [h, ih]

theorem unmarked_map {α β : Type} (f : α → β) (marks : List Bool) (as : List α) :
    unmarked marks (as.map f) = (unmarked marks as).map f := by
  induction marks generalizing as with
  | nil => simp
  | cons mark marks ih =>
    cases as with
    | nil => rfl
    | cons a as => cases mark <;> simp [ih]

theorem rows_compact (h : set.Aligned) : set.compact.rows = set.rows.filter (!·.finished) := by
  have hmarks : set.finished.length = set.owners.length := h.finished.trans h.owners.symm
  have hrest : set.finished.length = (set.owners.zip set.finished).length := by
    rw [List.length_zip, hmarks, Nat.min_self]
  calc set.compact.rows
      = (unmarked set.finished (set.descriptors.zip (set.owners.zip set.finished))).map Row.of := by
        rw [unmarked_zip h.finished hrest, unmarked_zip hmarks rfl]
        rfl
    _ = unmarked set.finished set.rows := (unmarked_map Row.of _ _).symm
    _ = unmarked (set.rows.map (·.finished)) set.rows := by rw [finished_rows h]
    _ = set.rows.filter (!·.finished) := unmarked_map_eq_filter _ _

/-- A call on a set. -/
inductive Call where
  | register (fd : Fd) (owner : TaskId)
  | mark (index : Nat)
  | compact
  | clear
  | wait
  deriving DecidableEq, Repr

namespace Call

/-- What a call leaves of a set; a wait leaves it as it is. -/
def perform : Call → ReadinessSet → ReadinessSet
  | register fd owner, set => set.register fd owner
  | mark index, set => set.markFinished index
  | compact, set => set.compact
  | clear, _ => .empty
  | wait, set => set

/-- What a call does to a plain list of rows. -/
def onRows : Call → List Row → List Row
  | register fd owner, rows => rows ++ [⟨fd, owner, false⟩]
  | mark index, rows => rows.modify index fun row => { row with finished := true }
  | compact, rows => rows.filter (!·.finished)
  | clear, _ => []
  | wait, rows => rows

/-- What a call registers. -/
def registered? : Call → Option (Fd × TaskId)
  | register fd owner => some (fd, owner)
  | _ => none

def performAll (calls : List Call) (set : ReadinessSet) : ReadinessSet :=
  calls.foldl (fun set call => call.perform set) set

def allOnRows (calls : List Call) (rows : List Row) : List Row :=
  calls.foldl (fun rows call => call.onRows rows) rows

theorem aligned_perform (call : Call) (h : set.Aligned) : (call.perform set).Aligned := by
  cases call with
  | register fd owner => exact h.register fd owner
  | mark index => exact h.markFinished index
  | compact => exact h.compact
  | clear => exact .empty
  | wait => exact h

theorem rows_perform (call : Call) (h : set.Aligned) : (call.perform set).rows = call.onRows set.rows := by
  cases call with
  | register fd owner => exact rows_register h fd owner
  | mark index => exact rows_markFinished set index
  | compact => exact rows_compact h
  | clear => rfl
  | wait => rfl

theorem aligned_performAll (calls : List Call) (h : set.Aligned) : (performAll calls set).Aligned := by
  induction calls generalizing set with
  | nil => exact h
  | cons call calls ih => exact ih (call.aligned_perform h)

theorem rows_performAll (calls : List Call) (h : set.Aligned) :
    (performAll calls set).rows = allOnRows calls set.rows := by
  induction calls generalizing set with
  | nil => rfl
  | cons call calls ih =>
    show (performAll calls (call.perform set)).rows = allOnRows calls (call.onRows set.rows)
    rw [ih (call.aligned_perform h), call.rows_perform h]

/-- A call keeps the order of the rows, and adds none but what it registers. -/
theorem sublist_onRows (call : Call) (rows : List Row) :
    ((call.onRows rows).map fun row => (row.descriptor, row.owner)).Sublist
      ((rows.map fun row => (row.descriptor, row.owner)) ++ call.registered?.toList) := by
  cases call with
  | register fd owner => simp [onRows, registered?]
  | mark index =>
    have hpairs : (onRows (.mark index) rows).map (fun row => (row.descriptor, row.owner)) =
        rows.map fun row => (row.descriptor, row.owner) := by
      apply List.ext_getElem?
      intro other
      rw [onRows, List.getElem?_map, List.getElem?_map, List.getElem?_modify]
      by_cases h : index = other <;> cases rows[other]? <;> simp [h]
    rw [hpairs]
    exact List.sublist_append_left _ _
  | compact => exact (List.filter_sublist.map _).trans (List.sublist_append_left _ _)
  | clear => exact List.nil_sublist _
  | wait => exact List.sublist_append_left _ _

theorem sublist_allOnRows (calls : List Call) (rows : List Row) :
    ((allOnRows calls rows).map fun row => (row.descriptor, row.owner)).Sublist
      ((rows.map fun row => (row.descriptor, row.owner)) ++ calls.filterMap registered?) := by
  induction calls generalizing rows with
  | nil => simp [allOnRows]
  | cons call calls ih =>
    have hfirst := (call.sublist_onRows rows).append (List.Sublist.refl (calls.filterMap registered?))
    have hregistered : call.registered?.toList ++ calls.filterMap registered? =
        (call :: calls).filterMap registered? := by
      cases h : call.registered? <;> simp [h]
    rw [List.append_assoc, hregistered] at hfirst
    exact (ih (call.onRows rows)).trans hfirst

end Call

/-! ## Waits -/

/-- The events of a wait are about the rows that are not marked and have a condition, one for each, in order. Bit 0 of
the word that was reported says that there is something to read, bits 3 to 5 that the descriptor is in error, hung up or
not open. -/
structure Told (rows : List Row) (conditions : List Conditions) (events : List ReadyEvent) : Prop where
  ordered : events.Pairwise (·.index < ·.index)
  mem_iff (event : ReadyEvent) : event ∈ events ↔ ∃ row c, rows[event.index]? = some row ∧
    conditions[event.index]? = some c ∧ row.finished = false ∧ c.revents ≠ 0#16 ∧ event.owner = row.owner ∧
    event.readable = c.revents.getLsbD 0 ∧
    event.hungUp = (c.revents.getLsbD 3 || c.revents.getLsbD 4 || c.revents.getLsbD 5)

theorem told_eventsFrom (h : set.Aligned) (conditions : List Conditions) :
    Told set.rows conditions (set.eventsFrom 0 conditions) := by
  refine ⟨pairwise_eventsFrom set 0 conditions, fun event => ⟨fun hevent => ?_, ?_⟩⟩
  · obtain ⟨c, -, hc, hat⟩ := mem_eventsFrom hevent
    obtain ⟨howner, hmark, hany, -, hreadable, hhungUp⟩ := eventAt_eq_some_iff.1 hat
    obtain ⟨hlt, -⟩ := List.getElem?_eq_some_iff.1 howner
    obtain ⟨fd, hfd⟩ : ∃ fd, set.descriptors[event.index]? = some fd :=
      ⟨_, List.getElem?_eq_getElem (h.owners ▸ hlt)⟩
    refine ⟨⟨fd, event.owner, false⟩, c, getElem?_rows.2 ⟨hfd, howner, hmark⟩, hc, rfl, ?_, rfl, ?_, ?_⟩
    · rwa [Conditions.any, bne_iff_ne] at hany
    · rw [hreadable, c.isReadable_eq]
    · rw [hhungUp, c.isHungUp_eq]
  · rintro ⟨row, c, hrow, hc, hmark, hany, howner, hreadable, hhungUp⟩
    obtain ⟨-, hrowOwner, hrowMark⟩ := getElem?_rows.1 hrow
    rw [← c.isReadable_eq] at hreadable
    rw [← c.isHungUp_eq] at hhungUp
    have hreported : c.any = true := by rwa [Conditions.any, bne_iff_ne]
    have hat : set.eventAt (0 + event.index) c = some event := by
      rw [Nat.zero_add]
      exact eventAt_eq_some_iff.2 ⟨howner ▸ hrowOwner, hmark ▸ hrowMark, hreported, rfl, hreadable, hhungUp⟩
    exact mem_eventsFrom_of_eventAt hc hat

/-- A wait that succeeds asked for the descriptors of the rows, unless there are none, and tells of the rows what the
last answer said. -/
theorem wait_tells {W : Type} {host : Host W} {fuel : Nat} {w w' : W} {events : List ReadyEvent} (h : set.Aligned)
    (hwait : set.wait host fuel w = .ok (.ok events, w')) :
    set.rows = [] ∧ events = [] ∨
      ∃ v conditions, host.poll (set.rows.map (·.descriptor)) v = (.answer conditions, w') ∧
        Told set.rows conditions events := by
  cases hset : set.isEmpty with
  | true =>
    have hnone : set.descriptors = [] := List.isEmpty_iff.1 hset
    have hrows : set.rows = [] := by
      rw [rows, hnone]
      rfl
    exact .inl ⟨hrows, (wait_unpolled hset hwait).1⟩
  | false =>
    obtain ⟨v, conditions, hpoll, rfl⟩ := wait_polled hset hwait
    refine .inr ⟨v, conditions, ?_, told_eventsFrom h conditions⟩
    rw [descriptors_rows h]
    exact hpoll

/-- After any calls the columns of a set are of one length, and its rows are those of a plain list on which the same
was done: each has the descriptor and the owner with which it was registered, in the order in which they were
registered. Compacting then keeps the rows that are not marked, and a wait tells of those that have a condition. -/
theorem refines_rows (calls : List Call) :
    let set := Call.performAll calls .empty
    let rows := Call.allOnRows calls []
    (set.owners.length = set.descriptors.length ∧ set.finished.length = set.descriptors.length) ∧
    set.rows = rows ∧
    (rows.map fun row => (row.descriptor, row.owner)).Sublist (calls.filterMap Call.registered?) ∧
    set.compact.rows = rows.filter (!·.finished) ∧ (∀ mark ∈ set.compact.finished, mark = false) ∧
    ∀ {W : Type} (host : Host W) (fuel : Nat) (w w' : W) (events : List ReadyEvent),
      set.wait host fuel w = .ok (.ok events, w') →
        rows = [] ∧ events = [] ∨
          ∃ v conditions, host.poll (rows.map (·.descriptor)) v = (.answer conditions, w') ∧
            Told rows conditions events := by
  intro set rows
  have haligned : set.Aligned := Call.aligned_performAll calls .empty
  have hrows : set.rows = rows := Call.rows_performAll calls .empty
  refine ⟨⟨haligned.owners, haligned.finished⟩, hrows, Call.sublist_allOnRows calls [], ?_, ?_, ?_⟩
  · rw [rows_compact haligned, hrows]
  · exact fun mark hmark => eq_false_of_mem_unmarked hmark
  · intro W host fuel w w' events hwait
    rw [← hrows]
    exact wait_tells haligned hwait

/-- Two of three rows are left after one was marked, and their events name their own owners; a mark beyond the rows
marks nothing. -/
theorem refines_rows_of_three :
    let calls : List Call := [.register 7 (.ofNat 1), .register 5 (.ofNat 2), .wait, .register 9 (.ofNat 3),
      .mark 1, .mark 3, .compact]
    let host : Host Nat :=
      { Host.prompt fun _ => .ok 0 with
        poll := fun _ count => (.answer [⟨0x01#16⟩, ⟨0x11#16⟩], count) }
    (Call.allOnRows calls []).map (·.descriptor) = [7, 9] ∧
    (Call.performAll calls .empty).wait host 1 0 =
      .ok (.ok [⟨0, .ofNat 1, true, false⟩, ⟨1, .ofNat 3, true, true⟩], 0) ∧
    Told (Call.allOnRows calls []) [⟨0x01#16⟩, ⟨0x11#16⟩]
      [⟨0, .ofNat 1, true, false⟩, ⟨1, .ofNat 3, true, true⟩] := by
  intro calls host
  have hwait : (Call.performAll calls .empty).wait host 1 0 =
      .ok (.ok [⟨0, .ofNat 1, true, false⟩, ⟨1, .ofNat 3, true, true⟩], 0) := rfl
  obtain ⟨-, -, -, -, -, htells⟩ := refines_rows calls
  refine ⟨by decide, hwait, ?_⟩
  rcases htells host 1 0 0 _ hwait with ⟨-, hevents⟩ | ⟨v, conditions, hpoll, htold⟩
  · cases hevents
  · cases hpoll
    exact htold

end ReadinessSet

end BatchRunner
