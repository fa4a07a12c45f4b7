import BatchRunner.Readiness
import Mathlib.Data.List.Nodup

/-!
# The entries of a readiness set

What counts of a readiness set are its entries that are not marked (`ReadinessSet.entries`). Registering adds
one, marking takes out those of one owner, and compacting, which moves entries to other indices, takes out none
(`entries_register`, `entries_markFinished`, `entries_compact`). An event names the owner of the entry at its
index (`eventAt_eq_some`), and no two events of a wait have the same index (`pairwise_eventsFrom`).
-/

namespace BatchRunner

/-- A descriptor of which something is told has a condition. -/
theorem Conditions.any_of_tells {c : Conditions} (h : (c.isReadable || c.isHungUp) = true) : c.any = true := by
  rw [any, bne_iff_ne]
  intro hzero
  rw [isReadable, isHungUp, hzero] at h
  exact absurd h (by decide)

namespace ReadinessSet

variable {α β : Type}

/-! ## Elements that are not marked -/

@[simp] theorem unmarked_nil (as : List α) : unmarked [] as = as := by
  rw [unmarked]

@[simp] theorem unmarked_cons (mark : Bool) (marks : List Bool) (a : α) (as : List α) :
    unmarked (mark :: marks) (a :: as) = if mark then unmarked marks as else a :: unmarked marks as := by
  rw [unmarked]

/-- An element that is added without a mark is not left out. -/
theorem unmarked_append {marks : List Bool} {as : List α} (hlength : marks.length = as.length) (a : α) :
    unmarked (marks ++ [false]) (as ++ [a]) = unmarked marks as ++ [a] := by
  induction marks generalizing as with
  | nil =>
    obtain rfl := List.eq_nil_of_length_eq_zero hlength.symm
    rfl
  | cons mark marks ih =>
    cases as with
    | nil => cases hlength
    | cons b as =>
      have hrest := ih (Nat.succ.inj hlength)
      cases mark <;> simp [hrest]

theorem unmarked_eq_self {marks : List Bool} {as : List α} (hlength : marks.length = as.length)
    (hmarks : ∀ mark ∈ marks, mark = false) : unmarked marks as = as := by
  induction marks generalizing as with
  | nil => exact unmarked_nil as
  | cons mark marks ih =>
    cases as with
    | nil => cases hlength
    | cons a as =>
      obtain ⟨rfl, hrest⟩ := List.forall_mem_cons.1 hmarks
      simp [ih (Nat.succ.inj hlength) hrest]

theorem unmarked_zip {marks : List Bool} {as : List α} {bs : List β} (has : marks.length = as.length)
    (hbs : marks.length = bs.length) :
    unmarked marks (as.zip bs) = (unmarked marks as).zip (unmarked marks bs) := by
  induction marks generalizing as bs with
  | nil => simp
  | cons mark marks ih =>
    cases as with
    | nil => cases has
    | cons a as =>
      cases bs with
      | nil => cases hbs
      | cons b bs =>
        have hrest := ih (Nat.succ.inj has) (Nat.succ.inj hbs)
        cases mark <;> simp [hrest]

theorem length_unmarked {marks : List Bool} {as : List α} (hlength : marks.length = as.length) :
    (unmarked marks as).length = (unmarked marks marks).length := by
  induction marks generalizing as with
  | nil => rw [List.eq_nil_of_length_eq_zero hlength.symm]; rfl
  | cons mark marks ih =>
    cases as with
    | nil => cases hlength
    | cons a as =>
      have hrest := ih (Nat.succ.inj hlength)
      cases mark <;> simp [hrest]

theorem eq_false_of_mem_unmarked {mark : Bool} {marks : List Bool} (h : mark ∈ unmarked marks marks) :
    mark = false := by
  induction marks with
  | nil => cases h
  | cons first marks ih =>
    cases first with
    | true => exact ih h
    | false =>
      rcases List.mem_cons.1 h with rfl | h
      · rfl
      · exact ih h

theorem mem_unmarked {marks : List Bool} {as : List α} {index : Nat} {a : α}
    (hmark : marks[index]? = some false) (ha : as[index]? = some a) : a ∈ unmarked marks as := by
  induction marks generalizing as index with
  | nil => cases hmark
  | cons mark marks ih =>
    cases as with
    | nil => cases ha
    | cons b as =>
      cases index with
      | zero =>
        obtain rfl : mark = false := Option.some.inj hmark
        obtain rfl : b = a := Option.some.inj ha
        simp
      | succ index =>
        have hmark' : marks[index]? = some false := hmark
        have hrest := ih hmark' ha
        cases mark
        · exact List.mem_cons_of_mem b hrest
        · exact hrest

theorem mem_of_mem_unmarked {marks : List Bool} {as : List α} {a : α} (h : a ∈ unmarked marks as) : a ∈ as := by
  induction marks generalizing as with
  | nil => rwa [unmarked_nil] at h
  | cons mark marks ih =>
    cases as with
    | nil => cases h
    | cons b as =>
      cases mark with
      | true => exact List.mem_cons_of_mem b (ih h)
      | false =>
        rcases List.mem_cons.1 h with rfl | h
        · exact List.mem_cons_self
        · exact List.mem_cons_of_mem b (ih h)

/-- A mark on one element leaves out those with its key, where no two have the same. -/
theorem unmarked_set [DecidableEq β] {marks : List Bool} {as : List α} {key : α → β} {index : Nat} {a : α}
    (hlength : marks.length = as.length) (hnodup : (as.map key).Nodup) (ha : as[index]? = some a) :
    unmarked (marks.set index true) as = (unmarked marks as).filter (key · != key a) := by
  induction marks generalizing as index with
  | nil =>
    rw [List.eq_nil_of_length_eq_zero hlength.symm] at ha
    cases ha
  | cons mark marks ih =>
    cases as with
    | nil => cases hlength
    | cons b as =>
      rw [List.map_cons, List.nodup_cons] at hnodup
      cases index with
      | zero =>
        obtain rfl : b = a := Option.some.inj ha
        have hkept : (unmarked marks as).filter (key · != key b) = unmarked marks as := by
          refine List.filter_eq_self.2 fun other hmem => bne_iff_ne.2 fun heq => hnodup.1 ?_
          exact List.mem_map.2 ⟨other, mem_of_mem_unmarked hmem, heq⟩
        cases mark <;> simp [hkept]
      | succ index =>
        have ha' : as[index]? = some a := ha
        have hrest := ih (Nat.succ.inj hlength) hnodup.2 ha'
        have hne : (key b != key a) = true := bne_iff_ne.2 fun heq =>
          hnodup.1 (List.mem_map.2 ⟨a, List.mem_of_getElem? ha', heq.symm⟩)
        cases mark <;> simp [hrest, hne]

/-! ## Entries -/

/-- The entries that are not marked: who owns them, and what is watched. -/
def entries (set : ReadinessSet) : List (TaskId × Fd) := unmarked set.finished (set.owners.zip set.descriptors)

/-- Each descriptor has an owner and may have a mark. -/
structure Aligned (set : ReadinessSet) : Prop where
  owners : set.owners.length = set.descriptors.length
  finished : set.finished.length = set.descriptors.length

namespace Aligned

variable {set : ReadinessSet}

theorem empty : ReadinessSet.empty.Aligned := ⟨rfl, rfl⟩

theorem register (h : set.Aligned) (fd : Fd) (owner : TaskId) : (set.register fd owner).Aligned := by
  constructor
  · simp [ReadinessSet.register, h.owners]
  · simp [ReadinessSet.register, h.finished]

theorem markFinished (h : set.Aligned) (index : Nat) : (set.markFinished index).Aligned :=
  ⟨h.owners, by simp [ReadinessSet.markFinished, h.finished]⟩

theorem compact (h : set.Aligned) : set.compact.Aligned := by
  constructor
  · rw [ReadinessSet.compact, length_unmarked (h.finished.trans h.owners.symm), length_unmarked h.finished]
  · rw [ReadinessSet.compact, length_unmarked h.finished]

theorem finished_zip (h : set.Aligned) : set.finished.length = (set.owners.zip set.descriptors).length := by
  rw [List.length_zip, h.owners, Nat.min_self, h.finished]

end Aligned

variable {set : ReadinessSet}

theorem entries_register (h : set.Aligned) (fd : Fd) (owner : TaskId) :
    (set.register fd owner).entries = set.entries ++ [(owner, fd)] := by
  rw [entries, register, List.zip_append h.owners]
  exact unmarked_append h.finished_zip (owner, fd)

theorem entries_compact (h : set.Aligned) : set.compact.entries = set.entries := by
  have hzip := unmarked_zip (h.finished.trans h.owners.symm) h.finished
  rw [entries, unmarked_eq_self h.compact.finished_zip fun mark => eq_false_of_mem_unmarked, entries, hzip]
  rfl

/-- Marking an entry takes out what its owner has, where no two entries have the same owner. -/
theorem entries_markFinished (h : set.Aligned) (hnodup : set.owners.Nodup) {index : Nat} {owner : TaskId}
    (howner : set.owners[index]? = some owner) :
    (set.markFinished index).entries = set.entries.filter (·.1 != owner) := by
  obtain ⟨hlt, -⟩ := List.getElem?_eq_some_iff.1 howner
  obtain ⟨fd, hfd⟩ : ∃ fd, set.descriptors[index]? = some fd := ⟨_, List.getElem?_eq_getElem (h.owners ▸ hlt)⟩
  have hentry : (set.owners.zip set.descriptors)[index]? = some (owner, fd) :=
    List.getElem?_zip_eq_some.2 ⟨howner, hfd⟩
  refine unmarked_set h.finished_zip ?_ hentry
  rwa [List.map_fst_zip (Nat.le_of_eq h.owners)]

theorem owners_eq (h : set.Aligned) (hfresh : ∀ mark ∈ set.finished, mark = false) :
    set.owners = set.entries.map (·.1) := by
  rw [entries, unmarked_eq_self h.finished_zip hfresh, List.map_fst_zip (Nat.le_of_eq h.owners)]

theorem descriptors_eq (h : set.Aligned) (hfresh : ∀ mark ∈ set.finished, mark = false) :
    set.descriptors = set.entries.map (·.2) := by
  rw [entries, unmarked_eq_self h.finished_zip hfresh, List.map_snd_zip (Nat.le_of_eq h.owners.symm)]

theorem mem_entries {index : Nat} {owner : TaskId} {fd : Fd} (howner : set.owners[index]? = some owner)
    (hfd : set.descriptors[index]? = some fd) (hmark : set.finished[index]? = some false) :
    (owner, fd) ∈ set.entries :=
  mem_unmarked hmark (List.getElem?_zip_eq_some.2 ⟨howner, hfd⟩)

/-! ## Events -/

theorem eventAt_eq_some_iff {index : Nat} {conditions : Conditions} {event : ReadyEvent} :
    set.eventAt index conditions = some event ↔ set.owners[index]? = some event.owner ∧
      set.finished[index]? = some false ∧ conditions.any = true ∧ event.index = index ∧
      event.readable = conditions.isReadable ∧ event.hungUp = conditions.isHungUp := by
  constructor
  · intro h
    unfold eventAt at h
    split at h
    · next owner howner hmark =>
      split at h
      · next hany =>
        cases h
        exact ⟨howner, hmark, hany, rfl, rfl, rfl⟩
      · cases h
    · cases h
  · rintro ⟨howner, hmark, hany, rfl, hreadable, hhungUp⟩
    obtain ⟨index, owner, readable, hungUp⟩ := event
    dsimp only at howner hmark hreadable hhungUp
    simp only [eventAt, howner, hmark, hany, hreadable, hhungUp, if_true]

/-- An event of an index is about the entry there, which is not marked. -/
theorem eventAt_eq_some {index : Nat} {conditions : Conditions} {event : ReadyEvent}
    (h : set.eventAt index conditions = some event) :
    event.index = index ∧ set.owners[index]? = some event.owner ∧ set.finished[index]? = some false ∧
      event.hungUp = conditions.isHungUp := by
  obtain ⟨howner, hmark, -, hindex, -, hhungUp⟩ := eventAt_eq_some_iff.1 h
  exact ⟨hindex, howner, hmark, hhungUp⟩

theorem mem_eventsFrom {start : Nat} {conditions : List Conditions} {event : ReadyEvent}
    (h : event ∈ set.eventsFrom start conditions) :
    ∃ c, start ≤ event.index ∧ conditions[event.index - start]? = some c ∧
      set.eventAt event.index c = some event := by
  induction conditions generalizing start with
  | nil => cases h
  | cons first conditions ih =>
    rcases List.mem_append.1 h with h | h
    · have hevent := Option.mem_toList.1 h
      obtain ⟨rfl, -⟩ := eventAt_eq_some hevent
      exact ⟨first, Nat.le_refl _, by simp, hevent⟩
    · obtain ⟨c, hle, hc, hevent⟩ := ih h
      refine ⟨c, Nat.le_of_succ_le hle, ?_, hevent⟩
      obtain ⟨k, hk⟩ := Nat.exists_eq_add_of_lt hle
      rw [hk] at hc ⊢
      rw [show start + k + 1 - (start + 1) = k by omega] at hc
      rw [show start + k + 1 - start = k + 1 by omega, List.getElem?_cons_succ]
      exact hc

/-- The events of a wait come in the order of their entries, one for each at most. -/
theorem pairwise_eventsFrom (set : ReadinessSet) (start : Nat) (conditions : List Conditions) :
    (set.eventsFrom start conditions).Pairwise (·.index < ·.index) := by
  induction conditions generalizing start with
  | nil => exact .nil
  | cons first conditions ih =>
    refine List.pairwise_append.2 ⟨?_, ih (start + 1), fun event hevent later hlater => ?_⟩
    · cases set.eventAt start first <;> simp
    · obtain ⟨hindex, -⟩ := eventAt_eq_some (Option.mem_toList.1 hevent)
      obtain ⟨-, hle, -⟩ := mem_eventsFrom hlater
      rw [hindex]
      exact hle

/-- There is an event for each entry that is not marked and has a condition. -/
theorem mem_eventsFrom_of_eventAt {start index : Nat} {conditions : List Conditions} {c : Conditions}
    {event : ReadyEvent} (hc : conditions[index]? = some c) (hevent : set.eventAt (start + index) c = some event) :
    event ∈ set.eventsFrom start conditions := by
  induction conditions generalizing start index with
  | nil => cases hc
  | cons first conditions ih =>
    cases index with
    | zero =>
      obtain rfl : first = c := Option.some.inj hc
      exact List.mem_append_left _ (Option.mem_toList.2 hevent)
    | succ index =>
      have hc' : conditions[index]? = some c := hc
      refine List.mem_append_right _ (ih hc' ?_)
      rwa [Nat.add_right_comm, Nat.add_assoc]

/-- With something to wait for, the events of a wait are those of the last poll. -/
theorem wait_polled {W : Type} {host : Host W} {fuel : Nat} {w w' : W} {events : List ReadyEvent}
    (hsome : set.isEmpty = false) (h : set.wait host fuel w = .ok (.ok events, w')) :
    ∃ v conditions, host.poll set.descriptors v = (.answer conditions, w') ∧ events = set.eventsFrom 0 conditions := by
  induction fuel generalizing w with
  | zero => cases h
  | succ fuel ih =>
    rw [wait, if_neg (by simp [hsome])] at h
    split at h
    · cases h
    · next conditions v hpoll =>
      cases h
      exact ⟨w, conditions, hpoll, rfl⟩
    · split at h
      · exact ih h
      · cases h

/-- Without anything to wait for there are no events. -/
theorem wait_unpolled {W : Type} {host : Host W} {fuel : Nat} {w w' : W} {events : List ReadyEvent}
    (hnone : set.isEmpty = true) (h : set.wait host fuel w = .ok (.ok events, w')) : events = [] ∧ w' = w := by
  cases fuel with
  | zero => cases h
  | succ fuel =>
    rw [wait, if_pos hnone] at h
    cases h
    exact ⟨rfl, rfl⟩

/-- The events of a wait are those of the last poll, if there is something to wait for. -/
theorem wait_ok {W : Type} {host : Host W} {fuel : Nat} {w w' : W} {events : List ReadyEvent}
    (h : set.wait host fuel w = .ok (.ok events, w')) :
    events = [] ∨ ∃ v conditions, host.poll set.descriptors v = (.answer conditions, w') ∧
      events = set.eventsFrom 0 conditions := by
  cases hset : set.isEmpty with
  | false => exact .inr (wait_polled hset h)
  | true => exact .inl (wait_unpolled hset h).1

end ReadinessSet

end BatchRunner
