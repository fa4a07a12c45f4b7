import BatchRunner.Store
import BatchRunner.Proofs.Task.Calls

/-!
# Settings are decoded from their documents

The document of a value is a table whose keys are fields of the record that decodes it, each of them once, and
each with a node that its field accepts. Such a table is decoded to what the fields make of its nodes
(`RecordType.decode_table`); for each kind of settings that is the value the table was made of.
-/

namespace BatchRunner

namespace Decode

/-- Whether a record has a field for an entry which accepts its node. -/
def RecordType.Accepts (record : RecordType) (entry : String × Node) : Prop :=
  ∃ field, record.fields.find? (·.key == entry.1) = some field ∧ field.check entry.2 = .ok ()

theorem RecordType.visitEntries_eq {record : RecordType} {entries : List (String × Node)} {slots : Slots}
    (h : ∀ entry ∈ entries, record.Accepts entry) (hnodup : (slots.reverse.map (·.1) ++ entries.map (·.1)).Nodup) :
    record.visitEntries slots entries = .ok (slots.reverse ++ entries) := by
  induction entries generalizing slots with
  | nil => simp [visitEntries]
  | cons entry entries ih =>
    obtain ⟨key, node⟩ := entry
    obtain ⟨field, hfield, hcheck⟩ := h (key, node) (by simp)
    have hnew : slots.lookup key = none := by
      rw [List.lookup_eq_none_iff]
      intro slot hslot
      have hmem : slot.1 ∈ slots.reverse.map (·.1) := List.mem_map_of_mem (List.mem_reverse.mpr hslot)
      have hne : slot.1 ≠ key := (List.nodup_append.mp hnodup).2.2 _ hmem key (by simp)
      simpa using hne.symm
    have ih := @ih ((key, node) :: slots) (fun e he => h e (by simp [he])) (by simpa using hnodup)
    simp only at hfield hcheck
    rw [visitEntries, hfield]
    simp only [hnew, hcheck, Option.isSome_none, Bool.false_eq_true, if_false]
    rw [List.reverse_cons, List.append_assoc] at ih
    exact ih

/-- A table of accepted entries is decoded to what the record makes of them. -/
theorem RecordType.decode_table {α : Type} {record : RecordType} {build : Slots → Except DecodeError α}
    {entries : List (String × Node)} {value : α} (h : ∀ entry ∈ entries, record.Accepts entry)
    (hnodup : (entries.map (·.1)).Nodup) (hcomplete : record.firstMissing entries = none)
    (hbuild : build entries = .ok value) : record.decode build (.mapping .table entries) = .ok value := by
  have hvisit : record.visitEntries [] entries = .ok entries := visitEntries_eq h (by simpa using hnodup)
  have hslots : record.complete entries = .ok entries := by rw [complete, hcomplete]
  exact except_bind_ok.mpr ⟨entries, hvisit, except_bind_ok.mpr ⟨entries, hslots, hbuild⟩⟩

/-! ## Tables with gaps -/

/-- The entries of a table in which some keys may be left out. -/
def offered (offers : List (String × Option Node)) : List (String × Node) :=
  offers.filterMap fun offer => offer.2.map (offer.1, ·)

theorem keys_offered (offers : List (String × Option Node)) :
    ((offered offers).map (·.1)).Sublist (offers.map (·.1)) := by
  induction offers with
  | nil => exact List.Sublist.slnil
  | cons offer offers ih =>
    obtain ⟨key, node⟩ := offer
    cases node with
    | none => exact ih.cons _
    | some node => exact ih.cons_cons _

theorem lookup_offered {offers : List (String × Option Node)} (hnodup : (offers.map (·.1)).Nodup) (key : String) :
    (offered offers).lookup key = (offers.lookup key).join := by
  induction offers with
  | nil => rfl
  | cons offer offers ih =>
    obtain ⟨first, node⟩ := offer
    obtain ⟨hfirst, hnodup⟩ := List.nodup_cons.mp hnodup
    have ih := ih hnodup
    by_cases hkey : key = first
    · subst hkey
      cases node with
      | some node => simp [offered]
      | none =>
        have hgone : offers.lookup key = none := by
          rw [List.lookup_eq_none_iff]
          intro offer hoffer
          have hne : key ≠ offer.1 := fun heq => hfirst (List.mem_map.mpr ⟨offer, hoffer, heq.symm⟩)
          simpa using hne
        rw [hgone] at ih
        simpa [offered] using ih
    · have hne : (key == first) = false := by simpa using hkey
      cases node <;> simpa [offered, List.lookup_cons, hne] using ih

/-- A table with gaps is decoded if every entry that is there is accepted and no required one is left out. -/
theorem RecordType.decode_offered {α : Type} {record : RecordType} {build : Slots → Except DecodeError α}
    {offers : List (String × Option Node)} {value : α} (hnodup : (offers.map (·.1)).Nodup)
    (h : ∀ offer ∈ offers, ∀ node, offer.2 = some node → record.Accepts (offer.1, node))
    (hcomplete : record.fields.all (fun field =>
      field.presence != .required || (offers.lookup field.key).join.isSome) = true)
    (hbuild : build (offered offers) = .ok value) :
    record.decode build (.mapping .table (offered offers)) = .ok value := by
  refine decode_table ?_ (hnodup.sublist (keys_offered offers)) ?_ hbuild
  · intro entry hentry
    obtain ⟨offer, hoffer, hmap⟩ := List.mem_filterMap.mp hentry
    obtain ⟨node, hnode, rfl⟩ := Option.map_eq_some_iff.mp hmap
    exact h offer hoffer node hnode
  · refine List.find?_eq_none.mpr fun field hfield => ?_
    have hgiven := List.all_eq_true.mp hcomplete field hfield
    rw [← lookup_offered hnodup] at hgiven
    cases hlookup : (offered offers).lookup field.key with
    | none => simpa [hlookup] using hgiven
    | some node => simp

section slots

variable {α : Type} {offers : List (String × Option Node)} {key : String} {decoder : Decoder α}

theorem get_given (hnodup : (offers.map (·.1)).Nodup) {node : Node} (h : offers.lookup key = some (some node))
    {value : α} (hdecode : decoder node = .ok value) (absent : α) :
    Slots.get (offered offers) key decoder absent = .ok value := by
  simp [Slots.get, lookup_offered hnodup, h, hdecode]

theorem require_given (hnodup : (offers.map (·.1)).Nodup) {node : Node} (h : offers.lookup key = some (some node))
    {value : α} (hdecode : decoder node = .ok value) : Slots.require (offered offers) key decoder = .ok value := by
  simp [Slots.require, lookup_offered hnodup, h, hdecode]

theorem get_optional (hnodup : (offers.map (·.1)).Nodup) {value : Option α} {f : α → Node}
    (h : offers.lookup key = some (value.map f)) (hdecode : ∀ a ∈ value, Decode.optional decoder (f a) = .ok (some a)) :
    Slots.get (offered offers) key (Decode.optional decoder) none = .ok value := by
  cases value with
  | none => simp [Slots.get, lookup_offered hnodup, h]
  | some a => simp [Slots.get, lookup_offered hnodup, h, hdecode]

end slots

/-- A field accepts what its decoder reads. -/
theorem Field.check_of {α : Type} {key : String} {presence : Presence} {decoder : Decoder α} {node : Node} {value : α}
    (h : decoder node = .ok value) : (Field.of key presence decoder).check node = .ok () :=
  except_bind_ok.mpr ⟨value, h, rfl⟩

theorem natural_integer {range : IntegerRange} {n : Nat} (hleast : range.least ≤ n) (hgreatest : n ≤ range.greatest) :
    natural range (.integer n) = .ok n := by
  have hinteger : integer range (.integer n) = .ok (n : Int) := if_pos ⟨hleast, hgreatest⟩
  simp [natural, hinteger, Functor.map, Except.map]

end Decode

open Decode

/-! ## Settings -/

theorem ExitRule.decode_name (rule : ExitRule) : ExitRule.decode (.text rule.name) = .ok rule := by
  cases rule <;> rfl

theorem SignalRule.decode_name (rule : SignalRule) : SignalRule.decode (.text rule.name) = .ok rule := by
  cases rule <;> rfl

/-- Rules are read back, and those that are open stay open. -/
theorem PolicySettings.decode_toToml (settings : PolicySettings) :
    PolicySettings.decode settings.toToml.toNode = .ok settings := by
  rcases settings with ⟨_ | onExit, _ | onSignal⟩
  · rfl
  · cases onSignal <;> rfl
  · cases onExit <;> rfl
  · cases onExit <;> cases onSignal <;> rfl

/-- Whether the number of tasks at once, if it is set, is one that a document can hold. -/
def QueueSettings.Fits (settings : QueueSettings) : Prop := ∀ n ∈ settings.parallelism, n < 0x8000000000000000

theorem optional_count {n : Nat} (h : n < 0x8000000000000000) :
    Decode.optional (natural .word) (.integer n) = .ok (some n) := by
  have hleast : IntegerRange.word.least ≤ n := Int.natCast_nonneg n
  have hgreatest : (n : Int) ≤ IntegerRange.word.greatest := by
    simp only [IntegerRange.word]
    omega
  simp [Decode.optional, natural_integer hleast hgreatest, Functor.map, Except.map]

/-- Settings are read back, and those that are open stay open. -/
theorem QueueSettings.decode_toToml {settings : QueueSettings} (h : settings.Fits) :
    QueueSettings.decode settings.toToml.toNode = .ok settings := by
  obtain ⟨parallelism, separateErrors, policy⟩ := settings
  have hpolicy := policy.decode_toToml
  have hcount : ∀ n ∈ parallelism, Decode.optional (natural .word) (.integer n) = .ok (some n) :=
    fun n hn => optional_count (h n hn)
  have hflag : ∀ b ∈ separateErrors, Decode.optional boolean (.boolean b) = .ok (some b) := fun _ _ => rfl
  let offers : List (String × Option Node) := [("parallelism", parallelism.map fun n : Nat => .integer (n : Int)),
    ("separate_errors", separateErrors.map .boolean), ("policy", some policy.toToml.toNode)]
  have hnodup : (offers.map (·.1)).Nodup := by
    show ["parallelism", "separate_errors", "policy"].Nodup
    decide
  have hoffered : (toToml ⟨parallelism, separateErrors, policy⟩).toNode = .mapping .table (offered offers) := by
    cases parallelism <;> cases separateErrors <;> rfl
  rw [hoffered]
  refine RecordType.decode_offered hnodup ?_ rfl ?_
  · intro offer hoffer node hnode
    simp only [offers, List.mem_cons, List.not_mem_nil, or_false] at hoffer
    rcases hoffer with rfl | rfl | rfl
    · obtain ⟨n, hn, rfl⟩ := Option.map_eq_some_iff.mp hnode
      exact ⟨_, rfl, Field.check_of (hcount n hn)⟩
    · obtain ⟨b, hb, rfl⟩ := Option.map_eq_some_iff.mp hnode
      exact ⟨_, rfl, Field.check_of (hflag b hb)⟩
    · cases hnode
      exact ⟨_, rfl, Field.check_of hpolicy⟩
  · exact except_bind_ok.mpr ⟨parallelism, get_optional hnodup rfl hcount,
      except_bind_ok.mpr ⟨separateErrors, get_optional hnodup rfl hflag,
        except_bind_ok.mpr ⟨policy, get_given hnodup rfl hpolicy _, rfl⟩⟩⟩

theorem list_text (items : List String) : Decode.list text (Toml.Value.texts items).toNode = .ok items := by
  simp only [Toml.Value.texts, Toml.Value.toNode, Decode.list]
  induction items with
  | nil => rfl
  | cons item items ih =>
    rw [List.map_cons, Toml.Value.itemNodes, List.mapM_cons]
    exact except_bind_ok.mpr ⟨item, rfl, except_bind_ok.mpr ⟨items, ih, rfl⟩⟩

/-- The entry of a task is read back. -/
theorem TaskEntry.decode_toToml (entry : TaskEntry) : TaskEntry.decode entry.toToml.toNode = .ok entry := by
  obtain ⟨name, program, args, env, separateErrors⟩ := entry
  have hname : ∀ s ∈ name, Decode.optional text (.text s) = .ok (some s) := fun _ _ => rfl
  have hflag : ∀ b ∈ separateErrors, Decode.optional boolean (.boolean b) = .ok (some b) := fun _ _ => rfl
  let offers : List (String × Option Node) := [("name", name.map .text), ("program", some (.text program)),
    ("args", some (Toml.Value.texts args).toNode), ("env", some (Toml.Value.texts env).toNode),
    ("separate_errors", separateErrors.map .boolean)]
  have hnodup : (offers.map (·.1)).Nodup := by
    show ["name", "program", "args", "env", "separate_errors"].Nodup
    decide
  have hoffered : (toToml ⟨name, program, args, env, separateErrors⟩).toNode = .mapping .table (offered offers) := by
    cases name <;> cases separateErrors <;> rfl
  rw [hoffered]
  refine RecordType.decode_offered hnodup ?_ rfl ?_
  · intro offer hoffer node hnode
    simp only [offers, List.mem_cons, List.not_mem_nil, or_false] at hoffer
    rcases hoffer with rfl | rfl | rfl | rfl | rfl
    · obtain ⟨s, hs, rfl⟩ := Option.map_eq_some_iff.mp hnode
      exact ⟨_, rfl, Field.check_of (hname s hs)⟩
    · cases hnode
      exact ⟨_, rfl, rfl⟩
    · cases hnode
      exact ⟨_, rfl, Field.check_of (list_text args)⟩
    · cases hnode
      exact ⟨_, rfl, Field.check_of (list_text env)⟩
    · obtain ⟨b, hb, rfl⟩ := Option.map_eq_some_iff.mp hnode
      exact ⟨_, rfl, Field.check_of (hflag b hb)⟩
  · have hprogram : Decode.text (.text program) = .ok program := rfl
    exact except_bind_ok.mpr ⟨name, get_optional hnodup rfl hname,
      except_bind_ok.mpr ⟨program, require_given hnodup rfl hprogram,
        except_bind_ok.mpr ⟨args, get_given hnodup rfl (list_text args) _,
          except_bind_ok.mpr ⟨env, get_given hnodup rfl (list_text env) _,
            except_bind_ok.mpr ⟨separateErrors, get_optional hnodup rfl hflag, rfl⟩⟩⟩⟩⟩

theorem list_tasks (tasks : List TaskEntry) :
    Decode.list TaskEntry.decode (Toml.Value.array (tasks.map TaskEntry.toToml)).toNode = .ok tasks := by
  simp only [Toml.Value.toNode, Decode.list]
  induction tasks with
  | nil => rfl
  | cons entry tasks ih =>
    rw [List.map_cons, Toml.Value.itemNodes, List.mapM_cons]
    exact except_bind_ok.mpr ⟨entry, entry.decode_toToml, except_bind_ok.mpr ⟨tasks, ih, rfl⟩⟩

/-! ## Documents -/

/-- A configuration is read back, and what is open in it stays open. -/
theorem Configuration.decode_toToml {config : Configuration} (hversion : config.version ≤ 0xFFFFFFFF) (h : config.queue.Fits) :
    Configuration.decode config.toToml.toNode = .ok config := by
  obtain ⟨version, queue⟩ := config
  have hversion : natural .unsigned32 (.integer version) = .ok version :=
    natural_integer (Int.natCast_nonneg version) (Int.ofNat_le.mpr hversion)
  have hqueue := QueueSettings.decode_toToml h
  let offers : List (String × Option Node) := [("version", some (.integer version)), ("queue", some queue.toToml.toNode)]
  have hnodup : (offers.map (·.1)).Nodup := by
    show ["version", "queue"].Nodup
    decide
  refine RecordType.decode_offered hnodup ?_ rfl ?_
  · intro offer hoffer node hnode
    simp only [offers, List.mem_cons, List.not_mem_nil, or_false] at hoffer
    rcases hoffer with rfl | rfl
    · cases hnode
      exact ⟨_, rfl, Field.check_of hversion⟩
    · cases hnode
      exact ⟨_, rfl, Field.check_of hqueue⟩
  · exact except_bind_ok.mpr ⟨version, get_given hnodup rfl hversion _,
      except_bind_ok.mpr ⟨queue, get_given hnodup rfl hqueue _, rfl⟩⟩

/-- A batch is read back whether its settings or its tasks come first. -/
theorem Batch.decode_table {batch : Batch} (h : batch.queue.Fits)
    {entries : List (String × Toml.Value)}
    (hentries : entries = [("queue", batch.queue.toToml), ("task", .array (batch.tasks.map TaskEntry.toToml))] ∨
      entries = [("task", .array (batch.tasks.map TaskEntry.toToml)), ("queue", batch.queue.toToml)]) :
    Batch.decode (Toml.Value.table entries).toNode = .ok batch := by
  have hqueue := QueueSettings.decode_toToml h
  have htasks := list_tasks batch.tasks
  let offers : List (String × Option Node) := entries.map fun entry => (entry.1, some entry.2.toNode)
  have hoffered : (Toml.Value.table entries).toNode = .mapping .table (offered offers) := by
    rcases hentries with rfl | rfl <;> rfl
  have hnodup : (offers.map (·.1)).Nodup := by
    rcases hentries with rfl | rfl
    · show ["queue", "task"].Nodup
      decide
    · show ["task", "queue"].Nodup
      decide
  have hfirst : offers.lookup "queue" = some (some batch.queue.toToml.toNode) := by
    rcases hentries with rfl | rfl <;> rfl
  have hsecond : offers.lookup "task" = some (some (Toml.Value.array (batch.tasks.map TaskEntry.toToml)).toNode) := by
    rcases hentries with rfl | rfl <;> rfl
  rw [hoffered]
  refine RecordType.decode_offered hnodup ?_ rfl ?_
  · intro offer hoffer node hnode
    obtain ⟨entry, hentry, rfl⟩ := List.mem_map.mp hoffer
    cases hnode
    have heither : entry = ("queue", batch.queue.toToml) ∨
        entry = ("task", .array (batch.tasks.map TaskEntry.toToml)) := by
      rcases hentries with rfl | rfl
      · simpa using hentry
      · simpa [or_comm] using hentry
    rcases heither with rfl | rfl
    · exact ⟨_, rfl, Field.check_of hqueue⟩
    · exact ⟨_, rfl, Field.check_of htasks⟩
  · exact except_bind_ok.mpr ⟨batch.queue, get_given hnodup hfirst hqueue _,
      except_bind_ok.mpr ⟨batch.tasks, get_given hnodup hsecond htasks _, rfl⟩⟩

end BatchRunner
