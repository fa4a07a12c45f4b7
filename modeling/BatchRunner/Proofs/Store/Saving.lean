import BatchRunner.Proofs.Files.Writing
import BatchRunner.Proofs.Store.Decoding
import BatchRunner.Proofs.Toml.Documents

/-!
# What is saved is loaded

A configuration or a batch that was saved is loaded again as it was, whatever strings are in it and whichever of
its options are set (`Store.load_after_save`). The document of either is a layout of settings, which the reader
gives back; its table is decoded to the value that it was made of; and the file holds the text that was written to
it. A number of tasks beyond what a document can hold is refused before the file is touched.
-/

namespace BatchRunner

open Toml

/-! ## Layouts of settings -/

theorem listable_append {entries more : List (String × Value)} (h : Listable entries) (h' : Listable more) :
    Listable (entries ++ more) := by
  intro entry hentry
  rcases List.mem_append.mp hentry with hentry | hentry
  · exact h entry hentry
  · exact h' entry hentry

theorem listable_one {key : String} (hkey : Bare key) {v : Value} (h : Readable v) : Listable [(key, v)] := by
  intro entry hentry
  obtain rfl := List.mem_singleton.mp hentry
  exact ⟨hkey, h⟩

theorem listable_optional {α : Type} {key : String} (hkey : Bare key) {f : α → Value} {a : Option α}
    (h : ∀ x ∈ a, Readable (f x)) : Listable (Toml.entry? key f a) := by
  cases a with
  | none => intro entry hentry; cases hentry
  | some x => exact listable_one hkey (h x rfl)

theorem keysOf_optional {α : Type} (key : String) (f : α → Value) (a : Option α) :
    (keysOf (Toml.entry? key f a)).Sublist [key] := by
  cases a with
  | none => exact List.nil_sublist _
  | some x => exact List.Sublist.refl _

theorem keysOf_append {α : Type} (entries more : List (String × α)) :
    keysOf (entries ++ more) = keysOf entries ++ keysOf more := List.map_append

/-- The rules that are set, as entries of their table. -/
def PolicySettings.entries (settings : PolicySettings) : List (String × Value) :=
  Toml.entry? Policy.exitKey (fun rule => .text rule.name) settings.onExit ++
    Toml.entry? Policy.signalKey (fun rule => .text rule.name) settings.onSignal

/-- The settings but for the rules, as entries of their table. -/
def QueueSettings.entries (settings : QueueSettings) : List (String × Value) :=
  Toml.entry? "parallelism" (fun n : Nat => .integer n) settings.parallelism ++
    Toml.entry? "separate_errors" .boolean settings.separateErrors

/-- What is set for a task, as entries of its table. -/
def TaskEntry.entries (entry : TaskEntry) : List (String × Value) :=
  Toml.entry? "name" .text entry.name ++
    [("program", .text entry.program), ("args", .texts entry.args), ("env", .texts entry.env)] ++
    Toml.entry? "separate_errors" .boolean entry.separateErrors

theorem PolicySettings.listable_entries (settings : PolicySettings) : Listable settings.entries :=
  listable_append (listable_optional (by decide) fun _ _ => .text _) (listable_optional (by decide) fun _ _ => .text _)

theorem PolicySettings.keys_nodup (settings : PolicySettings) : (keysOf settings.entries).Nodup := by
  have hkeys : (keysOf settings.entries).Sublist [Policy.exitKey, Policy.signalKey] := by
    rw [entries, keysOf_append]
    exact (keysOf_optional _ _ _).append (keysOf_optional _ _ _)
  exact List.Nodup.sublist hkeys (by decide)

theorem QueueSettings.listable_entries {settings : QueueSettings} (h : settings.Fits) : Listable settings.entries :=
  listable_append (listable_optional (by decide) fun n hn => .integer n (h n hn))
    (listable_optional (by decide) fun b _ => .boolean b)

theorem QueueSettings.keys_nodup (settings : QueueSettings) : ("policy" :: keysOf settings.entries).Nodup := by
  have hkeys : (keysOf settings.entries).Sublist ["parallelism", "separate_errors"] := by
    rw [entries, keysOf_append]
    exact (keysOf_optional _ _ _).append (keysOf_optional _ _ _)
  exact List.Nodup.sublist (hkeys.cons_cons "policy") (by decide)

theorem TaskEntry.listable_entries (entry : TaskEntry) : Listable entry.entries := by
  refine listable_append (listable_append (listable_optional (by decide) fun s _ => .text s) ?_)
    (listable_optional (by decide) fun b _ => .boolean b)
  exact listable_append (listable_one (by decide) (.text _))
    (listable_append (listable_one (by decide) (.texts _)) (listable_one (by decide) (.texts _)))

theorem TaskEntry.keys_nodup (entry : TaskEntry) : (keysOf entry.entries).Nodup := by
  have hkeys : (keysOf entry.entries).Sublist ["name", "program", "args", "env", "separate_errors"] := by
    rw [entries, keysOf_append, keysOf_append]
    exact ((keysOf_optional _ _ _).append (List.Sublist.refl _)).append (keysOf_optional _ _ _)
  exact List.Nodup.sublist hkeys (by decide)

theorem QueueSettings.toToml_eq (settings : QueueSettings) :
    settings.toToml = .table (settings.entries ++ [("policy", .table settings.policy.entries)]) := by
  obtain ⟨parallelism, separateErrors, policy⟩ := settings
  cases parallelism <;> rfl

/-- The layout of a configuration. -/
def Configuration.layout (config : Configuration) : Layout where
  root := [("version", .integer config.version)]
  queue := config.queue.entries
  policy := config.queue.policy.entries
  tasks := []

/-- The layout of a batch. An array without tasks is a pair like any other. -/
def Batch.layout (batch : Batch) : Layout where
  root := if batch.tasks.isEmpty then [Layout.taskArray []] else []
  queue := batch.queue.entries
  policy := batch.queue.policy.entries
  tasks := batch.tasks.map TaskEntry.entries

theorem Configuration.layout_sound {config : Configuration} (hversion : config.version ≤ 0xFFFFFFFF)
    (h : config.queue.Fits) : config.layout.Sound where
  root := listable_one (by decide) (.integer config.version (by omega))
  queue := QueueSettings.listable_entries h
  policy := config.queue.policy.listable_entries
  tasks := fun _ hentries => nomatch hentries
  root_nodup := by
    show ["queue", "version"].Nodup
    decide
  root_tasks := fun hne => absurd rfl hne
  queue_nodup := config.queue.keys_nodup
  policy_nodup := config.queue.policy.keys_nodup
  tasks_nodup := fun _ hentries => nomatch hentries

theorem Batch.layout_sound {batch : Batch} (h : batch.queue.Fits) : batch.layout.Sound where
  root := by
    rw [layout]
    split
    · exact listable_one (by decide) (.texts [])
    · exact fun _ hentry => nomatch hentry
  queue := QueueSettings.listable_entries h
  policy := batch.queue.policy.listable_entries
  tasks := fun entries hentries => by
    obtain ⟨entry, -, rfl⟩ := List.mem_map.mp hentries
    exact entry.listable_entries
  root_nodup := by
    rw [layout]
    split
    · show ["queue", "task"].Nodup
      decide
    · show ["queue"].Nodup
      decide
  root_tasks := fun hne => by
    have htasks : batch.tasks.isEmpty = false := by simpa [layout] using hne
    simp [layout, htasks, keysOf]
  queue_nodup := batch.queue.keys_nodup
  policy_nodup := batch.queue.policy.keys_nodup
  tasks_nodup := fun entries hentries => by
    obtain ⟨entry, -, rfl⟩ := List.mem_map.mp hentries
    exact entry.keys_nodup

/-! ## Texts of documents -/

theorem read_of_parse? {α : Type} {decoder : Decode.Decoder α} {text : String} {document : Value} {value : α}
    (hparse : parse? text = some document) (hdecode : decoder document.toNode = .ok value) :
    Toml.read decoder text = .ok value := by
  simp [Toml.read, hparse, hdecode]

/-- The text of a configuration is read as the configuration. -/
theorem Configuration.read_written {config : Configuration} (hversion : config.version ≤ 0xFFFFFFFF)
    (h : config.queue.Fits) :
    ∃ text, write? config.toToml = some text ∧ Toml.read Configuration.decode text = .ok config := by
  have htable : config.toToml = .table (config.layout.root ++ [("queue", config.layout.queueTable)]) := by
    rw [toToml, QueueSettings.toToml_eq]
    rfl
  have hdocument : config.layout.document = config.toToml := htable.symm
  have hroot : config.layout.root = config.layout.root ++ [] := (List.append_nil _).symm
  obtain ⟨text, hwrite, hparse⟩ := (layout_sound hversion h).read_plain hroot rfl
  rw [hdocument] at hparse
  exact ⟨text, htable ▸ hwrite, read_of_parse? hparse (decode_toToml hversion h)⟩

/-- The text of a batch is read as the batch. -/
theorem Batch.read_written {batch : Batch} (h : batch.queue.Fits) :
    ∃ text, write? batch.toToml = some text ∧ Toml.read Batch.decode text = .ok batch := by
  have hsound := layout_sound h
  have hqueue : batch.queue.toToml = batch.layout.queueTable := by
    rw [QueueSettings.toToml_eq]
    rfl
  have htasks : batch.tasks.map TaskEntry.toToml = batch.layout.tasks.map .table := by
    rw [layout, List.map_map]
    rfl
  have htable : batch.toToml = .table [("queue", batch.layout.queueTable), Layout.taskArray batch.layout.tasks] := by
    rw [toToml, hqueue, htasks]
    rfl
  -- Without tasks the array is a pair in front of all headers; else its tables stand behind the queue's.
  by_cases hempty : batch.tasks = []
  · have hnone : batch.layout.tasks = [] := by simp [layout, hempty]
    have hroot : batch.layout.root = [] ++ [Layout.taskArray batch.layout.tasks] := by simp [layout, hempty]
    obtain ⟨text, hwrite, hparse⟩ := hsound.read_plain hroot hnone
    refine ⟨text, htable ▸ hwrite, read_of_parse? hparse ?_⟩
    have hdocument : batch.layout.document =
        .table [("task", .array (batch.tasks.map TaskEntry.toToml)), ("queue", batch.queue.toToml)] := by
      simp [Layout.document, hroot, hnone, Layout.taskArray, hempty, hqueue]
    rw [hdocument]
    exact decode_table h (.inr rfl)
  · have hsome : batch.layout.tasks ≠ [] := by simpa [layout] using hempty
    have hroot : batch.layout.root = [] := by simp [layout, hempty]
    obtain ⟨text, hwrite, hparse⟩ := hsound.read_tasks hroot hsome
    refine ⟨text, htable ▸ hwrite, read_of_parse? hparse ?_⟩
    have hdocument : batch.layout.document =
        .table [("queue", batch.queue.toToml), ("task", .array (batch.tasks.map TaskEntry.toToml))] := by
      simp [Layout.document, hroot, hsome, hqueue, htasks]
    rw [hdocument]
    exact decode_table h (.inl rfl)

/-! ## Numbers that no document can hold -/

theorem QueueSettings.fits_of_representable {settings : QueueSettings} (h : representable settings.toToml = true) :
    settings.Fits := by
  intro n hn
  rw [toToml_eq] at h
  have hmem : ("parallelism", Value.integer n) ∈
      settings.entries ++ [("policy", Value.table settings.policy.entries)] := by
    have hsome : settings.parallelism = some n := hn
    simp [entries, Toml.entry?, hsome]
  have hrange := (representableEntries_iff _).mp h _ hmem
  dsimp only at hrange
  rw [representable] at hrange
  exact (inRange_iff n).mp hrange

/-- A table that settings stand in is not written unless they fit. -/
theorem write?_eq_none {settings : QueueSettings} (h : ¬ settings.Fits) {entries : List (String × Value)}
    (hmem : ("queue", settings.toToml) ∈ entries) : write? (.table entries) = none := by
  have hrange : ¬ representable (.table entries) = true := fun hrange =>
    h (QueueSettings.fits_of_representable ((representableEntries_iff _).mp hrange _ hmem))
  rw [write?, if_neg hrange]

theorem Configuration.write?_toToml {config : Configuration} (h : ¬ config.queue.Fits) :
    write? config.toToml = none :=
  write?_eq_none h (by simp)

theorem Batch.write?_toToml {batch : Batch} (h : ¬ batch.queue.Fits) : write? batch.toToml = none :=
  write?_eq_none h (by simp)

/-! ## Stores -/

/-- A value has a document whose text is read as that value. -/
def Stored.ReadsBack {α : Type} [Stored α] (value : α) : Prop :=
  ∃ text, write? (toToml value) = some text ∧ Toml.read decode text = .ok value

namespace Store

variable {α : Type} [Stored α] {store : Store} {space after : Workspace} {file : String} {value : α}

/-- Whichever way a document is loaded, it is the value that was saved. -/
structure Holds (store : Store) (space : Workspace) (file : String) (value : α) : Prop where
  load : store.load space file = .ok value
  loadOptional : store.loadOptional space file = .ok (some value)
  loadOrDefault : store.loadOrDefault space file = value

/-- A value is not saved. The fault is that of its number, unless the directory of the store cannot be made
already; and every file that could be read keeps its bytes. -/
structure Refuses (store : Store) (space : Workspace) (file : String) (value : α) : Prop where
  fault : ∃ fault, (store.save space file value).1 = .error (.config fault) ∧
    ∀ made, store.ensureDirectory space = .ok made → fault = .outOfRange
  kept (path : String) (bytes : ByteArray) : Files.readBytes space.tree space.cwd path = .ok bytes →
    Files.readBytes (store.save space file value).2.tree (store.save space file value).2.cwd path = .ok bytes

theorem ensureDirectory_extends {made : Workspace} (h : store.ensureDirectory space = .ok made) :
    space.tree.Extends made.tree ∧ made.cwd = space.cwd := by
  rw [ensureDirectory] at h
  split at h
  · cases h
    exact ⟨.refl _, rfl⟩
  split at h
  · rename_i tree hmade
    cases h
    exact ⟨Files.createDirectories_extends hmade, rfl⟩
  · cases h

theorem ensureDirectory_error {error : Error} (h : store.ensureDirectory space = .error error) :
    ∃ fault, error = .config (.noDirectory fault) := by
  rw [ensureDirectory] at h
  split at h
  · cases h
  split at h
  · cases h
  · cases h
    exact ⟨_, rfl⟩

theorem loadPath_eq_ok_iff {path : String} : loadPath space path = .ok value ↔
    ∃ text, Files.readText space.tree space.cwd path = .ok text ∧ Toml.read Stored.decode text = .ok value := by
  rw [loadPath]
  cases Files.readText space.tree space.cwd path with
  | error fault => simp
  | ok text => cases hread : Toml.read (Stored.decode : Decode.Decoder α) text <;> simp [hread]

/-- An optional document is there if there is a text for it. -/
theorem loadOptional_eq_some_iff : store.loadOptional space file = .ok (some value) ↔
    ∃ text, Files.readText space.tree space.cwd (store.filePath file) = .ok text ∧
      Toml.read Stored.decode text = .ok value := by
  rw [loadOptional, ← loadPath_eq_ok_iff]
  constructor
  · intro h
    split at h
    · cases hload : (store.load space file : Except Error α) with
      | error error =>
        rw [hload] at h
        cases h
      | ok loaded =>
        rw [hload] at h
        cases h
        exact hload
    · cases h
  · intro h
    obtain ⟨text, hread, -⟩ := loadPath_eq_ok_iff.1 h
    have hcontains : store.contains space file = true := Files.pathExists_of_readBytes (Files.readText_ok hread)
    rw [if_pos hcontains, load, h]
    rfl

/-- A value is saved by writing the text of its document, once the directory is there. -/
theorem save_ok (h : store.save space file value = (.ok (), after)) :
    ∃ (text : String) (tree : Files.Tree), write? (Stored.toToml value) = some text ∧ space.tree.Extends tree ∧
      after.cwd = space.cwd ∧ Files.writeText tree space.cwd (store.filePath file) text = .ok after.tree := by
  rw [save] at h
  split at h
  · cases h
  rename_i made hmade
  obtain ⟨hextends, hcwd⟩ := ensureDirectory_extends hmade
  split at h
  · cases h
  rename_i text hwrite
  split at h
  · cases h
  rename_i tree hwritten
  cases h
  exact ⟨text, made.tree, hwrite, hextends, hcwd, hcwd ▸ hwritten⟩

/-- A value whose text is read back is loaded after it was saved. -/
theorem holds_of_save (hread : Stored.ReadsBack value) (h : store.save space file value = (.ok (), after))
    (hfile : Files.namesReadable after.tree after.cwd (store.filePath file) = true) :
    store.Holds after file value := by
  obtain ⟨text, tree, hwrite, -, hcwd, hwritten⟩ := save_ok h
  rw [← hcwd] at hwritten
  obtain ⟨text', hwrite', hread⟩ := hread
  have htext : text' = text := by
    rw [hwrite] at hwrite'
    exact (Option.some.inj hwrite').symm
  subst htext
  have htext := Files.readText_writeText hwritten hfile
  have hload : store.load after file = .ok value := loadPath_eq_ok_iff.2 ⟨_, htext, hread⟩
  exact ⟨hload, loadOptional_eq_some_iff.2 ⟨_, htext, hread⟩, by simp only [loadOrDefault, hload]⟩

theorem save_ne_outOfRange (hread : Stored.ReadsBack value) :
    (store.save space file value).1 ≠ .error (.config .outOfRange) := by
  obtain ⟨text, hwrite, -⟩ := hread
  intro hsave
  rw [save] at hsave
  split at hsave
  · rename_i error hmade
    obtain ⟨fault, rfl⟩ := ensureDirectory_error hmade
    cases hsave
  · rw [hwrite] at hsave
    simp only at hsave
    split at hsave <;> cases hsave

/-- A value without a document is refused. -/
theorem refuses_of_write? (h : write? (Stored.toToml value) = none) : store.Refuses space file value := by
  cases hmade : store.ensureDirectory space with
  | error error =>
    have hsave : store.save space file value = (.error error, space) := by simp only [save, hmade]
    obtain ⟨fault, rfl⟩ := ensureDirectory_error hmade
    refine ⟨⟨.noDirectory fault, by rw [hsave], fun made h => ?_⟩, fun path bytes hread => ?_⟩
    · rw [hmade] at h
      cases h
    · rw [hsave]
      exact hread
  | ok made =>
    have hsave : store.save space file value = (.error (.config .outOfRange), made) := by
      simp only [save, hmade, h]
    obtain ⟨hextends, hcwd⟩ := ensureDirectory_extends hmade
    refine ⟨⟨.outOfRange, by rw [hsave], fun _ _ => rfl⟩, fun path bytes hread => ?_⟩
    rw [hsave, hcwd]
    exact Files.readBytes_extends hextends hread

end Store

/-! ## Saving and loading -/

/-- A saved configuration is laid over another one as it was. -/
theorem Configuration.mergeFrom_of_holds {config : Configuration} {store : Store} {space : Workspace}
    (h : store.Holds space Configuration.fileName config) (lower : Configuration) :
    lower.mergeFrom store space = .ok (lower.merge config) :=
  except_bind_ok.mpr ⟨some config, h.loadOptional, rfl⟩

/-- A saved batch is loaded if and only if it is a valid one. -/
theorem Batch.load_of_holds {batch : Batch} {store : Store} {space : Workspace} {file : String}
    (h : store.Holds space file batch) (loaded : Batch) :
    Batch.load space (store.filePath file) = .ok loaded ↔ loaded = batch ∧ batch.validate = .ok () := by
  have hload : loadPath space (store.filePath file) = .ok batch := h.load
  constructor
  · intro hloaded
    obtain ⟨read, hread, hrest⟩ := except_bind_ok.mp hloaded
    obtain ⟨_, hvalid, hreturn⟩ := except_bind_ok.mp hrest
    rw [hload] at hread
    cases hread
    cases hreturn
    exact ⟨rfl, hvalid⟩
  · rintro ⟨rfl, hvalid⟩
    exact except_bind_ok.mpr ⟨_, hload, except_bind_ok.mpr ⟨(), hvalid, rfl⟩⟩

namespace Store

variable (store : Store) (space : Workspace) (file : String)

/-- What was saved is loaded as it was: options that are set are set to the same values, options that are open
stay open, and every text is the same. Only the directory or the file can keep it from being saved. A number of
tasks that no document can hold is refused, and every file keeps its bytes. The version is any of its range. What
is written has to be a file that may be read: a device keeps nothing, and permissions may keep the file closed. -/
theorem load_after_save :
    (∀ config : Configuration,
      (config.version ≤ 0xFFFFFFFF → config.queue.Fits →
        (store.save space file config).1 ≠ .error (.config .outOfRange) ∧
        ∀ after, store.save space file config = (.ok (), after) →
          Files.namesReadable after.tree after.cwd (store.filePath file) = true →
          store.Holds after file config ∧
            (file = Configuration.fileName → ∀ lower : Configuration,
              lower.mergeFrom store after = .ok (lower.merge config))) ∧
      (¬ config.queue.Fits → store.Refuses space file config)) ∧
    ∀ batch : Batch,
      (batch.queue.Fits →
        (store.save space file batch).1 ≠ .error (.config .outOfRange) ∧
        ∀ after, store.save space file batch = (.ok (), after) →
          Files.namesReadable after.tree after.cwd (store.filePath file) = true →
          store.Holds after file batch ∧
            ∀ loaded, Batch.load after (store.filePath file) = .ok loaded ↔
              loaded = batch ∧ batch.validate = .ok ()) ∧
      (¬ batch.queue.Fits → store.Refuses space file batch) := by
  refine ⟨fun config => ⟨fun hversion h => ?_, fun h => ?_⟩, fun batch => ⟨fun h => ?_, fun h => ?_⟩⟩
  · have hread := config.read_written hversion h
    refine ⟨save_ne_outOfRange hread, fun after hsave hfile => ?_⟩
    have hholds : store.Holds after file config := holds_of_save hread hsave hfile
    refine ⟨hholds, fun hname lower => ?_⟩
    subst hname
    exact Configuration.mergeFrom_of_holds hholds lower
  · exact refuses_of_write? (Configuration.write?_toToml h)
  · have hread := batch.read_written h
    refine ⟨save_ne_outOfRange hread, fun after hsave hfile => ?_⟩
    have hholds : store.Holds after file batch := holds_of_save hread hsave hfile
    exact ⟨hholds, Batch.load_of_holds hholds⟩
  · exact refuses_of_write? (Batch.write?_toToml h)

/-- A store at the root of a host without files. -/
def rootStore : Store := ⟨"/"⟩

/-- A host without files. -/
def emptySpace : Workspace := ⟨.empty, []⟩

/-- A batch whose texts need quotes of several kinds, and most of whose options are open. -/
def quotedBatch : Batch where
  queue := { parallelism := some 0x7FFFFFFFFFFFFFFF, policy := { onExit := some .ignoreNonZero } }
  tasks := [
    { name := some "\n'''\"\"\"", program := "printf", args := ["\\\x07\r", "a\"b", ""], env := ["A=\t'"] },
    { program := "true", separateErrors := some false }]

/-- The settings of the batch as a configuration. -/
def quotedConfiguration : Configuration := { queue := quotedBatch.queue }

/-- One task more at once than a document can hold. -/
def tooMany : Configuration := { queue := { parallelism := some 0x8000000000000000 } }

theorem eq_ok_of_isOk {answer : Except Error Unit} (h : answer.isOk = true) : answer = .ok () := by
  cases answer with
  | error error => cases h
  | ok value => rfl

theorem load_after_save_of_quotes :
    (∃ after, rootStore.save emptySpace Configuration.fileName quotedConfiguration = (.ok (), after) ∧
      rootStore.Holds after Configuration.fileName quotedConfiguration ∧
      Configuration.unset.mergeFrom rootStore after = .ok (Configuration.unset.merge quotedConfiguration)) ∧
    rootStore.Refuses emptySpace Configuration.fileName tooMany ∧
    ∃ after, rootStore.save emptySpace "batch.toml" quotedBatch = (.ok (), after) ∧
      rootStore.Holds after "batch.toml" quotedBatch ∧
      Batch.load after (rootStore.filePath "batch.toml") = .ok quotedBatch := by
  have hfits : quotedBatch.queue.Fits := by
    intro n hn
    cases hn
    decide
  have hmany : ¬ tooMany.queue.Fits := fun h => absurd (h 0x8000000000000000 rfl) (by decide)
  have hconfiguration : rootStore.save emptySpace Configuration.fileName quotedConfiguration =
      (.ok (), (rootStore.save emptySpace Configuration.fileName quotedConfiguration).2) :=
    Prod.ext (eq_ok_of_isOk (by decide +kernel)) rfl
  have hbatch : rootStore.save emptySpace "batch.toml" quotedBatch =
      (.ok (), (rootStore.save emptySpace "batch.toml" quotedBatch).2) :=
    Prod.ext (eq_ok_of_isOk (by decide +kernel)) rfl
  obtain ⟨hconfigurations, -⟩ := load_after_save rootStore emptySpace Configuration.fileName
  obtain ⟨-, hbatches⟩ := load_after_save rootStore emptySpace "batch.toml"
  obtain ⟨hheld, hmerge⟩ := ((hconfigurations quotedConfiguration).1 (by decide) hfits).2 _ hconfiguration
    (by decide +kernel)
  obtain ⟨hheld', hloaded⟩ := ((hbatches quotedBatch).1 hfits).2 _ hbatch (by decide +kernel)
  have hvalid : quotedBatch.validate = .ok () := eq_ok_of_isOk (by decide +kernel)
  exact ⟨⟨_, hconfiguration, hheld, hmerge rfl _⟩, (hconfigurations tooMany).2 hmany,
    _, hbatch, hheld', (hloaded quotedBatch).mpr ⟨rfl, hvalid⟩⟩

end Store

end BatchRunner
