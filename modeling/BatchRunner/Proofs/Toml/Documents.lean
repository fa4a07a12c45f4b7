import BatchRunner.Proofs.Toml.Lines

/-!
# Documents of settings are read back

A document of settings has pairs of its own, a table `queue` with a table `policy` in it, and a table of the array
`task` for each command (`Layout`). It is written with one block for each of these tables; the block of `queue` is
left out when nothing stands in it but the other table, and an array without elements is written as a pair. Read
back, the sections put every value in the table that it came from (`Layout.Sound.read_back`).
-/

namespace BatchRunner.Toml

/-! ## Assembling sections -/

/-- The items that entries with values make. -/
def itemsOf (entries : List (String × Value)) : List (String × Item) :=
  entries.map fun entry => (entry.1, .value entry.2)

/-- The keys of entries. -/
def keysOf {α : Type} (entries : List (String × α)) : List String := entries.map (·.1)

theorem lookup_eq_none {α : Type} {entries : List (String × α)} {key : String} (h : key ∉ keysOf entries) :
    entries.lookup key = none := by
  rw [List.lookup_eq_none_iff]
  intro entry hentry
  have hne : key ≠ entry.1 := fun heq => h (heq ▸ List.mem_map_of_mem hentry)
  simpa using hne

@[simp] theorem itemsOf_nil : itemsOf [] = [] := rfl

theorem keysOf_itemsOf (entries : List (String × Value)) : keysOf (itemsOf entries) = keysOf entries := by
  simp [keysOf, itemsOf]

theorem assign_key {key : String} {value : Value} {implied : Bool} {items : List (String × Item)}
    (h : key ∉ keysOf items) :
    Draft.assign [key] value ⟨implied, false, items⟩ = some ⟨implied, false, items ++ [(key, .value value)]⟩ := by
  simp [Draft.assign, Draft.modifyAt, lookup_eq_none h, Draft.push]

/-- Pairs with keys of their own are put at the end of a table. -/
theorem assignAll_pairsOf {entries : List (String × Value)} {implied : Bool} {items : List (String × Item)}
    (h : (keysOf items ++ keysOf entries).Nodup) :
    Draft.assignAll (pairsOf entries) ⟨implied, false, items⟩ = some ⟨implied, false, items ++ itemsOf entries⟩ := by
  induction entries generalizing items with
  | nil => simp [pairsOf, itemsOf, Draft.assignAll]
  | cons entry entries ih =>
    have hfirst : entry.1 ∉ keysOf items := fun hmem =>
      (List.nodup_append.mp h).2.2 _ hmem entry.1 (by simp [keysOf]) rfl
    have hmore : (keysOf (items ++ [(entry.1, .value entry.2)]) ++ keysOf entries).Nodup := by
      simpa [keysOf] using h
    have ih := ih hmore
    simp only [Draft.assignAll] at ih
    simp [Draft.assignAll, pairsOf, assign_key hfirst]
    simpa [pairsOf, itemsOf] using ih

theorem assignAll_opened {entries : List (String × Value)} (h : (keysOf entries).Nodup) :
    Draft.opened.assignAll (pairsOf entries) = some ⟨false, false, itemsOf entries⟩ := by
  have hnew : (keysOf ([] : List (String × Item)) ++ keysOf entries).Nodup := by simpa [keysOf] using h
  exact assignAll_pairsOf hnew

section last

variable {key : String} {items : List (String × Item)}

theorem lookup_last (h : key ∉ keysOf items) (item : Item) : (items ++ [(key, item)]).lookup key = some item := by
  simp [List.lookup_append, lookup_eq_none h]

theorem replace_last (h : key ∉ keysOf items) (implied dotted : Bool) (old new : Item) :
    Draft.replace ⟨implied, dotted, items ++ [(key, old)]⟩ key new = ⟨implied, dotted, items ++ [(key, new)]⟩ := by
  have hself : ∀ entry ∈ items, (if entry.1 == key then (key, new) else entry) = entry := by
    intro entry hentry
    have hne : entry.1 ≠ key := fun heq => h (heq ▸ List.mem_map_of_mem hentry)
    simp [hne]
  rw [Draft.replace, List.map_append, List.map_congr_left hself, List.map_id']
  simp

/-- A table that no header has opened yet is put at the end of the one that holds it. -/
theorem openIn_new (h : key ∉ keysOf items) {entries : List (String × Value)} (hentries : (keysOf entries).Nodup)
    (implied dotted : Bool) (path : List String) :
    Section.openIn ⟨false, path, pairsOf entries⟩ key ⟨implied, dotted, items⟩ =
      some ⟨implied, dotted, items ++ [(key, .table false false (itemsOf entries))]⟩ := by
  have hassign : Draft.opened.assignAll (pairsOf entries) = some ⟨false, false, itemsOf entries⟩ :=
    assignAll_opened hentries
  simp [Section.openIn, lookup_eq_none h, hassign, Draft.push, Draft.toItem]

/-- The first table of an array starts it. -/
theorem openIn_first (h : key ∉ keysOf items) {entries : List (String × Value)} (hentries : (keysOf entries).Nodup)
    (implied dotted : Bool) (path : List String) :
    Section.openIn ⟨true, path, pairsOf entries⟩ key ⟨implied, dotted, items⟩ =
      some ⟨implied, dotted, items ++ [(key, .tables [itemsOf entries])]⟩ := by
  have hassign : Draft.opened.assignAll (pairsOf entries) = some ⟨false, false, itemsOf entries⟩ :=
    assignAll_opened hentries
  simp [Section.openIn, lookup_eq_none h, hassign, Draft.push]

/-- A further table of an array is put at its end. -/
theorem openIn_next (h : key ∉ keysOf items) {entries : List (String × Value)} (hentries : (keysOf entries).Nodup)
    (implied dotted : Bool) (path : List String) (elements : List (List (String × Item))) :
    Section.openIn ⟨true, path, pairsOf entries⟩ key ⟨implied, dotted, items ++ [(key, .tables elements)]⟩ =
      some ⟨implied, dotted, items ++ [(key, .tables (elements ++ [itemsOf entries]))]⟩ := by
  have hassign : Draft.opened.assignAll (pairsOf entries) = some ⟨false, false, itemsOf entries⟩ :=
    assignAll_opened hentries
  simp [Section.openIn, lookup_last h, hassign, replace_last h]

end last

/-! ## The tables of settings -/

/-- The settings of a document, table by table. -/
structure Layout where
  /-- The entries in front of all headers. -/
  root : List (String × Value)
  queue : List (String × Value)
  policy : List (String × Value)
  tasks : List (List (String × Value))

namespace Layout

/-- The table of the queue as it is read. -/
def queueTable (l : Layout) : Value := .table (l.queue ++ [("policy", .table l.policy)])

/-- The tables under headers that write the one of the queue. -/
def queueTables (l : Layout) : List Headed :=
  (if l.queue.isEmpty then [] else [⟨false, ["queue"], l.queue⟩]) ++ [⟨false, ["queue", "policy"], l.policy⟩]

/-- The tables under headers that write the tasks. -/
def taskTables (l : Layout) : List Headed := l.tasks.map fun entries => ⟨true, ["task"], entries⟩

/-- The document that is read. -/
def document (l : Layout) : Value :=
  .table (l.root ++ [("queue", l.queueTable)] ++
    if l.tasks.isEmpty then [] else [("task", .array (l.tasks.map .table))])

/-- Whether the tables are those of settings: no key stands twice in a table, none is the name of another table
beside it, and every key and value can be listed. -/
structure Sound (l : Layout) : Prop where
  root : Listable l.root
  queue : Listable l.queue
  policy : Listable l.policy
  tasks : ∀ entries ∈ l.tasks, Listable entries
  root_nodup : ("queue" :: keysOf l.root).Nodup
  root_tasks : l.tasks ≠ [] → "task" ∉ keysOf l.root
  queue_nodup : ("policy" :: keysOf l.queue).Nodup
  policy_nodup : (keysOf l.policy).Nodup
  tasks_nodup : ∀ entries ∈ l.tasks, (keysOf entries).Nodup

/-- The items of the table of the queue. -/
def queueItems (l : Layout) : List (String × Item) :=
  itemsOf l.queue ++ [("policy", .table false false (itemsOf l.policy))]

/-- The items of the whole document. -/
def items (l : Layout) : List (String × Item) :=
  itemsOf l.root ++ [("queue", .table l.queue.isEmpty false l.queueItems)] ++
    if l.tasks.isEmpty then [] else [("task", .tables (l.tasks.map itemsOf))]

namespace Sound

variable {l : Layout}

theorem tables_sound (h : l.Sound) : ∀ t ∈ l.queueTables ++ l.taskTables, t.Sound := by
  intro t ht
  simp only [queueTables, taskTables, List.mem_append, List.mem_singleton, List.mem_map] at ht
  rcases ht with (ht | rfl) | ⟨entries, hentries, rfl⟩
  · split at ht
    · cases ht
    · obtain rfl := List.mem_singleton.mp ht
      exact .of_path (by decide) false h.queue
  · exact .of_path (by decide) false h.policy
  · exact .of_path (by decide) true (h.tasks entries hentries)

theorem addTo_elements {tasks : List (List (String × Value))} (htasks : ∀ entries ∈ tasks, (keysOf entries).Nodup)
    {items : List (String × Item)} (hitems : "task" ∉ keysOf items) (elements : List (List (String × Item))) :
    (tasks.map fun entries => Section.mk true ["task"] (pairsOf entries)).foldlM (fun t s => s.addTo t)
        (Draft.mk false false (items ++ [("task", .tables elements)])) =
      some ⟨false, false, items ++ [("task", .tables (elements ++ tasks.map itemsOf))]⟩ := by
  induction tasks generalizing elements with
  | nil => simp
  | cons entries tasks ih =>
    have hentries := htasks entries (by simp)
    have ih := ih (fun more hmore => htasks more (by simp [hmore])) (elements ++ [itemsOf entries])
    have hnext := openIn_next hitems hentries false false ["task"] elements
    simpa [Section.addTo, Draft.modifyAt, hnext] using ih

theorem root_queue (h : l.Sound) : "queue" ∉ keysOf (itemsOf l.root) := by
  rw [keysOf_itemsOf]
  exact (List.nodup_cons.mp h.root_nodup).1

theorem addTo_queue (h : l.Sound) :
    (l.queueTables.map Headed.toSection).foldlM (fun t s => s.addTo t) (Draft.mk false false (itemsOf l.root)) =
      some ⟨false, false, itemsOf l.root ++ [("queue", Item.table l.queue.isEmpty false l.queueItems)]⟩ := by
  have hroot := h.root_queue
  have hpolicy : "policy" ∉ keysOf (itemsOf l.queue) := by
    rw [keysOf_itemsOf]
    exact (List.nodup_cons.mp h.queue_nodup).1
  have hinner (implied : Bool) := openIn_new hpolicy h.policy_nodup implied false ["queue", "policy"]
  by_cases hqueue : l.queue = []
  -- Without a header of its own the table is made by the header of the one in it.
  · simp only [hqueue, itemsOf_nil, List.nil_append] at hinner
    simp [queueTables, queueItems, hqueue, Headed.toSection, Section.addTo, Draft.modifyAt, lookup_eq_none hroot,
      hinner, Draft.push, Draft.toItem]
  · have hnodup : (keysOf l.queue).Nodup := (List.nodup_cons.mp h.queue_nodup).2
    have houter := openIn_new hroot hnodup false false ["queue"]
    simp [queueTables, queueItems, hqueue, Headed.toSection, Section.addTo, Draft.modifyAt, houter,
      lookup_last hroot, replace_last hroot, hinner, Draft.toItem]

theorem addTo_tasks (h : l.Sound) {items : List (String × Item)}
    (hitems : l.tasks ≠ [] → "task" ∉ keysOf items) :
    (l.taskTables.map Headed.toSection).foldlM (fun t s => s.addTo t) (Draft.mk false false items) =
      some ⟨false, false, items ++
        if l.tasks.isEmpty then [] else [("task", Item.tables (l.tasks.map itemsOf))]⟩ := by
  have hnodup := h.tasks_nodup
  have hsections : l.taskTables.map Headed.toSection =
      l.tasks.map fun entries => Section.mk true ["task"] (pairsOf entries) := by
    simp [taskTables, Headed.toSection, Function.comp_def]
  rw [hsections]
  cases htasks : l.tasks with
  | nil => simp
  | cons entries tasks =>
    rw [htasks] at hnodup hitems
    have hitems := hitems (by simp)
    have hfirst := openIn_first hitems (hnodup entries (by simp)) false false ["task"]
    have hnodup' : ∀ more ∈ tasks, (keysOf more).Nodup := fun more hmore => hnodup more (by simp [hmore])
    have hmore := addTo_elements hnodup' hitems [itemsOf entries]
    simpa [Section.addTo, Draft.modifyAt, hfirst] using hmore

theorem addTo_sections (h : l.Sound) :
    (⟨false, [], pairsOf l.root⟩ :: (l.queueTables ++ l.taskTables).map Headed.toSection).foldlM
      (fun t s => s.addTo t) Draft.opened = some ⟨false, false, l.items⟩ := by
  have hroot : (⟨false, [], pairsOf l.root⟩ : Section).addTo Draft.opened = some ⟨false, false, itemsOf l.root⟩ :=
    assignAll_opened (List.nodup_cons.mp h.root_nodup).2
  have htask : l.tasks ≠ [] →
      "task" ∉ keysOf (itemsOf l.root ++ [("queue", Item.table l.queue.isEmpty false l.queueItems)]) := by
    intro hne
    have hroot := h.root_tasks hne
    rw [← keysOf_itemsOf] at hroot
    simpa [keysOf] using hroot
  rw [List.map_append, List.foldlM_cons, hroot, Option.bind_eq_bind, Option.bind_some, List.foldlM_append,
    h.addTo_queue]
  exact h.addTo_tasks htask

end Sound

end Layout

/-! ## The values of assembled items -/

theorem entryValues_append (items more : List (String × Item)) :
    Item.entryValues (items ++ more) = Item.entryValues items ++ Item.entryValues more := by
  induction items with
  | nil => rfl
  | cons item items ih => simp [Item.entryValues, ih]

theorem entryValues_itemsOf (entries : List (String × Value)) : Item.entryValues (itemsOf entries) = entries := by
  induction entries with
  | nil => rfl
  | cons entry entries ih =>
    simp only [itemsOf, List.map_cons, Item.entryValues, Item.toValue] at ih ⊢
    rw [ih]

theorem tableValues_itemsOf (tasks : List (List (String × Value))) :
    Item.tableValues (tasks.map itemsOf) = tasks.map .table := by
  induction tasks with
  | nil => rfl
  | cons entries tasks ih => simp [Item.tableValues, entryValues_itemsOf, ih]

/-- The sections of a layout make its document. -/
theorem Layout.Sound.document?_eq {l : Layout} (h : l.Sound) :
    document? (⟨false, [], pairsOf l.root⟩ :: (l.queueTables ++ l.taskTables).map Headed.toSection) =
      some l.document := by
  rw [document?, h.addTo_sections, Option.bind_eq_bind, Option.bind_some, document]
  simp only [items, entryValues_append, entryValues_itemsOf, Item.entryValues, Item.toValue, queueItems,
    queueTable]
  cases l.tasks.isEmpty with
  | true => rfl
  | false => simp [Item.entryValues, Item.toValue, tableValues_itemsOf]

/-! ## Writing tables -/

/-- The blocks of the tables in a table. -/
def innerBlocks (fuel : Nat) (path : List String) (entries : List (String × Value)) : List Block :=
  entries.flatMap fun (key, value) => match value with
    | .table sub => blocks fuel (path ++ [key]) false sub
    | value => ((tables? value).getD []).flatMap fun sub => blocks fuel (path ++ [key]) true sub

section writing

variable {fuel : Nat} {path : List String} {entries : List (String × Value)}

theorem innerBlocks_append (more : List (String × Value)) :
    innerBlocks fuel path (entries ++ more) = innerBlocks fuel path entries ++ innerBlocks fuel path more :=
  List.flatMap_append

theorem innerBlocks_of_listable (h : Listable entries) : innerBlocks fuel path entries = [] := by
  apply List.flatMap_eq_nil_iff.mpr
  rintro ⟨key, value⟩ hentry
  cases (h _ hentry).2 with
  | text _ => rfl
  | integer _ _ => rfl
  | boolean _ => rfl
  | texts items => cases items <;> rfl

theorem innerBlocks_table (key : String) (sub : List (String × Value)) :
    innerBlocks fuel path [(key, .table sub)] = blocks fuel (path ++ [key]) false sub := by
  simp [innerBlocks]

theorem tables?_map (first : List (String × Value)) (more : List (List (String × Value))) :
    tables? (.array ((first :: more).map .table)) = some (first :: more) := by
  have hall (tables : List (List (String × Value))) : ((tables.map Value.table).mapM fun item => match item with
      | .table entries => some entries
      | _ => none) = some tables := by
    induction tables with
    | nil => rfl
    | cons t tables ih => simp [ih]
  exact hall (first :: more)

theorem innerBlocks_tables (key : String) (first : List (String × Value)) (more : List (List (String × Value))) :
    innerBlocks fuel path [(key, .array ((first :: more).map .table))] =
      (first :: more).flatMap (blocks fuel (path ++ [key]) true) := by
  have htables := tables?_map first more
  simp only [List.map_cons] at htables
  simp [innerBlocks, htables]

theorem blocks_succ (isElement : Bool) :
    blocks (fuel + 1) path isElement entries =
      if (entries.filter fun entry => isPlain entry.2).isEmpty && !entries.isEmpty && !isElement then
        innerBlocks fuel path entries
      else ⟨path, isElement, plainLines entries⟩ :: innerBlocks fuel path entries := rfl

/-- A table without other tables in it is one block. -/
theorem blocks_of_listable (h : Listable entries) (isElement : Bool) :
    blocks (fuel + 1) path isElement entries = [⟨path, isElement, plainLines entries⟩] := by
  rw [blocks_succ, filter_isPlain h, innerBlocks_of_listable h]
  cases entries <;> simp

theorem blocks_of_elements {tables : List (List (String × Value))} (h : ∀ entries ∈ tables, Listable entries) :
    tables.flatMap (blocks (fuel + 1) path true) = tables.map fun entries => ⟨path, true, plainLines entries⟩ := by
  induction tables with
  | nil => rfl
  | cons entries tables ih =>
    have ih := ih fun more hmore => h more (by simp [hmore])
    rw [List.flatMap_cons, ih, blocks_of_listable (h entries (by simp))]
    rfl

/-- A table with other tables in it has a block of its own if there is anything else in it. -/
theorem blocks_of_tables {plain : List (String × Value)} (hne : entries ≠ [])
    (hplain : (entries.filter fun entry => isPlain entry.2) = plain) (h : Listable plain) :
    blocks (fuel + 1) path false entries =
      (if plain.isEmpty then [] else [⟨path, false, plainLines plain⟩]) ++ innerBlocks fuel path entries := by
  have hlines : plainLines entries = plainLines plain := by
    simp only [plainLines]
    rw [hplain, filter_isPlain h]
  rw [blocks_succ, hplain, hlines]
  cases plain <;> simp [hne]

end writing

/-! ## Numbers that can be written -/

theorem representableItems_iff (items : List Value) :
    representable.representableItems items = true ↔ ∀ item ∈ items, representable item = true := by
  induction items with
  | nil => simp [representable.representableItems]
  | cons item items ih => simp [representable.representableItems, ih]

theorem representableEntries_iff (entries : List (String × Value)) :
    representable.representableEntries entries = true ↔ ∀ entry ∈ entries, representable entry.2 = true := by
  induction entries with
  | nil => simp [representable.representableEntries]
  | cons entry entries ih => simp [representable.representableEntries, ih]

theorem representable_of_readable {v : Value} (h : Readable v) : representable v = true := by
  cases h with
  | text _ => rfl
  | integer n hn => exact (inRange_iff n).mpr hn
  | boolean _ => rfl
  | texts items =>
    refine (representableItems_iff _).mpr fun item hitem => ?_
    obtain ⟨s, -, rfl⟩ := List.mem_map.mp hitem
    rfl

theorem representable_of_listable {entries : List (String × Value)} (h : Listable entries) :
    representable (.table entries) = true :=
  (representableEntries_iff entries).mpr fun entry hentry => representable_of_readable (h entry hentry).2

/-! ## Layouts are read back -/

namespace Layout

/-- The tasks as they are written. -/
def taskArray (tasks : List (List (String × Value))) : String × Value := ("task", .array (tasks.map .table))

namespace Sound

variable {l : Layout}

/-- The blocks of the queue's table and of the one in it. -/
theorem innerBlocks_queue (h : l.Sound) (fuel : Nat) :
    innerBlocks (fuel + 2) [] [("queue", l.queueTable)] = l.queueTables.map Headed.block := by
  have hfilter : ((l.queue ++ [("policy", Value.table l.policy)]).filter fun entry => isPlain entry.2) = l.queue := by
    rw [List.filter_append, filter_isPlain h.queue]
    simp [isPlain]
  have hne : l.queue ++ [("policy", Value.table l.policy)] ≠ [] := by simp
  have hpolicy := @blocks_of_listable fuel ["queue", "policy"] _ h.policy false
  rw [queueTable, innerBlocks_table, blocks_of_tables hne hfilter h.queue, innerBlocks_append,
    innerBlocks_of_listable h.queue, innerBlocks_table]
  simp only [List.nil_append, List.cons_append, hpolicy, queueTables, List.map_append]
  cases l.queue.isEmpty <;> rfl

/-- The blocks of the tasks, of which there are some. -/
theorem innerBlocks_tasks (h : l.Sound) (hne : l.tasks ≠ []) (fuel : Nat) :
    innerBlocks (fuel + 1) [] [taskArray l.tasks] = l.taskTables.map Headed.block := by
  have htasks := h.tasks
  rw [taskTables]
  cases hcases : l.tasks with
  | nil => exact absurd hcases hne
  | cons first more =>
    rw [hcases] at htasks
    rw [taskArray, innerBlocks_tables, blocks_of_elements htasks, List.map_map]
    rfl

theorem not_isPlain_queueTable (l : Layout) : isPlain l.queueTable = false := rfl

theorem not_isPlain_taskArray {tasks : List (List (String × Value))} (hne : tasks ≠ []) :
    isPlain (taskArray tasks).2 = false := by
  cases tasks with
  | nil => exact absurd rfl hne
  | cons first more =>
    have htables := tables?_map first more
    simp only [List.map_cons] at htables
    simp [isPlain, taskArray, htables]

theorem representable_taskArray (h : l.Sound) : representable (taskArray l.tasks).2 = true := by
  refine (representableItems_iff _).mpr fun item hitem => ?_
  obtain ⟨entries, hentries, rfl⟩ := List.mem_map.mp hitem
  exact representable_of_listable (h.tasks entries hentries)

theorem representable_queueTable (h : l.Sound) : representable l.queueTable = true := by
  refine (representableEntries_iff _).mpr fun entry hentry => ?_
  rcases List.mem_append.mp hentry with hqueue | hpolicy
  · exact representable_of_readable (h.queue entry hqueue).2
  · obtain rfl := List.mem_singleton.mp hpolicy
    exact representable_of_listable h.policy

/-- Entries whose blocks are those of a layout are written and read as its document. -/
theorem read_back (h : l.Sound) {entries : List (String × Value)} (hne : entries ≠ [])
    (hplain : (entries.filter fun entry => isPlain entry.2) = l.root)
    (hinner : innerBlocks 15 [] entries = (l.queueTables ++ l.taskTables).map Headed.block)
    (hrange : representable (.table entries) = true) :
    ∃ text, write? (.table entries) = some text ∧ parse? text = some l.document := by
  have hblocks : blocks writingDepth [] false entries = blocksOf l.root (l.queueTables ++ l.taskTables) := by
    rw [writingDepth, blocks_of_tables hne hplain h.root, hinner]
    rfl
  have hkept : ((blocksOf l.root (l.queueTables ++ l.taskTables)).filter fun block =>
      !(block.path.isEmpty && block.lines.isEmpty)) = blocksOf l.root (l.queueTables ++ l.taskTables) := by
    refine List.filter_eq_self.mpr fun block hblock => ?_
    rcases List.mem_append.mp hblock with hroot | htable
    · split at hroot
      · cases hroot
      · rename_i hroot'
        obtain rfl := List.mem_singleton.mp hroot
        have hlines := plainLines_ne_nil h.root (by simpa using hroot')
        simp [hlines]
    · obtain ⟨t, ht, rfl⟩ := List.mem_map.mp htable
      have hpath := (h.tables_sound t ht).path_ne_nil
      simp [Headed.block, hpath]
  have hwrite : write? (.table entries) = some (String.ofList
      (['\n'].intercalate ((blocksOf l.root (l.queueTables ++ l.taskTables)).map writeBlock))) := by
    simp only [write?, hrange, if_true, hblocks, hkept]
  exact ⟨_, hwrite, by rw [parse?_document h.root h.tables_sound, h.document?_eq]⟩

/-- A document without tasks. -/
theorem read_plain (h : l.Sound) {front back : List (String × Value)} (hroot : l.root = front ++ back)
    (htasks : l.tasks = []) :
    ∃ text, write? (.table (front ++ ("queue", l.queueTable) :: back)) = some text ∧
      parse? text = some l.document := by
  have hlistable := h.root
  rw [hroot] at hlistable
  have hfront : Listable front := fun entry hentry => hlistable entry (List.mem_append_left back hentry)
  have hback : Listable back := fun entry hentry => hlistable entry (List.mem_append_right front hentry)
  have hsplit : front ++ ("queue", l.queueTable) :: back = front ++ ([("queue", l.queueTable)] ++ back) := rfl
  refine h.read_back (by simp) ?_ ?_ ?_
  · rw [hsplit, List.filter_append, List.filter_append, filter_isPlain hfront, filter_isPlain hback, hroot]
    simp [not_isPlain_queueTable]
  · rw [hsplit, innerBlocks_append, innerBlocks_append, innerBlocks_of_listable hfront, innerBlocks_of_listable hback,
      h.innerBlocks_queue, taskTables, htasks]
    simp
  · refine (representableEntries_iff _).mpr fun entry hentry => ?_
    rcases List.mem_append.mp hentry with hentry | hentry
    · exact representable_of_readable (hfront entry hentry).2
    · rcases List.mem_cons.mp hentry with rfl | hentry
      · exact h.representable_queueTable
      · exact representable_of_readable (hback entry hentry).2

/-- A document with tasks. -/
theorem read_tasks (h : l.Sound) (hroot : l.root = []) (htasks : l.tasks ≠ []) :
    ∃ text, write? (.table [("queue", l.queueTable), taskArray l.tasks]) = some text ∧
      parse? text = some l.document := by
  have hsplit : [("queue", l.queueTable), taskArray l.tasks] = [("queue", l.queueTable)] ++ [taskArray l.tasks] := rfl
  refine h.read_back (by simp) ?_ ?_ ?_
  · simp [not_isPlain_queueTable, not_isPlain_taskArray htasks, hroot]
  · rw [hsplit, innerBlocks_append, h.innerBlocks_queue, h.innerBlocks_tasks htasks, List.map_append]
  · refine (representableEntries_iff _).mpr fun entry hentry => ?_
    rcases List.mem_cons.mp hentry with rfl | hentry
    · exact h.representable_queueTable
    · obtain rfl := List.mem_singleton.mp hentry
      exact h.representable_taskArray

end Sound

end Layout

end BatchRunner.Toml
