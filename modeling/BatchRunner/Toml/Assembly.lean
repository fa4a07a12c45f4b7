import BatchRunner.Toml.Value

/-!
# Assembling tables

A document names the places of its values by paths. Assembly puts every value in its place and refuses a
document that gives a place twice, opens a table twice, or leads a path through something that is no table.
-/

namespace BatchRunner.Toml

/-- What stands at a place of a document that is being assembled. -/
inductive Item where
  /-- A value in place. -/
  | value (value : Value)
  /-- A table. It is `implied` if no header opened it and `dotted` if a key of several parts made it. -/
  | table (implied dotted : Bool) (entries : List (String × Item))
  /-- The tables that array headers opened, in order. -/
  | tables (elements : List (List (String × Item)))
  deriving Inhabited

/-- A table that is being assembled. -/
structure Draft where
  implied : Bool
  dotted : Bool
  entries : List (String × Item)
  deriving Inhabited

namespace Draft

/-- An empty table that was opened by name. -/
def opened : Draft := ⟨false, false, []⟩

/-- The table with an item put at the end of its entries. -/
def push (t : Draft) (key : String) (item : Item) : Draft :=
  { t with entries := t.entries ++ [(key, item)] }

/-- The table with the item at a key replaced in its place. -/
def replace (t : Draft) (key : String) (item : Item) : Draft :=
  { t with entries := t.entries.map fun entry => if entry.1 == key then (key, item) else entry }

/-- The table without the item at a key. -/
def erase (t : Draft) (key : String) : Draft :=
  { t with entries := t.entries.filter fun entry => entry.1 != key }

/-- A table as an item. -/
def toItem (t : Draft) : Item := .table t.implied t.dotted t.entries

/-- Changes the table at the end of a path. Tables that the path lacks are made on the way. A path through
an array of tables leads into its last table. A path of a key of several parts, for which `dotted` is set,
may not enter a table that was opened by name. -/
def modifyAt (dotted : Bool) : List String → (Draft → Option Draft) → Draft → Option Draft
  | [], f, t => f t
  | key :: path, f, t =>
    match t.entries.lookup key with
    | none => do
      let child ← modifyAt dotted path f ⟨true, dotted, []⟩
      some (t.push key child.toItem)
    | some (.value _) => none
    | some (.table implied wasDotted entries) =>
      if dotted && !implied then none
      else do
        let child ← modifyAt dotted path f ⟨implied, wasDotted, entries⟩
        some (t.replace key child.toItem)
    | some (.tables elements) => match elements.getLast? with
      | none => none
      | some last => do
        let child ← modifyAt dotted path f ⟨false, false, last⟩
        some (t.replace key (.tables (elements.dropLast ++ [child.entries])))

/-- Puts a value at a key of one or more parts. The table that takes it must have been made by keys of
several parts exactly if this one is such a key. -/
def assign (path : List String) (value : Value) (t : Draft) : Option Draft :=
  match path.getLast? with
  | none => none
  | some key =>
    modifyAt true path.dropLast (fun target =>
      if target.dotted == path.dropLast.isEmpty then none
      else if (target.entries.lookup key).isSome then none
      else some (target.push key (.value value))) t

/-- Puts a list of values at their keys, in order. -/
def assignAll (pairs : List (List String × Value)) (t : Draft) : Option Draft :=
  pairs.foldlM (fun t (path, value) => t.assign path value) t

end Draft

/-- A header with the pairs under it. The pairs in front of the first header stand under the empty path. -/
structure Section where
  /-- Whether the header opens one more table of an array. -/
  isElement : Bool
  path : List String
  pairs : List (List String × Value)
  deriving Inhabited

/-- Opens the table of a header in the table that is to hold it. A table that paths have implied so far is
opened with the entries it has, and moves to the end. -/
def Section.openIn (s : Section) (key : String) (parent : Draft) : Option Draft :=
  if s.isElement then do
    let t ← Draft.opened.assignAll s.pairs
    match parent.entries.lookup key with
    | none => some (parent.push key (.tables [t.entries]))
    | some (.tables elements) => some (parent.replace key (.tables (elements ++ [t.entries])))
    | some _ => none
  else
    match parent.entries.lookup key with
    | none => do
      let t ← Draft.opened.assignAll s.pairs
      some (parent.push key t.toItem)
    | some (.table true false entries) => do
      let t ← Draft.assignAll s.pairs ⟨false, false, entries⟩
      some ((parent.erase key).push key t.toItem)
    | some _ => none

/-- Adds a section to a document. -/
def Section.addTo (s : Section) (document : Draft) : Option Draft :=
  match s.path.getLast? with
  | none => document.assignAll s.pairs
  | some key => document.modifyAt false s.path.dropLast (s.openIn key)

mutual
/-- The value of an assembled item. -/
def Item.toValue : Item → Value
  | value v => v
  | table _ _ entries => .table (Item.entryValues entries)
  | tables elements => .array (Item.tableValues elements)

/-- The values of assembled entries. -/
def Item.entryValues : List (String × Item) → List (String × Value)
  | [] => []
  | (key, item) :: rest => (key, Item.toValue item) :: Item.entryValues rest

/-- The tables of an array. -/
def Item.tableValues : List (List (String × Item)) → List Value
  | [] => []
  | entries :: rest => .table (Item.entryValues entries) :: Item.tableValues rest
end

/-- The table that pairs inside braces write. -/
def inlineTable? (pairs : List (List String × Value)) : Option Value := do
  let t ← Draft.opened.assignAll pairs
  some (.table (Item.entryValues t.entries))

/-- The document that a list of sections writes. -/
def document? (sections : List Section) : Option Value := do
  let t ← sections.foldlM (fun t s => s.addTo t) Draft.opened
  some (.table (Item.entryValues t.entries))

end BatchRunner.Toml
