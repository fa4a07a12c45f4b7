import Std.Data.HashMap

/-!
# Tables of a script

A table holds a value for each key. It is gone through in an order that depends on how it came to be: the keys are
spread over lists by a number, in each list the key that was used last stands in front, and whole numbers that are used
as such are only put into the lists of texts when these are asked for.
-/

namespace BatchRunner.Machine.Tool.Rules

/-- A key as it is used: a text or a whole number. -/
inductive Key where
  | text (s : String)
  | whole (n : Int)
  deriving DecidableEq, Repr, Inhabited

/-- The text of a key. -/
def Key.toText : Key → String
  | .text s => s
  | .whole n => toString n

/-- A table with its keys in lists. -/
structure Table (α : Type) where
  /-- The values by the texts of their keys. -/
  entries : Std.HashMap String α := {}
  /-- The lists of texts. -/
  texts : Array (List String) := Array.replicate 64 []
  /-- The lists of whole numbers. -/
  numbers : Array (List Int) := Array.replicate 64 []
  /-- Whether every key is in one of the lists of texts. -/
  hasTexts : Bool := false
  deriving Inhabited

namespace Table

variable {α : Type}

/-- The number by which a text is spread over the lists. -/
def spread (key : String) : Nat :=
  (key.toList.foldl (fun h c => (h ^^^ UInt32.ofNat c.toNat) * 16777619) (2166136261 : UInt32)).toNat

/-- How many keys there are for each list before there are more lists. -/
def fullness : Nat := 12

/-- The list of a text. -/
def textPlace (t : Table α) (key : String) : Nat := spread key % t.texts.size

/-- The list of a whole number. -/
def numberPlace (t : Table α) (n : Int) : Nat := (n % (t.numbers.size : Int)).toNat

/-- Puts a text in front of its list. -/
def raiseText (t : Table α) (key : String) : Table α :=
  { t with texts := t.texts.modify (t.textPlace key) fun list => key :: list.erase key }

/-- Puts a whole number in front of its list. -/
def raiseNumber (t : Table α) (n : Int) : Table α :=
  { t with numbers := t.numbers.modify (t.numberPlace n) fun list => n :: list.erase n }

/-- Puts every key into the lists of texts. -/
def withTexts (t : Table α) : Table α :=
  if t.hasTexts then t
  else
    let t := t.numbers.foldl (fun t list => list.foldl (fun t n => t.raiseText (toString n)) t) t
    { t with hasTexts := true }

/-- Doubles the number of lists, and leaves the keys of each in their order. -/
def grow (t : Table α) : Table α :=
  let size := 2 * t.texts.size
  let split {β : Type} (lists : Array (List β)) (place : β → Nat) : Array (List β) :=
    (Array.range size).map fun i => ((lists[i % lists.size]?).getD []).filter fun key => place key == i
  { t with
    texts := split t.texts fun key => spread key % size
    numbers := split t.numbers fun n => (n % (size : Int)).toNat }

/-- Makes room for one more key. -/
def makeRoom (t : Table α) : Table α := if t.texts.size * fullness < t.entries.size + 1 then t.grow else t

/-- Whether a key has a value, and the table after it was asked for. -/
def has (t : Table α) (key : Key) : Bool × Table α :=
  match key with
  | .text s =>
    let t := t.withTexts
    if t.entries.contains s then (true, t.raiseText s) else (false, t)
  | .whole n =>
    if !t.entries.contains (toString n) then (false, t)
    else (true, (if t.hasTexts && !((t.numbers[t.numberPlace n]?).getD []).contains n then t.raiseText (toString n) else t).raiseNumber n)

/-- Gives a key a value. -/
def put (t : Table α) (key : Key) (value : α) : Table α :=
  let (isThere, t) := t.has key
  if isThere then { t with entries := t.entries.insert key.toText value }
  else
    let t := t.makeRoom
    let t := match key with
      | .text s => t.raiseText s
      | .whole n => (if t.hasTexts then t.raiseText (toString n) else t).raiseNumber n
    { t with entries := t.entries.insert key.toText value }

/-- The value of a key. -/
def get? (t : Table α) (key : Key) : Option α := t.entries[key.toText]?

/-- Takes a key and its value away. A table without keys is as one that never had any. -/
def erase (t : Table α) (key : Key) : Table α :=
  let text := key.toText
  if !t.entries.contains text then t
  else
    let entries := t.entries.erase text
    if entries.isEmpty then {}
    else
      let t := { t with entries, texts := t.texts.modify (t.textPlace text) fun list => list.erase text }
      match text.toInt? with
      | some n => { t with numbers := t.numbers.modify (t.numberPlace n) fun list => list.erase n }
      | none => t

/-- The keys, in the order in which the table is gone through. -/
def keys (t : Table α) : List String × Table α :=
  let t := t.withTexts
  (t.texts.toList.flatten, t)

/-- How many keys there are. -/
def size (t : Table α) : Nat := t.entries.size

end Table

end BatchRunner.Machine.Tool.Rules
