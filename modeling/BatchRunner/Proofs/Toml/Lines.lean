import BatchRunner.Proofs.Toml.Values

/-!
# Documents are read back line by line

A document is written block by block: a header, the pairs under it, and an empty line before the next header.
`Spells` says that characters are such lines and which; it is kept when texts are joined, so a block and a whole
document are spelled by their parts. `parse?_document` then gives the sections of a document that was written
from tables whose keys need no quotes and whose values are those of settings.
-/

namespace BatchRunner.Toml

open BatchRunner.Text

/-! ## Keys -/

/-- A key that needs no quotes. -/
def Bare (key : String) : Prop := key ≠ "" ∧ key.toList.all isKeyChar = true

instance (key : String) : Decidable (Bare key) := inferInstanceAs (Decidable (_ ∧ _))

theorem solid_of_isKeyChar {c : Char} (h : isKeyChar c = true) : Solid c ∧ c ≠ '[' ∧ c ≠ '\uFEFF' := by
  have hne (d : Char) (hd : isKeyChar d = false) : c ≠ d := by
    rintro rfl
    rw [h] at hd
    cases hd
  exact ⟨⟨hne _ rfl, hne _ rfl, hne _ rfl, hne _ rfl, hne _ rfl⟩, hne _ rfl, hne _ rfl⟩

namespace Bare

variable {key : String} {rest : List Char}

theorem writeKey_eq (h : Bare key) : writeKey key = key.toList := if_pos h

theorem toList_eq (h : Bare key) : ∃ c cs, key.toList = c :: cs ∧ isKeyChar c = true := by
  obtain ⟨hne, hall⟩ := h
  cases hkey : key.toList with
  | nil => exact absurd (String.toList_eq_nil_iff.mp hkey) hne
  | cons c cs =>
    rw [hkey] at hall
    exact ⟨c, cs, rfl, by simpa using (List.all_eq_true.mp hall) c (by simp)⟩

theorem simpleKey (h : Bare key) {c : Char} (hc : isKeyChar c = false) :
    Toml.simpleKey (key.toList ++ c :: rest) = some (key, c :: rest) := by
  have hall : ∀ d ∈ key.toList, isKeyChar d = true := List.all_eq_true.mp h.2
  have htake : (key.toList ++ c :: rest).takeWhile isKeyChar = key.toList := by
    rw [List.takeWhile_append_of_pos hall, List.takeWhile_cons_of_neg (by simp [hc]), List.append_nil]
  have hdrop : (key.toList ++ c :: rest).dropWhile isKeyChar = c :: rest := by
    rw [List.dropWhile_append_of_pos hall, List.dropWhile_cons_of_neg (by simp [hc])]
  obtain ⟨d, ds, hkey, -⟩ := h.toList_eq
  rw [Toml.simpleKey, htake, hdrop]
  split
  · rename_i hnil
    rw [hkey] at hnil
    cases hnil
  · rename_i hself
    rw [String.ofList_toList]

theorem skipBlanks (h : Bare key) : Toml.skipBlanks (key.toList ++ rest) = key.toList ++ rest := by
  obtain ⟨c, cs, hkey, hc⟩ := h.toList_eq
  rw [hkey, List.cons_append]
  exact skipBlanks_of_solid (solid_of_isKeyChar hc).1 _

end Bare

theorem keyParts_last {k : String} (hk : Bare k) {c d : Char} {cs rest : List Char} (hc : isKeyChar c = false)
    (hrest : skipBlanks (c :: cs) = d :: rest) (hd : d ≠ '.') (fuel : Nat) :
    keyParts (fuel + 1) (k.toList ++ c :: cs) = some ([k], d :: rest) := by
  simp [keyParts, hk.skipBlanks, hk.simpleKey hc, hrest, hd]

/-- A key in front of the sign that assigns a value to it. -/
theorem key_of_bare {k : String} (hk : Bare k) (rest : List Char) :
    key (k.toList ++ ' ' :: '=' :: rest) = some ([k], '=' :: rest) := by
  have hblank : skipBlanks (' ' :: '=' :: rest) = '=' :: rest := rfl
  exact keyParts_last hk rfl hblank (by decide) 78

theorem keyParts_next {k : String} (hk : Bare k) {cs rest : List Char} {path : List String} {fuel : Nat}
    (hcs : keyParts fuel cs = some (path, rest)) :
    keyParts (fuel + 1) (k.toList ++ '.' :: cs) = some (k :: path, rest) := by
  have hpoint : skipBlanks ('.' :: cs) = '.' :: cs := skipBlanks_of_solid (by decide) cs
  simp [keyParts, hk.skipBlanks, hk.simpleKey (c := '.') rfl, hpoint, hcs]

theorem writePath_cons (k : String) {path : List String} (hne : path ≠ []) :
    writePath (k :: path) = writeKey k ++ '.' :: writePath path := by
  cases path with
  | nil => exact absurd rfl hne
  | cons next path => simp [writePath, List.intercalate]

/-- The path of a header. -/
theorem keyParts_writePath {path : List String} (hne : path ≠ []) (hpath : ∀ k ∈ path, Bare k) (rest : List Char)
    {fuel : Nat} (hfuel : path.length ≤ fuel) :
    keyParts fuel (writePath path ++ ']' :: rest) = some (path, ']' :: rest) := by
  induction path generalizing fuel with
  | nil => exact absurd rfl hne
  | cons k path ih =>
    obtain ⟨fuel, rfl⟩ : ∃ n, fuel = n + 1 := ⟨fuel - 1, by simp at hfuel; omega⟩
    have hk : Bare k := hpath k (by simp)
    by_cases hlast : path = []
    · subst hlast
      have hone : writePath [k] = k.toList := by simp [writePath, List.intercalate, hk.writeKey_eq]
      rw [hone]
      exact keyParts_last hk rfl (skipBlanks_of_solid (by decide) rest) (by decide) fuel
    · have hrest : path.length ≤ fuel := by simpa using hfuel
      have ih := ih hlast (fun next hnext => hpath next (by simp [hnext])) hrest
      rw [writePath_cons k hlast, hk.writeKey_eq, List.append_assoc, List.cons_append]
      exact keyParts_next hk ih

theorem writePath_eq_cons {path : List String} (hne : path ≠ []) (hpath : ∀ k ∈ path, Bare k) :
    ∃ c cs, writePath path = c :: cs ∧ isKeyChar c = true := by
  cases path with
  | nil => exact absurd rfl hne
  | cons k path =>
    obtain ⟨c, cs, hcs, hc⟩ := (hpath k (by simp)).toList_eq
    by_cases hlast : path = []
    · subst hlast
      exact ⟨c, cs, by simp [writePath, List.intercalate, (hpath k (by simp)).writeKey_eq, hcs], hc⟩
    · exact ⟨c, _, by rw [writePath_cons k hlast, (hpath k (by simp)).writeKey_eq, hcs, List.cons_append], hc⟩

/-! ## Lines -/

/-- A line that does not begin with a bracket, a blank or a comment is a pair. -/
theorem line_of_solid {c : Char} (hc : Solid c) (hbracket : c ≠ '[') (cs : List Char) :
    line (c :: cs) = (pair (value (depthLimit - 1)) (c :: cs)).bind fun answer =>
      some (.pair answer.1.1 answer.1.2, answer.2) := by
  simp [line, skipTrailer_of_solid hc, skipBlanks_of_solid hc, hc.2.2.2.1, hc.2.2.2.2, hbracket]

theorem line_of_bracket (cs : List Char) : line ('[' :: cs) = header ('[' :: cs) := by
  have hsolid : Solid '[' := by decide
  simp [line, skipTrailer_of_solid hsolid, skipBlanks_of_solid hsolid]

/-- The line of a pair. -/
def pairLine (entry : String × Value) : List Char := writeKey entry.1 ++ " = ".toList ++ writeValue entry.2

theorem line_pairLine {entry : String × Value} (hkey : Bare entry.1) (hvalue : Readable entry.2) (rest : List Char) :
    line (pairLine entry ++ '\n' :: rest) = some (.pair [entry.1] entry.2, '\n' :: rest) := by
  obtain ⟨key, v⟩ := entry
  have htext : pairLine (key, v) ++ '\n' :: rest =
      key.toList ++ ' ' :: '=' :: ' ' :: (writeValue v ++ '\n' :: rest) := by
    simp [pairLine, hkey.writeKey_eq]
  have hblank : skipBlanks (' ' :: (writeValue v ++ '\n' :: rest)) = writeValue v ++ '\n' :: rest := by
    obtain ⟨c, cs, hcs, hc⟩ := writeValue_cons hvalue
    rw [hcs]
    exact skipBlanks_of_solid hc _
  have hpair : pair (value (depthLimit - 1)) (key.toList ++ ' ' :: '=' :: ' ' :: (writeValue v ++ '\n' :: rest)) =
      some (([key], v), '\n' :: rest) := by
    have hread : value (depthLimit - 1) (writeValue v ++ '\n' :: rest) = some (v, '\n' :: rest) :=
      value_writeValue hvalue 78 rest
    simp [pair, key_of_bare hkey, literal, hblank, hread]
  obtain ⟨c, cs, hcs, hc⟩ := hkey.toList_eq
  have hc := solid_of_isKeyChar hc
  rw [htext]
  rw [hcs, List.cons_append] at hpair ⊢
  rw [line_of_solid hc.1 hc.2.1, hpair]
  rfl

/-- The line of a header. -/
def headerLine (isElement : Bool) (path : List String) : List Char :=
  let brackets := if isElement then 2 else 1
  List.replicate brackets '[' ++ writePath path ++ List.replicate brackets ']'

theorem line_headerLine (isElement : Bool) {path : List String} (hne : path ≠ []) (hpath : ∀ k ∈ path, Bare k)
    (hlength : path.length < depthLimit) (rest : List Char) :
    line (headerLine isElement path ++ '\n' :: rest) = some (.header isElement path, '\n' :: rest) := by
  have hread (more : List Char) : key (writePath path ++ ']' :: more) = some (path, ']' :: more) :=
    keyParts_writePath hne hpath more (by simp only [depthLimit] at hlength ⊢; omega)
  cases isElement with
  | true =>
    simp [headerLine, line_of_bracket, header, hread, literal]
  | false =>
    obtain ⟨c, cs, hcs, hc⟩ := writePath_eq_cons hne hpath
    have hbracket : c ≠ '[' := (solid_of_isKeyChar hc).2.1
    have hread := hread ('\n' :: rest)
    rw [hcs, List.cons_append] at hread
    simp [headerLine, line_of_bracket, header, hcs, hbracket, hread, literal]

/-- Characters that are lines of a document, each with its end. -/
inductive Spells : List Char → List Line → Prop
  | nil : Spells [] []
  | cons {text cs : List Char} {l : Line} {ls : List Line} :
      (∀ rest, line (text ++ '\n' :: rest) = some (l, '\n' :: rest)) → Spells cs ls →
      Spells (text ++ '\n' :: cs) (l :: ls)

namespace Spells

variable {cs ds : List Char} {ls ms : List Line}

/-- Texts that spell lines spell them one after the other. -/
theorem append (h : Spells cs ls) (h' : Spells ds ms) : Spells (cs ++ ds) (ls ++ ms) := by
  induction h with
  | nil => exact h'
  | cons hline _ ih => simpa using Spells.cons hline ih

/-- No line starts with the mark that may announce the encoding of a text. -/
theorem dropMark_eq (h : Spells cs ls) : dropMark cs = cs := by
  unfold dropMark
  split
  · rename_i rest
    generalize hcs : '\uFEFF' :: rest = cs at h
    cases h with
    | nil => cases hcs
    | @cons text _ _ _ hline _ =>
      cases text with
      | nil => cases hcs
      | cons c text =>
        cases hcs
        have hnone : line ('\uFEFF' :: (text ++ ['\n'])) = none := rfl
        cases hnone.symm.trans (hline [])
  · rfl

/-- Lines that are spelled are read. -/
theorem read (h : Spells cs ls) {fuel : Nat} (hfuel : cs.length < fuel) : allLines fuel cs = some ls := by
  induction h generalizing fuel with
  | nil => cases fuel <;> rfl
  | @cons text cs l ls hline _ ih =>
    obtain ⟨fuel, rfl⟩ : ∃ n, fuel = n + 1 := ⟨fuel - 1, by omega⟩
    have hcs : cs.length < fuel := by
      simp only [List.length_append, List.length_cons] at hfuel
      omega
    have ih := ih hcs
    have hend : endOfLine ('\n' :: cs) = some cs := rfl
    have hne : text ++ '\n' :: cs ≠ [] := by simp
    rw [allLines, hline]
    · simp [hend, ih]
    · exact hne

end Spells

theorem spells_blank {cs : List Char} {ls : List Line} (h : Spells cs ls) : Spells ('\n' :: cs) (.blank :: ls) :=
  @Spells.cons [] cs .blank ls (fun _ => rfl) h

/-! ## Blocks -/

/-- Entries that a document may list as pairs of a key and a value. -/
def Listable (entries : List (String × Value)) : Prop := ∀ entry ∈ entries, Bare entry.1 ∧ Readable entry.2

/-- The pairs of a section that entries make. -/
def pairsOf (entries : List (String × Value)) : List (List String × Value) :=
  entries.map fun entry => ([entry.1], entry.2)

/-- The line that a pair is. -/
def Line.ofPair (pair : List String × Value) : Line := .pair pair.1 pair.2

theorem isPlain_of_readable {v : Value} (h : Readable v) : isPlain v = true := by
  cases h with
  | text _ => rfl
  | integer _ _ => rfl
  | boolean _ => rfl
  | texts items => cases items <;> rfl

theorem filter_isPlain {entries : List (String × Value)} (h : Listable entries) :
    (entries.filter fun entry => isPlain entry.2) = entries :=
  List.filter_eq_self.mpr fun entry hentry => isPlain_of_readable (h entry hentry).2

theorem plainLines_ne_nil {entries : List (String × Value)} (h : Listable entries) (hne : entries ≠ []) :
    plainLines entries ≠ [] := by
  rw [plainLines, filter_isPlain h]
  cases entries with
  | nil => exact absurd rfl hne
  | cons entry entries => simp

theorem spells_plainLines {entries : List (String × Value)} (h : Listable entries) :
    Spells (plainLines entries) ((pairsOf entries).map Line.ofPair) := by
  rw [plainLines, filter_isPlain h]
  induction entries with
  | nil => exact .nil
  | cons entry entries ih =>
    obtain ⟨hkey, hvalue⟩ := h entry (by simp)
    have ih := ih fun e he => h e (by simp [he])
    have hline := Spells.cons (line_pairLine hkey hvalue) ih
    simpa [pairLine, pairsOf, Line.ofPair] using hline

/-- A table that stands under a header of its own, with the entries that are listed there. -/
structure Headed where
  isElement : Bool
  path : List String
  entries : List (String × Value)

namespace Headed

/-- The block that writes a table. -/
def block (t : Headed) : Block := ⟨t.path, t.isElement, plainLines t.entries⟩

/-- The section that a table is read as. -/
def toSection (t : Headed) : Section := ⟨t.isElement, t.path, pairsOf t.entries⟩

/-- The lines of a table. -/
def lines (t : Headed) : List Line :=
  .header t.isElement t.path :: (pairsOf t.entries).map Line.ofPair

/-- Whether a table is read back. -/
structure Sound (t : Headed) : Prop where
  path_ne_nil : t.path ≠ []
  length_lt : t.path.length < depthLimit
  bare : ∀ k ∈ t.path, Bare k
  listable : Listable t.entries

theorem Sound.of_path {path : List String} (h : path ≠ [] ∧ path.length < depthLimit ∧ ∀ k ∈ path, Bare k)
    (isElement : Bool) {entries : List (String × Value)} (hentries : Listable entries) :
    Sound ⟨isElement, path, entries⟩ :=
  ⟨h.1, h.2.1, h.2.2, hentries⟩

theorem Sound.spells {t : Headed} (h : t.Sound) : Spells (writeBlock t.block) t.lines := by
  have hpath : t.path.isEmpty = false := by simpa using h.path_ne_nil
  have hheader := line_headerLine t.isElement h.path_ne_nil h.bare h.length_lt
  have hblock : writeBlock t.block = headerLine t.isElement t.path ++ '\n' :: plainLines t.entries := by
    cases helement : t.isElement <;> simp [writeBlock, block, hpath, headerLine, helement]
  rw [hblock]
  exact .cons hheader (spells_plainLines h.listable)

end Headed

/-! ## Sections -/

theorem sections_pairs {ls : List Line} {s : Section} {more : List Section} (h : sections ls = s :: more)
    (pairs : List (List String × Value)) :
    sections (pairs.map Line.ofPair ++ ls) = ⟨s.isElement, s.path, pairs ++ s.pairs⟩ :: more := by
  induction pairs with
  | nil => simpa using h
  | cons pair pairs ih => simp [Line.ofPair, sections, ih]

/-- Headed tables are taken apart again at their headers. -/
theorem sections_headed (tables : List Headed) :
    sections (tables.flatMap fun t => .blank :: t.lines) = ⟨false, [], []⟩ :: tables.map Headed.toSection := by
  induction tables with
  | nil => rfl
  | cons t tables ih =>
    have hpairs := sections_pairs ih (pairsOf t.entries)
    simp only [List.flatMap_cons, Headed.lines, List.cons_append, sections]
    simp only [Headed.lines] at hpairs
    rw [hpairs]
    simp [Headed.toSection]

/-- The blocks of a document: the entries that stand in front of all headers, if there are any, and then the
tables. -/
def blocksOf (root : List (String × Value)) (tables : List Headed) : List Block :=
  (if root.isEmpty then [] else [⟨[], false, plainLines root⟩]) ++ tables.map Headed.block

theorem intercalate_cons (first : List Char) (blocks : List (List Char)) :
    ['\n'].intercalate (first :: blocks) = first ++ blocks.flatMap fun block => '\n' :: block := by
  induction blocks generalizing first with
  | nil => simp [List.intercalate]
  | cons second blocks ih =>
    have ih := ih second
    simp only [List.intercalate] at ih ⊢
    simp [List.intersperse, ih]

theorem intercalate_blocks (first : Block) (tables : List Headed) :
    ['\n'].intercalate ((first :: tables.map Headed.block).map writeBlock) =
      writeBlock first ++ (tables.map fun t => writeBlock t.block).flatMap fun block => '\n' :: block := by
  rw [List.map_cons, List.map_map]
  exact intercalate_cons _ _

theorem spells_headed {tables : List Headed} (h : ∀ t ∈ tables, t.Sound) :
    Spells ((tables.map fun t => writeBlock t.block).flatMap fun block => '\n' :: block)
      (tables.flatMap fun t => .blank :: t.lines) := by
  induction tables with
  | nil => exact .nil
  | cons t tables ih =>
    have ih := ih fun u hu => h u (by simp [hu])
    simpa using (spells_blank (h t (by simp)).spells).append ih

/-- A written document spells its root, then its tables with a blank line before each. -/
theorem spells_document {root : List (String × Value)} {tables : List Headed} (hroot : Listable root)
    (htables : ∀ t ∈ tables, t.Sound) :
    ∃ ls, Spells (['\n'].intercalate ((blocksOf root tables).map writeBlock)) ls ∧
      sections ls = ⟨false, [], pairsOf root⟩ :: tables.map Headed.toSection := by
  have hsections := sections_headed tables
  -- The first block is the only one without an empty line in front.
  cases root with
  | nil =>
    cases tables with
    | nil => exact ⟨[], .nil, rfl⟩
    | cons t tables =>
      have hmore : ∀ u ∈ tables, u.Sound := fun u hu => htables u (by simp [hu])
      have hspells := (htables t (by simp)).spells.append (spells_headed hmore)
      have htext := intercalate_blocks t.block tables
      exact ⟨t.lines ++ tables.flatMap fun u => .blank :: u.lines, htext ▸ hspells, hsections⟩
  | cons entry root =>
    have hspells := (spells_plainLines hroot).append (spells_headed htables)
    have hpairs := sections_pairs hsections (pairsOf (entry :: root))
    have htext := intercalate_blocks ⟨[], false, plainLines (entry :: root)⟩ tables
    exact ⟨_, htext ▸ hspells, by simpa using hpairs⟩

/-- A document that was written from tables is read as their sections. -/
theorem parse?_document {root : List (String × Value)} {tables : List Headed} (hroot : Listable root)
    (htables : ∀ t ∈ tables, t.Sound) :
    parse? (String.ofList (['\n'].intercalate ((blocksOf root tables).map writeBlock))) =
      document? (⟨false, [], pairsOf root⟩ :: tables.map Headed.toSection) := by
  obtain ⟨ls, hspells, hsections⟩ := spells_document hroot htables
  have hlines := hspells.read (Nat.lt_succ_self _)
  simp only [parse?, String.toList_ofList, hspells.dropMark_eq, hlines, hsections]

end BatchRunner.Toml
