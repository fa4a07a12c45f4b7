import BatchRunner.Files.Lookup
import Mathlib.Data.List.Basic

/-!
# The names on paths

A path is taken apart at its slashes, so the names of two paths joined by a slash are the names of both
(`Files.names_append`), and the names of a place written as a path are the place (`Files.names_render`).
Whether a path may only name a directory is told by what stands behind its last slash
(`Files.demandsDirectory_iff`).
-/

namespace BatchRunner

namespace Text

variable {sep : Char} {cs part : List Char}

theorem splitOnChar_ne_nil (sep : Char) (cs : List Char) : splitOnChar sep cs ≠ [] := by
  cases cs with
  | nil => simp [splitOnChar]
  | cons c rest =>
    unfold splitOnChar
    split
    · simp
    · split <;> simp

/-- Without a separator there is one part. -/
theorem splitOnChar_of_not_mem (h : sep ∉ cs) : splitOnChar sep cs = [cs] := by
  induction cs with
  | nil => rfl
  | cons c rest ih =>
    rw [List.mem_cons, not_or] at h
    rw [splitOnChar, if_neg (Ne.symm h.1), ih h.2]

/-- What stands in front of a separator and what stands behind it are divided apart. -/
theorem splitOnChar_append (sep : Char) (cs ds : List Char) :
    splitOnChar sep (cs ++ sep :: ds) = splitOnChar sep cs ++ splitOnChar sep ds := by
  induction cs with
  | nil => simp [splitOnChar]
  | cons c rest ih =>
    rw [List.cons_append, splitOnChar, splitOnChar, ih]
    by_cases hc : c = sep
    · simp [hc]
    · rw [if_neg hc, if_neg hc]
      cases hparts : splitOnChar sep rest with
      | nil => exact absurd hparts (splitOnChar_ne_nil sep rest)
      | cons part parts => rfl

theorem not_mem_of_mem_splitOnChar (h : part ∈ splitOnChar sep cs) : sep ∉ part := by
  induction cs generalizing part with
  | nil =>
    obtain rfl := List.mem_singleton.1 h
    exact List.not_mem_nil
  | cons c rest ih =>
    rw [splitOnChar] at h
    by_cases hc : c = sep
    · rw [if_pos hc] at h
      rcases List.mem_cons.1 h with rfl | hmem
      · exact List.not_mem_nil
      · exact ih hmem
    · rw [if_neg hc] at h
      cases hparts : splitOnChar sep rest with
      | nil => exact absurd hparts (splitOnChar_ne_nil sep rest)
      | cons first others =>
        rw [hparts] at h ih
        rcases List.mem_cons.1 h with rfl | hmem
        · exact List.not_mem_cons_of_ne_of_not_mem (Ne.symm hc) (ih List.mem_cons_self)
        · exact ih (List.mem_cons_of_mem _ hmem)

/-- Every character but the separator stands in a part. -/
theorem mem_iff_mem_splitOnChar {c : Char} (hc : c ≠ sep) :
    c ∈ cs ↔ ∃ part ∈ splitOnChar sep cs, c ∈ part := by
  induction cs with
  | nil => simp [splitOnChar]
  | cons d rest ih =>
    rw [splitOnChar, List.mem_cons, ih]
    by_cases hd : d = sep
    · subst hd
      simp [hc]
    · rw [if_neg hd]
      cases hparts : splitOnChar sep rest with
      | nil => exact absurd hparts (splitOnChar_ne_nil sep rest)
      | cons first others => simp [or_assoc]

/-- A text with a separator has a last one. -/
theorem exists_last_sep (h : sep ∈ cs) : ∃ front last, cs = front ++ sep :: last ∧ sep ∉ last := by
  induction cs with
  | nil => cases h
  | cons c rest ih =>
    by_cases hrest : sep ∈ rest
    · obtain ⟨front, last, rfl, hlast⟩ := ih hrest
      exact ⟨c :: front, last, rfl, hlast⟩
    · obtain rfl := (List.mem_cons.1 h).resolve_right hrest
      exact ⟨[], rest, rfl, hrest⟩

end Text

namespace Files

open Text (parts splitOnChar)

variable {path base : String}

theorem endsWith_iff {s pat : String} : s.endsWith pat = true ↔ pat.toList <:+ s.toList := by
  rw [← String.endsWith_toSlice, String.Slice.endsWith_string_iff, String.copy_toSlice]

/-! ## Parts -/

theorem parts_append (a b : String) : parts '/' (a ++ "/" ++ b) = parts '/' a ++ parts '/' b := by
  have hslash : (a ++ "/" ++ b).toList = a.toList ++ '/' :: b.toList := by simp
  rw [parts, hslash, Text.splitOnChar_append, List.map_append]
  rfl

theorem parts_of_not_mem (h : '/' ∉ path.toList) : parts '/' path = [path] := by
  rw [parts, Text.splitOnChar_of_not_mem h, List.map_singleton, String.ofList_toList]

/-- A path has a last slash, or none. -/
theorem exists_parts (path : String) : ∃ last, '/' ∉ last.toList ∧
    (path = last ∨ ∃ front, path = front ++ "/" ++ last) := by
  by_cases h : '/' ∈ path.toList
  · obtain ⟨front, last, heq, hlast⟩ := Text.exists_last_sep h
    refine ⟨.ofList last, by simpa using hlast, .inr ⟨.ofList front, ?_⟩⟩
    apply String.toList_injective
    simp [heq]
  · exact ⟨path, h, .inl rfl⟩

/-- A path that ends with a slash joins without another one. -/
theorem exists_of_endsWith (h : base.endsWith "/" = true) : ∃ front, base = front ++ "/" := by
  obtain ⟨front, hfront⟩ := endsWith_iff.1 h
  refine ⟨.ofList front, String.toList_injective ?_⟩
  simp [← hfront]

/-- What a joined path ends with is what was joined to it. -/
theorem join_cases (base : String) (h : isAbsolute path = false) :
    join base path = path ∧ base = "" ∨ ∃ front, join base path = front ++ "/" ++ path ∧
      (base = front ∨ base = front ++ "/") := by
  unfold join
  rw [h, if_neg Bool.false_ne_true]
  by_cases hbase : base = ""
  · simp [hbase]
  · refine .inr ?_
    cases hends : base.endsWith "/" with
    | true =>
      obtain ⟨front, rfl⟩ := exists_of_endsWith hends
      exact ⟨front, by simp, .inr rfl⟩
    | false => exact ⟨base, by simp [hbase], .inl rfl⟩

/-! ## Names -/

theorem names_append (a b : String) : names (a ++ "/" ++ b) = names a ++ names b := by
  rw [names, parts_append, List.filter_append]
  rfl

theorem names_empty : names "" = [] := by decide

theorem names_join (base : String) (h : isAbsolute path = false) : names (join base path) = names base ++ names path := by
  rcases join_cases base h with ⟨hjoin, rfl⟩ | ⟨front, hjoin, hbase⟩
  · rw [hjoin, names_empty, List.nil_append]
  · rw [hjoin, names_append]
    rcases hbase with rfl | rfl
    · rfl
    · rw [← String.append_empty (s := front ++ "/"), names_append, names_empty, List.append_nil]

/-- What may stand between two slashes: a name. -/
structure IsName (name : String) : Prop where
  ne_empty : name ≠ ""
  slash : '/' ∉ name.toList

theorem isAbsolute_of_not_mem (h : '/' ∉ path.toList) : isAbsolute path = false := by
  rw [isAbsolute, String.startsWith_string_eq_false_iff]
  intro hbegins
  exact h (hbegins.subset (by simp))

theorem IsName.not_isAbsolute {name : String} (h : IsName name) : isAbsolute name = false :=
  isAbsolute_of_not_mem h.slash

theorem IsName.names {name : String} (h : IsName name) : names name = [name] := by
  rw [Files.names, parts_of_not_mem h.slash]
  simp [h.ne_empty]

theorem isName_of_mem_names {name : String} (h : name ∈ names path) : IsName name := by
  obtain ⟨hmem, hne⟩ := List.mem_filter.1 h
  obtain ⟨part, hpart, rfl⟩ := List.mem_map.1 hmem
  exact ⟨by simpa using hne, by simpa using Text.not_mem_of_mem_splitOnChar hpart⟩

theorem names_foldl_join {place : Path} (h : ∀ name ∈ place, IsName name) (base : String) :
    names (place.foldl join base) = names base ++ place := by
  induction place generalizing base with
  | nil => simp
  | cons name place ih =>
    obtain ⟨hname, hplace⟩ := List.forall_mem_cons.1 h
    rw [List.foldl_cons, ih hplace, names_join base hname.not_isAbsolute, hname.names, List.append_assoc]
    rfl

theorem names_render {place : Path} (h : ∀ name ∈ place, IsName name) : names (render place) = place := by
  have hroot : ∀ s, names ("/" ++ s) = names s := fun s => by
    rw [← String.empty_append (s := "/"), names_append, names_empty, List.nil_append]
  rw [render, hroot]
  induction place with
  | nil => exact names_empty
  | cons name place ih =>
    obtain ⟨hname, hplace⟩ := List.forall_mem_cons.1 h
    cases place with
    | nil => rw [String.intercalate_singleton, hname.names]
    | cons next place =>
      rw [String.intercalate_cons_cons, names_append, ih hplace, hname.names]
      rfl

/-- The names on a path that lead on. A point leads nowhere. -/
def way (path : String) : Path := (names path).filter (· != ".")

theorem isName_of_mem_way {name : String} (h : name ∈ way path) : IsName name :=
  isName_of_mem_names (List.mem_of_mem_filter h)

theorem components_eq (h : isAbsolute path = false) :
    components path = if path = "." || path.startsWith "./" then "." :: way path else way path := by
  have hway : (Text.parts '/' path).filter (fun name => name != "" && name != ".") = way path := by
    rw [way, names, List.filter_filter]
    exact List.filter_congr fun name _ => Bool.and_comm _ _
  rw [components, h, hway, if_neg Bool.false_ne_true]

theorem anchored_eq (cwd : Path) (h : isAbsolute path = false) :
    anchored cwd path = (way path).foldl join (render cwd) := by
  have hkeep : (way path).dropWhile (· == ".") = way path := by
    cases hway : way path with
    | nil => rfl
    | cons name rest =>
      have hname : name ∈ way path := by rw [hway]; exact List.mem_cons_self
      have hpoint : (name == ".") = false := by simpa [way] using (List.mem_filter.1 hname).2
      rw [List.dropWhile_cons_of_neg (by simp [hpoint])]
  rw [anchored, h, if_neg Bool.false_ne_true, components_eq h]
  split
  · rw [List.dropWhile_cons_of_pos (by rfl), hkeep]
  · rw [hkeep]

theorem isAbsolute_iff : isAbsolute path = true ↔ ∃ rest, path.toList = '/' :: rest := by
  rw [isAbsolute, String.startsWith_string_iff]
  constructor
  · rintro ⟨rest, hrest⟩
    exact ⟨rest, hrest.symm⟩
  · rintro ⟨rest, hrest⟩
    exact ⟨rest, hrest.symm⟩

theorem isAbsolute_render (place : Path) : isAbsolute (render place) = true :=
  isAbsolute_iff.2 ⟨_, by rw [render, String.toList_append]; rfl⟩

theorem isAbsolute_join (hbase : isAbsolute base = true) (h : isAbsolute path = false) :
    isAbsolute (join base path) = true := by
  obtain ⟨rest, hrest⟩ := isAbsolute_iff.1 hbase
  rw [join, h, if_neg Bool.false_ne_true]
  split
  · exact isAbsolute_iff.2 ⟨rest ++ path.toList, by simp [hrest]⟩
  · exact isAbsolute_iff.2 ⟨rest ++ '/' :: path.toList, by simp [hrest]⟩

theorem isAbsolute_foldl_join {place : Path} (h : ∀ name ∈ place, IsName name) (hbase : isAbsolute base = true) :
    isAbsolute (place.foldl join base) = true := by
  induction place generalizing base with
  | nil => exact hbase
  | cons name place ih =>
    obtain ⟨hname, hplace⟩ := List.forall_mem_cons.1 h
    exact ih hplace (isAbsolute_join hbase hname.not_isAbsolute)

/-! ## The end of a path -/

theorem suffix_slash_iff {front last pat : List Char} (hlast : '/' ∉ last) (hpat : '/' ∉ pat) :
    '/' :: pat <:+ front ++ '/' :: last ↔ pat = last := by
  constructor
  · rintro ⟨rest, hrest⟩
    have hparts := congrArg (splitOnChar '/') hrest
    rw [Text.splitOnChar_append, Text.splitOnChar_append, Text.splitOnChar_of_not_mem hlast,
      Text.splitOnChar_of_not_mem hpat] at hparts
    exact List.singleton_inj.1 (List.append_inj' hparts rfl).2
  · rintro rfl
    exact List.suffix_append ..

/-- A path that ends behind a slash with nothing, a point or two may only name a directory. -/
theorem demandsDirectory_append (front : String) {last : String} (hlast : '/' ∉ last.toList) :
    demandsDirectory (front ++ "/" ++ last) = true ↔ last = "" ∨ last = "." ∨ last = ".." := by
  have hends : ∀ pat : String, '/' ∉ pat.toList → ((front ++ "/" ++ last).endsWith ("/" ++ pat) = true ↔ last = pat) := by
    intro pat hpat
    have htext : (front ++ "/" ++ last).toList = front.toList ++ '/' :: last.toList := by simp
    have hsuffix : ("/" ++ pat).toList = '/' :: pat.toList := by simp
    rw [endsWith_iff, htext, hsuffix, suffix_slash_iff hlast hpat]
    exact ⟨fun heq => (String.toList_injective heq).symm, fun heq => by rw [heq]⟩
  have hne : ∀ pat : String, '/' ∉ pat.toList → front ++ "/" ++ last ≠ pat := by
    rintro pat hpat rfl
    exact hpat (by simp)
  have hempty := hends "" (by decide)
  have hpoint := hends "." (by decide)
  have hpoints := hends ".." (by decide)
  rw [show "/" ++ "" = "/" from rfl] at hempty
  rw [show "/" ++ "." = "/." from rfl] at hpoint
  rw [show "/" ++ ".." = "/.." from rfl] at hpoints
  rw [demandsDirectory, Bool.or_eq_true, Bool.or_eq_true, Bool.or_eq_true, Bool.or_eq_true, hempty, hpoint, hpoints,
    decide_eq_true_iff, decide_eq_true_iff]
  simp only [hne "." (by decide), hne ".." (by decide), or_false, or_assoc]

theorem demandsDirectory_of_not_mem (h : '/' ∉ path.toList) :
    demandsDirectory path = true ↔ path = "." ∨ path = ".." := by
  have hends : ∀ pat : String, '/' ∈ pat.toList → path.endsWith pat = false := by
    intro pat hpat
    rw [Bool.eq_false_iff]
    intro hsuffix
    exact h ((endsWith_iff.1 hsuffix).subset hpat)
  rw [demandsDirectory, hends "/" (by decide), hends "/." (by decide), hends "/.." (by decide)]
  simp

theorem demandsDirectory_tail {front rest : String} (h : demandsDirectory (front ++ "/" ++ rest) = false) :
    rest ≠ "" ∧ demandsDirectory rest = false := by
  obtain ⟨last, hlast, hrest⟩ := exists_parts rest
  rcases hrest with rfl | ⟨middle, rfl⟩
  · rw [← Bool.not_eq_true, demandsDirectory_append front hlast, not_or] at h
    rw [← Bool.not_eq_true, demandsDirectory_of_not_mem hlast]
    exact h
  · have hfront : front ++ "/" ++ (middle ++ "/" ++ last) = front ++ "/" ++ middle ++ "/" ++ last := by
      simp [String.append_assoc]
    rw [hfront, ← Bool.not_eq_true, demandsDirectory_append _ hlast] at h
    rw [← Bool.not_eq_true, demandsDirectory_append _ hlast]
    exact ⟨by simp, h⟩

/-- What may only name a directory names nothing else from somewhere else. -/
theorem demandsDirectory_join (base : String) (h : demandsDirectory path = true) :
    demandsDirectory (join base path) = true := by
  by_cases habsolute : isAbsolute path = true
  · rwa [join, if_pos habsolute]
  · rcases join_cases base (Bool.not_eq_true _ ▸ habsolute) with ⟨hjoin, -⟩ | ⟨front, hjoin, -⟩
    · rwa [hjoin]
    · rw [hjoin, ← Bool.not_eq_false]
      intro hfile
      rw [(demandsDirectory_tail hfile).2] at h
      cases h

/-- A path that may name a file ends with a name that leads on. -/
theorem exists_last_name (hne : path ≠ "") (h : demandsDirectory path = false) :
    ∃ front last, names path = front ++ [last] ∧ IsName last ∧ last ≠ "." ∧ last ≠ ".." := by
  obtain ⟨last, hlast, hpath⟩ := exists_parts path
  rcases hpath with rfl | ⟨front, rfl⟩
  · rw [← Bool.not_eq_true, demandsDirectory_of_not_mem hlast, not_or] at h
    have hname : IsName path := ⟨hne, hlast⟩
    exact ⟨[], path, hname.names, hname, h⟩
  · rw [← Bool.not_eq_true, demandsDirectory_append front hlast, not_or, not_or] at h
    have hname : IsName last := ⟨h.1, hlast⟩
    exact ⟨names front, last, by rw [names_append, hname.names], hname, h.2⟩

theorem exists_last_way (hne : path ≠ "") (h : demandsDirectory path = false) :
    ∃ front last, way path = front ++ [last] ∧ IsName last ∧ last ≠ "." ∧ last ≠ ".." := by
  obtain ⟨front, last, hnames, hname, hpoint, hpoints⟩ := exists_last_name hne h
  exact ⟨front.filter (· != "."), last, by simp [way, hnames, hpoint], hname, hpoint, hpoints⟩

/-- A path without a slash has no components but itself. -/
theorem components_of_not_mem (h : '/' ∉ path.toList) : ¬ 1 < (components path).length := by
  have hrelative : isAbsolute path = false := isAbsolute_of_not_mem h
  have hstart : path.startsWith "./" = false := by
    rw [String.startsWith_string_eq_false_iff]
    intro hbegins
    exact h (hbegins.subset (by decide))
  have hway : way path = [path].filter (fun name => name != "" && name != ".") := by
    rw [way, names, parts_of_not_mem h, List.filter_filter]
    exact List.filter_congr fun name _ => Bool.and_comm _ _
  rw [components_eq hrelative, hway, hstart, Bool.or_false]
  by_cases hpoint : path = "."
  · simp [hpoint]
  · by_cases hempty : path = "" <;> simp [hpoint, hempty]

/-- A path with a slash that may name a file has several components. -/
theorem several_components (hslash : '/' ∈ path.toList) (hrelative : isAbsolute path = false)
    (h : demandsDirectory path = false) : 1 < (components path).length := by
  obtain ⟨first, rest, htext, hfirst⟩ := List.eq_append_cons_of_mem hslash
  obtain rfl : path = .ofList first ++ "/" ++ .ofList rest := String.toList_injective (by simp [htext])
  obtain ⟨hne, hrest⟩ := demandsDirectory_tail h
  obtain ⟨front, last, hway, -⟩ := exists_last_way hne hrest
  have hpath : way (.ofList first ++ "/" ++ .ofList rest) = way (.ofList first) ++ (front ++ [last]) := by
    rw [← hway, way, names_append, List.filter_append]
    rfl
  rw [components_eq hrelative, hpath]
  split
  · simp only [List.length_cons, List.length_append]
    omega
  · next hpoint =>
    have hstart : String.ofList first ≠ "." := by
      intro heq
      rw [heq] at hpoint
      exact hpoint (by simp)
    have hempty : String.ofList first ≠ "" := by
      intro heq
      rw [heq, isAbsolute, String.startsWith_string_eq_false_iff] at hrelative
      exact hrelative (by simp)
    have hname : IsName (.ofList first) := ⟨hempty, by simpa using hfirst⟩
    simp [way, hname.names, hstart]

/-- A NUL stands in a name. -/
theorem hasNul_iff : hasNul path = true ↔ ∃ name ∈ names path, hasNul name = true := by
  have hslash : ('\x00' : Char) ≠ '/' := by decide
  rw [hasNul, List.contains_iff_mem, Text.mem_iff_mem_splitOnChar hslash]
  constructor
  · rintro ⟨part, hpart, hnul⟩
    refine ⟨.ofList part, List.mem_filter.2 ⟨List.mem_map_of_mem hpart, ?_⟩, ?_⟩
    · rw [bne_iff_ne]
      intro hempty
      have hnil : part = [] := by simpa using congrArg String.toList hempty
      rw [hnil] at hnul
      cases hnul
    · rw [hasNul, List.contains_iff_mem, String.toList_ofList]
      exact hnul
  · rintro ⟨name, hname, hnul⟩
    obtain ⟨part, hpart, rfl⟩ := List.mem_map.1 (List.mem_of_mem_filter hname)
    rw [hasNul, List.contains_iff_mem, String.toList_ofList] at hnul
    exact ⟨part, hpart, hnul⟩

end Files

end BatchRunner
