import BatchRunner.Proofs.Files.Paths
import BatchRunner.Files.Workspace

/-!
# Where paths lead

A point on a path leads nowhere (`Files.follow_points`), and the names of the working directory lead to it from
the root (`Files.follow_place`). So a relative path that may name a file leads to the same place as the path that
is made of it by putting the working directory in front (`Files.isProgram_anchored`).
-/

namespace BatchRunner.Files

variable {tree : Tree} {last : Bool} {cwd place : Path} {path : String}
  {jump : Path → List String → Except Os.Errno Path}

/-! ## Points -/

/-- A point in front of a name leads nowhere else. -/
theorem followWith_point (tree : Tree) (last : Bool) (jump : Path → List String → Except Os.Errno Path) (place : Path)
    (name : String) (rest : List String) :
    followWith tree last jump place ("." :: name :: rest) = followWith tree last jump place (name :: rest) := by
  have hfits : ¬ nameLimit < ".".utf8ByteSize := by decide
  cases hat : tree.at? place with
  | none => simp [followWith, hat]
  | some entry =>
    cases hdirectory : entry.isDirectory with
    | false => simp [followWith, hat, hdirectory]
    | true => rw [followWith]; simp [hat, hdirectory, hfits]

/-- The end of names that do not end with a point is kept when points are dropped. -/
theorem getLast?_filter {names : List String} (h : names.getLast? ≠ some ".") :
    (names.filter (· != ".")).getLast? = names.getLast? := by
  rcases List.eq_nil_or_concat names with rfl | ⟨front, name, rfl⟩
  · rfl
  · have hname : name ≠ "." := by simpa using h
    simp [hname]

theorem followWith_points (hjump : ∀ place front rest, List.getLast? rest ≠ some "." →
      jump place (front ++ rest.filter (· != ".")) = jump place (front ++ rest))
    {names : List String} (h : names.getLast? ≠ some ".") (place : Path) :
    followWith tree last jump place (names.filter (· != ".")) = followWith tree last jump place names := by
  induction names generalizing place with
  | nil => rfl
  | cons name rest ih =>
    have hrest : rest.getLast? ≠ some "." := by
      cases rest with
      | nil => simp
      | cons next rest => rwa [List.getLast?_cons_cons] at h
    by_cases hname : name = "."
    · subst hname
      cases rest with
      | nil => exact absurd rfl h
      | cons next rest =>
        rw [followWith_point, ← ih hrest, List.filter_cons_of_neg (by simp)]
    · have hempty : (rest.filter (· != ".")).isEmpty = rest.isEmpty := by
        have hsame := getLast?_filter hrest
        rw [Bool.eq_iff_iff, List.isEmpty_iff, List.isEmpty_iff, ← List.getLast?_eq_none_iff, hsame,
          List.getLast?_eq_none_iff]
      rw [List.filter_cons_of_pos (by simp [hname]), followWith, followWith]
      simp only [ih hrest, hempty, hjump _ _ _ hrest]

/-- Points on the way to a name lead nowhere else. -/
theorem follow_points (tree : Tree) (last : Bool) (links : Nat) {names : List String}
    (h : names.getLast? ≠ some ".") (place : Path) :
    follow tree last links place (names.filter (· != ".")) = follow tree last links place names := by
  induction links generalizing names place with
  | zero => rfl
  | succ links ih =>
    refine followWith_points (fun place front rest hrest => ?_) h place
    cases hend : rest.getLast? with
    | none =>
      obtain rfl := List.getLast?_eq_none_iff.1 hend
      rfl
    | some name =>
      have hname : some name ≠ some "." := hend ▸ hrest
      have hplain : (front ++ rest).getLast? ≠ some "." := by
        rw [List.getLast?_append, hend]
        exact hname
      have hthin : (front ++ rest.filter (· != ".")).getLast? ≠ some "." := by
        rw [List.getLast?_append, getLast?_filter hrest, hend]
        exact hname
      -- both come to the same when all points are dropped
      rw [← ih hthin place, ← ih hplain place, List.filter_append, List.filter_append, List.filter_filter]
      simp

/-! ## The working directory -/

/-- A place that is a directory with no link on the way to it, under names that are none of the special ones. -/
structure IsPlaced (tree : Tree) (place : Path) : Prop where
  names : ∀ name ∈ place, IsName name ∧ name ≠ "." ∧ name ≠ ".." ∧ name.utf8ByteSize ≤ nameLimit ∧ hasNul name = false
  directory : ∀ front, front <+: place → tree.at? front = some .directory

theorem followWith_place {front rest : Path} (h : IsPlaced tree (front ++ rest)) (names : List String) :
    followWith tree last jump front (rest ++ names) = followWith tree last jump (front ++ rest) names := by
  induction rest generalizing front with
  | nil => rw [List.nil_append, List.append_nil]
  | cons name rest ih =>
    obtain ⟨-, hpoint, hpoints, hfits, -⟩ := h.names name (by simp)
    have hhere : tree.at? front = some .directory := h.directory front (List.prefix_append ..)
    have hnext : tree.at? (front ++ [name]) = some .directory :=
      h.directory _ ⟨rest, by simp⟩
    have hsplit : front ++ name :: rest = front ++ [name] ++ rest := by simp
    rw [hsplit] at h ⊢
    rw [← ih h, List.cons_append, followWith, hhere]
    simp [Entry.isDirectory, hpoint, hpoints, hnext, Nat.not_lt.2 hfits]

/-- The names of a place lead there from the root. -/
theorem follow_place (h : IsPlaced tree place) (last : Bool) (links : Nat) (names : List String) :
    follow tree last links [] (place ++ names) = follow tree last links place names := by
  cases links with
  | zero => rfl
  | succ links => exact followWith_place h names

/-! ## Programs -/

theorem isProgram_iff : isProgram tree cwd path = true ↔
    hasNul path = false ∧ path ≠ "" ∧ path.utf8ByteSize < pathLimit ∧ demandsDirectory path = false ∧
      ∃ place entry, follow tree true linkLimit (if isAbsolute path then [] else cwd) (names path) = .ok place ∧
        tree.at? place = some entry ∧ entry.isExecutable = true := by
  have hdirectory : ∀ entry : Entry, entry.isExecutable = true → entry.isDirectory = false := by
    intro entry
    cases entry <;> simp [Entry.isExecutable, Entry.isDirectory]
  unfold isProgram find resolve locate
  by_cases hempty : path = ""
  · subst hempty
    simp [bind, Except.bind, Except.toOption]
  by_cases hfits : path.utf8ByteSize < pathLimit
  · rw [if_neg hempty, if_neg (Nat.not_le.2 hfits)]
    cases hfollow : follow tree true linkLimit (if isAbsolute path then [] else cwd) (names path) with
    | error errno => simp [bind, Except.bind, Except.toOption]
    | ok place =>
      cases hat : tree.at? place with
      | none => simp [bind, Except.bind, Except.toOption, hat]
      | some entry =>
        cases hdemands : demandsDirectory path <;> cases hexecutable : entry.isExecutable <;>
          cases hdir : entry.isDirectory <;>
          simp_all [bind, Except.bind, pure, Except.pure, Except.toOption, Option.any]
  · rw [if_neg hempty, if_pos (Nat.not_lt.1 hfits)]
    simp [bind, Except.bind, Except.toOption, hfits]

theorem isProgram_of_demandsDirectory (h : demandsDirectory path = true) : isProgram tree cwd path = false := by
  rw [Bool.eq_false_iff]
  intro hprogram
  obtain ⟨-, -, -, hfile, -⟩ := isProgram_iff.1 hprogram
  rw [h] at hfile
  cases hfile

/-- The path that is made of a relative one ends with its last name. -/
theorem anchored_eq_append (cwd : Path) (hrelative : isAbsolute path = false) {front : Path} {last : String}
    (hway : way path = front ++ [last]) (hname : IsName last) : ∃ base, anchored cwd path = base ++ "/" ++ last := by
  have hfront : ∀ name ∈ front, IsName name := by
    intro name hmem
    have hlead : name ∈ way path := by
      rw [hway]
      exact List.mem_append_left _ hmem
    exact isName_of_mem_way hlead
  have hbase : isAbsolute (front.foldl join (render cwd)) = true := isAbsolute_foldl_join hfront (isAbsolute_render cwd)
  rw [anchored_eq cwd hrelative, hway, List.foldl_append, List.foldl_cons, List.foldl_nil]
  rcases join_cases (front.foldl join (render cwd)) hname.not_isAbsolute with ⟨-, hempty⟩ | ⟨base, hjoin, -⟩
  · rw [hempty] at hbase
    exact absurd hbase (by decide)
  · exact ⟨base, hjoin⟩

/-- A relative path that may name a file and the path below the working directory that is made of it name the
same program, if neither is too long. -/
theorem isProgram_anchored (hcwd : IsPlaced tree cwd) (hrelative : isAbsolute path = false) (hne : path ≠ "")
    (hfile : demandsDirectory path = false)
    (hfits : (anchored cwd path).utf8ByteSize < pathLimit ↔ path.utf8ByteSize < pathLimit) :
    isProgram tree cwd (anchored cwd path) = isProgram tree cwd path := by
  obtain ⟨front, last, hway, hlast, hpoint, hpoints⟩ := exists_last_way hne hfile
  obtain ⟨base, hbase⟩ := anchored_eq_append cwd hrelative hway hlast
  have hanchoredFile : demandsDirectory (anchored cwd path) = false := by
    rw [hbase, ← Bool.not_eq_true, demandsDirectory_append base hlast.slash]
    simp [hlast.ne_empty, hpoint, hpoints]
  have hanchoredNe : anchored cwd path ≠ "" := by
    rw [hbase]
    simp
  have hcwdNames : ∀ name ∈ cwd, IsName name := fun name hmem => (hcwd.names name hmem).1
  have hwayNames : ∀ name ∈ way path, IsName name := fun name => isName_of_mem_way
  have habsolute : isAbsolute (anchored cwd path) = true := by
    rw [anchored_eq cwd hrelative]
    exact isAbsolute_foldl_join hwayNames (isAbsolute_render cwd)
  have hnames : names (anchored cwd path) = cwd ++ way path := by
    rw [anchored_eq cwd hrelative, names_foldl_join hwayNames, names_render hcwdNames]
  have hnul : hasNul (anchored cwd path) = hasNul path := by
    rw [Bool.eq_iff_iff, hasNul_iff, hasNul_iff, hnames]
    constructor
    · rintro ⟨name, hmem, hnul⟩
      rcases List.mem_append.1 hmem with hmem | hmem
      · rw [(hcwd.names name hmem).2.2.2.2] at hnul
        cases hnul
      · exact ⟨name, List.mem_of_mem_filter hmem, hnul⟩
    · rintro ⟨name, hmem, hnul⟩
      have hlead : name ≠ "." := by
        rintro rfl
        exact absurd hnul (by decide)
      exact ⟨name, List.mem_append_right _ (List.mem_filter.2 ⟨hmem, by simp [hlead]⟩), hnul⟩
  -- the names of the working directory lead to it, and points on the way lead nowhere
  have hfollow : follow tree true linkLimit [] (cwd ++ way path) = follow tree true linkLimit cwd (names path) := by
    obtain ⟨before, name, hends, -, hlead, -⟩ := exists_last_name hne hfile
    rw [follow_place hcwd, way, follow_points]
    rw [hends]
    simpa using hlead
  rw [Bool.eq_iff_iff, isProgram_iff, isProgram_iff, hnul, hanchoredFile, hfile, habsolute, hrelative, hnames,
    if_pos rfl, if_neg Bool.false_ne_true, hfollow, hfits]
  simp [hanchoredNe, hne]

/-- A relative path that ends with two points names no program, and neither does the path below the working
directory that is made of it. -/
theorem demandsDirectory_anchored (cwd : Path) (hrelative : isAbsolute path = false) (hslash : '/' ∈ path.toList)
    (hdirectory : demandsDirectory path = true) (hend : path.endsWith "/" = false)
    (hpointEnd : path.endsWith "/." = false) : demandsDirectory (anchored cwd path) = true := by
  obtain ⟨last, hlast, hpath⟩ := exists_parts path
  rcases hpath with rfl | ⟨front, rfl⟩
  · exact absurd hslash hlast
  rcases (demandsDirectory_append front hlast).1 hdirectory with rfl | rfl | rfl
  · rw [← Bool.not_eq_true, endsWith_iff] at hend
    exact absurd (by simp) hend
  · rw [← Bool.not_eq_true, endsWith_iff] at hpointEnd
    exact absurd (by simp) hpointEnd
  · have hname : IsName ".." := ⟨by decide, by decide⟩
    have hway : way (front ++ "/" ++ "..") = way front ++ [".."] := by
      rw [way, names_append, List.filter_append, hname.names]
      rfl
    obtain ⟨base, hbase⟩ := anchored_eq_append cwd hrelative hway hname
    rw [hbase]
    exact (demandsDirectory_append base hname.slash).2 (.inr (.inr rfl))

/-! ## Finding programs -/

/-- Looking for what may only name a directory finds no program. -/
theorem findProgram_of_demandsDirectory (cwd : Path) (searchPath : Option String) (h : demandsDirectory path = true)
    (hanchored : 1 < (components path).length → demandsDirectory (anchored cwd path) = true) :
    findProgram tree cwd path searchPath = none := by
  rw [findProgram, List.find?_eq_none]
  intro candidate hmem
  unfold candidates at hmem
  rw [Bool.not_eq_true]
  split at hmem
  · next hseveral =>
    obtain rfl := List.mem_singleton.1 hmem
    exact isProgram_of_demandsDirectory (hanchored hseveral)
  · cases searchPath with
    | none => cases hmem
    | some dirs =>
      obtain ⟨dir, -, rfl⟩ := List.mem_map.1 hmem
      exact isProgram_of_demandsDirectory (demandsDirectory_join dir h)

/-- An absolute path that may name a file has the root and a name for components. -/
theorem several_components_of_absolute (habsolute : isAbsolute path = true) (hfile : demandsDirectory path = false) :
    1 < (components path).length := by
  have hne : path ≠ "" := by
    rintro rfl
    exact absurd habsolute (by decide)
  obtain ⟨front, last, hnames, hname, hpoint, -⟩ := exists_last_name hne hfile
  have hmem : last ∈ Text.parts '/' path := by
    have hmem : last ∈ names path := by rw [hnames]; simp
    exact List.mem_of_mem_filter hmem
  have hkept : last ∈ (Text.parts '/' path).filter fun name => name != "" && name != "." :=
    List.mem_filter.2 ⟨hmem, by simp [hname.ne_empty, hpoint]⟩
  have hlength := List.length_pos_of_mem hkept
  rw [components, habsolute, if_pos rfl, List.length_cons]
  omega

/-- A name with a slash is found where it leads, unless its end or its length is lost in the path that is made of
it. -/
theorem findProgram_of_slash (hcwd : IsPlaced tree cwd) (searchPath : Option String) (hslash : '/' ∈ path.toList)
    (hrelative : isAbsolute path = false → path.endsWith "/" = false ∧ path.endsWith "/." = false ∧
      ((anchored cwd path).utf8ByteSize < pathLimit ↔ path.utf8ByteSize < pathLimit)) :
    (findProgram tree cwd path searchPath).isSome = isProgram tree cwd path := by
  cases hdirectory : demandsDirectory path with
  | true =>
    rw [isProgram_of_demandsDirectory hdirectory, findProgram_of_demandsDirectory cwd searchPath hdirectory]
    · rfl
    · intro _
      cases habsolute : isAbsolute path with
      | true => rwa [anchored, if_pos habsolute]
      | false =>
        obtain ⟨hend, hpointEnd, -⟩ := hrelative habsolute
        exact demandsDirectory_anchored cwd habsolute hslash hdirectory hend hpointEnd
  | false =>
    have hne : path ≠ "" := by
      rintro rfl
      cases hslash
    have hanchored : 1 < (components path).length ∧
        isProgram tree cwd (anchored cwd path) = isProgram tree cwd path := by
      cases habsolute : isAbsolute path with
      | true => exact ⟨several_components_of_absolute habsolute hdirectory, by rw [anchored, if_pos habsolute]⟩
      | false => exact ⟨several_components hslash habsolute hdirectory,
          isProgram_anchored hcwd habsolute hne hdirectory (hrelative habsolute).2.2⟩
    have hcandidates : candidates cwd path searchPath = [anchored cwd path] := if_pos hanchored.1
    rw [findProgram, hcandidates, ← hanchored.2, List.isSome_find?, List.any_cons, List.any_nil, Bool.or_false]

/-- A name without a slash is found in the directories of the search path. -/
theorem findProgram_of_bare (tree : Tree) (cwd : Path) (dirs : String) (hbare : '/' ∉ path.toList) :
    (findProgram tree cwd path (some dirs)).isSome =
      (searchDirectories dirs).any fun dir => isProgram tree cwd (join dir path) := by
  have hcandidates : candidates cwd path (some dirs) = (searchDirectories dirs).map (join · path) :=
    if_neg (components_of_not_mem hbare)
  rw [findProgram, hcandidates, List.isSome_find?, List.any_map]
  rfl

end BatchRunner.Files
