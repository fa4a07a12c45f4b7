import BatchRunner.Files.Workspace
import BatchRunner.Proofs.Task.Calls

/-!
# Files are read as they were written

What is written to the file at a path is what is read there (`readBytes_writeBytes`); only a device takes bytes
without keeping them, and only the permissions of a file can let it be written but not read. The way to the file is
the same before and after, because a write changes no directory and no link (`Tree.Keeps`). Making directories changes
nothing that is there (`Tree.Extends`), so every file that could be read before is read after with the same bytes
(`readBytes_extends`); after a write it is read with the same bytes or with those that were written
(`readBytes_of_write`).
-/

namespace BatchRunner.Files

/-! ## Places -/

namespace Tree

theorem at?_put_of_ne {tree : Tree} {place other : Path} (h : other ≠ place) (entry : Entry) :
    (tree.put place entry).at? other = tree.at? other := by
  cases other with
  | nil => rfl
  | cons name rest =>
    have hne : (name :: rest == place) = false := by simpa using h
    simp only [at?, put, List.lookup_cons, hne]
    induction tree.entries with
    | nil => rfl
    | cons first entries ih =>
      obtain ⟨p, e⟩ := first
      by_cases hp : p = place
      · have hother : (name :: rest == p) = false := by rw [hp]; exact hne
        simpa [hp, List.lookup_cons, hother, hne] using ih
      · have hkept : (p != place) = true := by simpa using hp
        by_cases hfirst : name :: rest = p
        · subst hfirst
          simp [hkept]
        · have hother : (name :: rest == p) = false := by simpa using hfirst
          simpa [hkept, List.lookup_cons, hother] using ih

theorem at?_put {tree : Tree} {place : Path} (h : place ≠ []) (entry : Entry) :
    (tree.put place entry).at? place = some entry := by
  cases place with
  | nil => exact absurd rfl h
  | cons name rest => simp [at?, put]

theorem mayRead_of_isReadable (tree : Tree) {entry : Entry} (h : entry.isReadable = true) :
    tree.mayRead entry = true := by
  rw [mayRead, h, Bool.or_true]

theorem ne_nil_of_at? {tree : Tree} {place : Path} (h : tree.at? place ≠ some .directory) : place ≠ [] := by
  rintro rfl
  exact h rfl

/-- The directories of a tree stay, and so do its links, without new ones. -/
structure Keeps (tree after : Tree) : Prop where
  directory {place : Path} : tree.at? place = some .directory → after.at? place = some .directory
  link (place : Path) (target : String) :
    tree.at? place = some (.link target) ↔ after.at? place = some (.link target)

/-- Everything in a tree stays, and may be read by the same user; what is new are directories. -/
structure Extends (tree after : Tree) : Prop where
  privileged : after.privileged = tree.privileged
  kept {place : Path} {entry : Entry} : tree.at? place = some entry → after.at? place = some entry
  new {place : Path} : tree.at? place = none → after.at? place = none ∨ after.at? place = some .directory

namespace Extends

variable {tree after later : Tree}

theorem refl (tree : Tree) : Extends tree tree := ⟨rfl, fun h => h, fun h => .inl h⟩

theorem mayRead (h : Extends tree after) (entry : Entry) : after.mayRead entry = tree.mayRead entry := by
  rw [Tree.mayRead, h.privileged, ← Tree.mayRead]

theorem trans (h : Extends tree after) (h' : Extends after later) : Extends tree later := by
  refine ⟨h'.privileged.trans h.privileged, fun hplace => h'.kept (h.kept hplace), fun hplace => ?_⟩
  rcases h.new hplace with hnone | hdirectory
  · exact h'.new hnone
  · exact .inr (h'.kept hdirectory)

theorem keeps (h : Extends tree after) : Keeps tree after := by
  refine ⟨h.kept, fun place target => ⟨h.kept, fun hafter => ?_⟩⟩
  cases hplace : tree.at? place with
  | none => rcases h.new hplace with hnew | hnew <;> simp [hnew] at hafter
  | some entry => rw [← hafter, h.kept hplace]

theorem put {place : Path} (h : tree.at? place = none) : Extends tree (tree.put place .directory) := by
  have hne : place ≠ [] := by rintro rfl; cases h
  refine ⟨rfl, @fun other entry hother => ?_, @fun other hother => ?_⟩
  · have hplace : other ≠ place := by rintro rfl; simp [h] at hother
    rw [at?_put_of_ne hplace, hother]
  · by_cases hplace : other = place
    · subst hplace
      exact .inr (at?_put hne _)
    · exact .inl (by rw [at?_put_of_ne hplace, hother])

end Extends

/-- Putting a file where there is neither a directory nor a link keeps both. -/
theorem Keeps.put_file {tree : Tree} {place : Path} (hdirectory : tree.at? place ≠ some .directory)
    (hlink : ∀ target, tree.at? place ≠ some (.link target)) (mode : Nat) (bytes : ByteArray) :
    Keeps tree (tree.put place (.file mode bytes)) := by
  have hne : place ≠ [] := ne_nil_of_at? hdirectory
  refine ⟨@fun other hother => ?_, fun other target => ?_⟩
  · have hplace : other ≠ place := by rintro rfl; exact hdirectory hother
    rw [at?_put_of_ne hplace, hother]
  · by_cases hplace : other = place
    · subst hplace
      simp [at?_put hne, hlink target]
    · rw [at?_put_of_ne hplace]

end Tree

/-! ## Ways -/

section ways

variable {tree after : Tree} {last : Bool}

theorem followWith_directory {jump : Path → List String → Except Os.Errno Path} {place : Path}
    (h : tree.at? place = some .directory) (name : String) (rest : List String) :
    followWith tree last jump place (name :: rest) =
      if nameLimit < name.utf8ByteSize then .error Os.Errno.nameTooLong
      else if name = "." then followWith tree last jump place rest
      else if name = ".." then followWith tree last jump place.dropLast rest
      else match tree.at? (place ++ [name]) with
        | some (.link target) =>
          if rest.isEmpty && !last then .ok (place ++ [name])
          else jump (if isAbsolute target then [] else place) (names target ++ rest)
        | _ => followWith tree last jump (place ++ [name]) rest := by
  rw [followWith, h]
  rfl

/-- A way out of a place starts in a directory. -/
theorem directory_of_followWith {jump : Path → List String → Except Os.Errno Path} {place found : Path}
    {name : String} {rest : List String} (h : followWith tree last jump place (name :: rest) = .ok found) :
    tree.at? place = some .directory := by
  rw [followWith] at h
  cases hplace : tree.at? place with
  | none =>
    rw [hplace] at h
    cases h
  | some entry =>
    rw [hplace] at h
    cases entry with
    | directory => rfl
    | _ => cases h

theorem followWith_keeps (h : tree.Keeps after) {jump jump' : Path → List String → Except Os.Errno Path}
    (hjump : ∀ place names found, jump place names = .ok found → jump' place names = .ok found)
    {names : List String} {place found : Path} (hfound : followWith tree last jump place names = .ok found) :
    followWith after last jump' place names = .ok found := by
  induction names generalizing place with
  | nil => exact hfound
  | cons name rest ih =>
    have hplace := directory_of_followWith hfound
    rw [followWith_directory hplace] at hfound
    rw [followWith_directory (h.directory hplace)]
    by_cases hlong : nameLimit < name.utf8ByteSize
    · rw [if_pos hlong] at hfound
      cases hfound
    by_cases hpoint : name = "."
    · rw [if_neg hlong, if_pos hpoint] at hfound ⊢
      exact ih hfound
    by_cases hpoints : name = ".."
    · rw [if_neg hlong, if_neg hpoint, if_pos hpoints] at hfound ⊢
      exact ih hfound
    rw [if_neg hlong, if_neg hpoint, if_neg hpoints] at hfound ⊢
    split at hfound
    · rename_i target hlink
      rw [(h.link _ _).mp hlink]
      simp only at hfound ⊢
      split at hfound
      · rename_i hend
        rw [if_pos hend]
        exact hfound
      · rename_i hend
        rw [if_neg hend]
        exact hjump _ _ _ hfound
    · rename_i hnone
      split
      -- Where there was no link there is none now, so both ways go on at the same place.
      · rename_i target hlink
        exact absurd ((h.link _ _).mpr hlink) (hnone target)
      · exact ih hfound

theorem follow_keeps (h : tree.Keeps after) (links : Nat) {names : List String} {place found : Path}
    (hfound : follow tree last links place names = .ok found) : follow after last links place names = .ok found := by
  induction links generalizing place names found with
  | zero => cases hfound
  | succ links ih => exact followWith_keeps h (fun _ _ _ => ih) hfound

theorem resolve_keeps (h : tree.Keeps after) {cwd : Path} {path : String} {place : Path}
    (hplace : resolve tree cwd path = .ok place) : resolve after cwd path = .ok place := by
  unfold resolve locate at hplace ⊢
  split
  · rename_i hempty
    rw [if_pos hempty] at hplace
    cases hplace
  · rename_i hempty
    rw [if_neg hempty] at hplace
    split
    · rename_i hlong
      rw [if_pos hlong] at hplace
      cases hplace
    · rename_i hlong
      rw [if_neg hlong] at hplace
      exact follow_keeps h _ hplace

end ways

/-! ## Writing -/

/-- Whether a path names a regular file that may be read. -/
def namesReadable (tree : Tree) (cwd : Path) (path : String) : Bool :=
  match find tree cwd path with
  | .ok (.file mode content) => tree.mayRead (.file mode content)
  | _ => false

theorem find_eq_ok {tree : Tree} {cwd place : Path} {path : String} {entry : Entry}
    (hplace : resolve tree cwd path = .ok place) (hentry : tree.at? place = some entry)
    (hfile : demandsDirectory path = false) : find tree cwd path = .ok entry := by
  refine except_bind_ok.mpr ⟨place, hplace, ?_⟩
  simp only [hentry, hfile, Bool.false_and, Bool.false_eq_true, if_false]
  rfl

theorem find_ok {tree : Tree} {cwd : Path} {path : String} {entry : Entry} (h : find tree cwd path = .ok entry) :
    ∃ place, resolve tree cwd path = .ok place ∧ tree.at? place = some entry ∧
      (demandsDirectory path = true → entry.isDirectory = true) := by
  obtain ⟨place, hplace, h⟩ := except_bind_ok.mp h
  refine ⟨place, hplace, ?_⟩
  split at h
  · cases h
  rename_i hat
  split at h
  · cases h
  rename_i hdemand
  cases h
  exact ⟨hat, by simpa using hdemand⟩

theorem find_put {tree : Tree} {cwd place : Path} {path : String} (hplace : resolve tree cwd path = .ok place)
    (hdirectory : tree.at? place ≠ some .directory) (hlink : ∀ target, tree.at? place ≠ some (.link target))
    (hfile : demandsDirectory path = false) (mode : Nat) (bytes : ByteArray) :
    find (tree.put place (.file mode bytes)) cwd path = .ok (.file mode bytes) := by
  have hkeeps := Tree.Keeps.put_file hdirectory hlink mode bytes
  have hhere := @Tree.at?_put tree place (Tree.ne_nil_of_at? hdirectory) (.file mode bytes)
  exact find_eq_ok (resolve_keeps hkeeps hplace) hhere hfile

/-- Bytes are written by putting a file where there is neither a directory nor a link; it may be read if what was
there might be. A device takes them, and nothing changes. -/
theorem writeBytes_ok {tree after : Tree} {cwd : Path} {path : String} {bytes : ByteArray}
    (h : writeBytes tree cwd path bytes = .ok after) :
    hasNul path = false ∧ demandsDirectory path = false ∧ ∃ place, resolve tree cwd path = .ok place ∧
      ((∃ mode, tree.at? place ≠ some .directory ∧ (∀ target, tree.at? place ≠ some (.link target)) ∧
          (∀ entry, tree.at? place = some entry → tree.mayRead entry = true →
            tree.mayRead (.file mode bytes) = true) ∧
          after = tree.put place (.file mode bytes)) ∨
        ∃ device, tree.at? place = some (.device device) ∧ after = tree) := by
  rw [writeBytes] at h
  split at h
  · cases h
  rename_i hnul
  have hnul : hasNul path = false := by simpa using hnul
  split at h
  · cases h
  rename_i place hplace
  split at h
  · cases h
  · cases h
  · rename_i entry hdirectory hlink hentry
    split at h
    · cases h
    rename_i hfile
    split at h
    · cases h
    refine ⟨hnul, by simpa using hfile, place, hplace, ?_⟩
    have hdirectory' : tree.at? place ≠ some .directory := by
      rw [hentry]
      simpa using hdirectory
    have hlink' : ∀ target, tree.at? place ≠ some (.link target) := by
      rw [hentry]
      simpa using hlink
    cases entry with
    | directory => exact absurd hentry hdirectory'
    | link target => exact absurd hentry (hlink' target)
    | file mode old =>
      cases h
      refine .inl ⟨mode, hdirectory', hlink', fun entry hthere hread => ?_, rfl⟩
      obtain rfl : .file mode old = entry := Option.some.inj (hentry.symm.trans hthere)
      exact hread
    | tool name =>
      cases h
      exact .inl ⟨0o755, hdirectory', hlink', fun _ _ _ => tree.mayRead_of_isReadable rfl, rfl⟩
    | device device =>
      cases h
      exact .inr ⟨device, hentry, rfl⟩
  · rename_i hentry
    split at h
    · cases h
    split at h
    · cases h
    rename_i hfile
    cases h
    exact ⟨hnul, by simpa using hfile, place, hplace,
      .inl ⟨newFileMode, by simp [hentry], by simp [hentry], fun _ _ _ => tree.mayRead_of_isReadable rfl, rfl⟩⟩

/-- What is written to a path that names a file which may be read is what is at the path. -/
theorem find_writeBytes {tree after : Tree} {cwd : Path} {path : String} {bytes : ByteArray}
    (h : writeBytes tree cwd path bytes = .ok after) (hreadable : namesReadable after cwd path = true) :
    hasNul path = false ∧
      ∃ mode, find after cwd path = .ok (.file mode bytes) ∧ after.mayRead (.file mode bytes) = true := by
  obtain ⟨hnul, hfile, place, hplace, ⟨mode, hdirectory, hlink, -, rfl⟩ | ⟨device, hentry, rfl⟩⟩ := writeBytes_ok h
  · have hfind := find_put hplace hdirectory hlink hfile mode bytes
    rw [namesReadable, hfind] at hreadable
    exact ⟨hnul, mode, hfind, hreadable⟩
  · simp [namesReadable, find_eq_ok hplace hentry hfile] at hreadable

theorem readBytes_file {tree : Tree} {cwd : Path} {path : String} {mode : Nat} {bytes : ByteArray}
    (hnul : hasNul path = false) (hfind : find tree cwd path = .ok (.file mode bytes))
    (hread : tree.mayRead (.file mode bytes) = true) : readBytes tree cwd path = .ok bytes := by
  simp [readBytes, hnul, hfind, hread]

theorem readBytes_writeBytes {tree after : Tree} {cwd : Path} {path : String} {bytes : ByteArray}
    (h : writeBytes tree cwd path bytes = .ok after)
    (hreadable : namesReadable after cwd path = true) : readBytes after cwd path = .ok bytes := by
  obtain ⟨hnul, mode, hfind, hread⟩ := find_writeBytes h hreadable
  exact readBytes_file hnul hfind hread

theorem readText_of_readBytes {tree : Tree} {cwd : Path} {path text : String}
    (h : readBytes tree cwd path = .ok text.toUTF8) : readText tree cwd path = .ok text := by
  have hdecode : String.fromUTF8? text.toUTF8 = some text := dif_pos text.isValidUTF8
  refine except_bind_ok.mpr ⟨text.toUTF8, h, ?_⟩
  simp only [hdecode]
  rfl

/-- A text is read as it was written. -/
theorem readText_writeText {tree after : Tree} {cwd : Path} {path text : String}
    (h : writeText tree cwd path text = .ok after)
    (hreadable : namesReadable after cwd path = true) : readText after cwd path = .ok text :=
  readText_of_readBytes (readBytes_writeBytes h hreadable)

theorem find_of_readBytes {tree : Tree} {cwd : Path} {path : String} {bytes : ByteArray}
    (h : readBytes tree cwd path = .ok bytes) :
    hasNul path = false ∧
      ∃ entry, find tree cwd path = .ok entry ∧ entry.isDirectory = false ∧ tree.mayRead entry = true := by
  rw [readBytes] at h
  split at h
  · cases h
  rename_i hnul
  refine ⟨by simpa using hnul, ?_⟩
  split at h
  · cases h
  rename_i entry hfind
  split at h
  · cases h
  rename_i hread
  refine ⟨entry, hfind, ?_, by simpa using hread⟩
  cases entry with
  | directory => cases h
  | _ => rfl

theorem pathExists_of_readBytes {tree : Tree} {cwd : Path} {path : String} {bytes : ByteArray}
    (h : readBytes tree cwd path = .ok bytes) : pathExists tree cwd path = true := by
  obtain ⟨hnul, entry, hfind, -, -⟩ := find_of_readBytes h
  simp [pathExists, hnul, hfind, Except.toOption]

/-- After bytes are written to one path, any file that could be read has the same bytes or the ones written. -/
theorem readBytes_of_write {tree after : Tree} {cwd : Path} {path : String} {bytes : ByteArray}
    (h : writeBytes tree cwd path bytes = .ok after) {other : String} {old : ByteArray}
    (hread : readBytes tree cwd other = .ok old) :
    readBytes after cwd other = .ok old ∨ readBytes after cwd other = .ok bytes := by
  obtain ⟨-, -, place, -, ⟨mode, hdirectory, hlink, hkept, rfl⟩ | ⟨device, -, rfl⟩⟩ := writeBytes_ok h
  · obtain ⟨hnul, entry, hfind, hentry, hmay⟩ := find_of_readBytes hread
    obtain ⟨there, hthere, hat, hdemand⟩ := find_ok hfind
    have hfile : demandsDirectory other = false := by
      rw [← Bool.not_eq_true]
      intro hdir
      rw [hdemand hdir] at hentry
      cases hentry
    have hway := resolve_keeps (Tree.Keeps.put_file hdirectory hlink mode bytes) hthere
    by_cases hsame : there = place
    · subst hsame
      have hfound := find_eq_ok hway (Tree.at?_put (Tree.ne_nil_of_at? hdirectory) _) hfile
      exact .inr (readBytes_file hnul hfound (hkept entry hat hmay))
    · have hfound := find_eq_ok hway ((Tree.at?_put_of_ne hsame _).trans hat) hfile
      left
      rw [readBytes, hfound, ← hread, readBytes, hfind]
      rfl
  · exact .inl hread

theorem readText_ok {tree : Tree} {cwd : Path} {path text : String} (h : readText tree cwd path = .ok text) :
    readBytes tree cwd path = .ok text.toUTF8 := by
  obtain ⟨bytes, hread, h⟩ := except_bind_ok.mp h
  split at h
  · rename_i text' hdecode
    cases h
    rw [String.fromUTF8?] at hdecode
    split at hdecode
    · cases hdecode
      exact hread
    · cases hdecode
  · cases h

/-- After a text is written to one path, any text that could be read is the same or the one written. -/
theorem readText_of_write {tree after : Tree} {cwd : Path} {path text : String}
    (h : writeText tree cwd path text = .ok after) {other old : String}
    (hread : readText tree cwd other = .ok old) :
    readText after cwd other = .ok old ∨ readText after cwd other = .ok text := by
  rcases readBytes_of_write h (readText_ok hread) with hkept | hwritten
  · exact .inl (readText_of_readBytes hkept)
  · exact .inr (readText_of_readBytes hwritten)

/-! ## Making directories -/

theorem makeDirectories_extends {tree after : Tree} {place : Path} {names : List String}
    (h : makeDirectories tree place names = .ok after) : tree.Extends after := by
  induction names generalizing tree place with
  | nil =>
    rw [makeDirectories] at h
    split at h
    · cases h
      exact .refl _
    · cases h
  | cons name rest ih =>
    rw [makeDirectories] at h
    split at h
    · rename_i hnone
      exact (Tree.Extends.put hnone).trans (ih h)
    · split at h
      · cases h
      split at h
      · cases h
      split at h
      · exact ih h
      split at h
      · exact ih h
      simp only at h
      split at h
      · rename_i hnone
        exact (Tree.Extends.put hnone).trans (ih h)
      · split at h
        · exact ih h
        · cases h
      · exact ih h

theorem createDirectories_extends {tree after : Tree} {cwd : Path} {path : String}
    (h : createDirectories tree cwd path = .ok after) : tree.Extends after := by
  rw [createDirectories] at h
  split at h
  · cases h
  split at h
  · rename_i made hmade
    cases h
    exact makeDirectories_extends hmade
  · cases h

/-- What could be found is found when only directories have been made. -/
theorem find_extends {tree after : Tree} (h : tree.Extends after) {cwd : Path} {path : String} {entry : Entry}
    (hfind : find tree cwd path = .ok entry) : find after cwd path = .ok entry := by
  obtain ⟨place, hplace, hentry⟩ := except_bind_ok.mp hfind
  refine except_bind_ok.mpr ⟨place, resolve_keeps h.keeps hplace, ?_⟩
  cases hat : tree.at? place with
  | none =>
    rw [hat] at hentry
    cases hentry
  | some there =>
    rw [hat] at hentry
    rw [h.kept hat]
    exact hentry

/-- A file that could be read is read with the same bytes when only directories have been made. -/
theorem readBytes_extends {tree after : Tree} (h : tree.Extends after) {cwd : Path} {path : String}
    {bytes : ByteArray} (hread : readBytes tree cwd path = .ok bytes) : readBytes after cwd path = .ok bytes := by
  rw [readBytes] at hread ⊢
  split
  · rename_i hnul
    rw [if_pos hnul] at hread
    cases hread
  · rename_i hnul
    rw [if_neg hnul] at hread
    cases hfind : find tree cwd path with
    | error errno =>
      rw [hfind] at hread
      cases hread
    | ok entry =>
      rw [hfind] at hread
      rw [find_extends h hfind]
      simp only [h.mayRead]
      exact hread

theorem readText_extends {tree after : Tree} (h : tree.Extends after) {cwd : Path} {path text : String}
    (hread : readText tree cwd path = .ok text) : readText after cwd path = .ok text :=
  readText_of_readBytes (readBytes_extends h (readText_ok hread))

end BatchRunner.Files
