import BatchRunner.Error

/-!
# Environment variables

Variables are written as entries `KEY=VALUE`, divided at the first equals sign. A task without entries of
its own takes the variables of a source.
-/

namespace BatchRunner

/-- The variables handed to a process, in the order in which they are applied. -/
abbrev Variables := List (String × String)

namespace Environment

/-- Divides a list of characters at the first equals sign. -/
def splitEquals : List Char → Option (List Char × List Char)
  | [] => none
  | c :: rest =>
    if c = '=' then some ([], rest)
    else (splitEquals rest).map fun (key, value) => (c :: key, value)

/-- The key and the value of an entry. The key must not be empty; the value may be, and may hold further
equals signs. -/
def parseEntry (entry : String) : Except Error (String × String) :=
  match splitEquals entry.toList with
  | some (key, value) =>
    if key.isEmpty then .error (.invalidEnv entry) else .ok (String.ofList key, String.ofList value)
  | none => .error (.invalidEnv entry)

/-- The variables that a list of entries sets; the first entry that is none is refused. -/
def ofEntries (entries : List String) : Except Error Variables :=
  entries.mapM parseEntry

/-- Whether every entry is of the right form; the first that is not is refused. -/
def validate : List String → Except Error Unit
  | [] => .ok ()
  | entry :: rest => match parseEntry entry with
    | .error error => .error error
    | .ok _ => validate rest

theorem splitEquals_eq_some {cs key value : List Char} (h : splitEquals cs = some (key, value)) :
    cs = key ++ '=' :: value ∧ '=' ∉ key := by
  induction cs generalizing key with
  | nil => simp [splitEquals] at h
  | cons c rest ih =>
    rw [splitEquals] at h
    split at h
    · next hc =>
      obtain ⟨rfl, rfl⟩ := by simpa using h
      simp [hc]
    · next hc =>
      obtain ⟨⟨k, v⟩, hk, heq⟩ := Option.map_eq_some_iff.1 h
      obtain ⟨rfl, rfl⟩ := by simpa using heq
      obtain ⟨h₁, h₂⟩ := ih hk
      refine ⟨by simp [h₁], ?_⟩
      simp only [List.mem_cons, not_or]
      exact ⟨fun h => hc h.symm, h₂⟩

end Environment

/-- Where a task without entries of its own takes its variables from. -/
inductive EnvironmentSource where
  /-- The variables of the running program, looked up when a process is started. -/
  | ambient
  /-- These variables. -/
  | fixed (vars : Variables)
  deriving Repr, Inhabited

end BatchRunner
