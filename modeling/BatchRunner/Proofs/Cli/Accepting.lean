import BatchRunner.Proofs.Cli.Queueing
import BatchRunner.Proofs.Task.Lifetime

/-!
# What is accepted once is accepted everywhere

The form of environment entries is asked for three times: when a batch is read, when a task is queued and when its
process is started. What an entry has to look like is said apart from all of them (`Environment.Assigns`,
`TaskEntry.Sound`). A batch is read exactly if its entries are sound, and refused for the first of them that is not
(`Batch.FirstOffence`); nothing that was accepted is refused later (`Batch.accepted_everywhere`).
-/

namespace BatchRunner

/-! ## Environment entries -/

namespace Environment

/-- An entry that gives a variable a value: its key, which is not empty, the first equals sign, and the value. -/
structure Assigns (entry key value : String) : Prop where
  nonempty : key ≠ ""
  first : '=' ∉ key.toList
  written : entry = key ++ "=" ++ value

/-- An entry that gives some variable a value. -/
def IsAssignment (entry : String) : Prop := ∃ key value, Assigns entry key value

variable {entry key value : String} {entries : List String} {vars : Variables} {error : Error}

theorem splitEquals_append {key : List Char} (hkey : '=' ∉ key) (value : List Char) :
    splitEquals (key ++ '=' :: value) = some (key, value) := by
  induction key with
  | nil => simp [splitEquals]
  | cons c key ih =>
    obtain ⟨hc, hrest⟩ : c ≠ '=' ∧ '=' ∉ key := by simpa [eq_comm] using hkey
    simp [splitEquals, hc, ih hrest]

theorem parseEntry_eq_ok_iff : parseEntry entry = .ok (key, value) ↔ Assigns entry key value := by
  constructor
  · intro h
    unfold parseEntry at h
    split at h
    · next k v hsplit =>
      obtain ⟨hentry, hfirst⟩ := splitEquals_eq_some hsplit
      split at h
      · cases h
      · next hempty =>
        simp only [Except.ok.injEq, Prod.mk.injEq] at h
        obtain ⟨rfl, rfl⟩ := h
        refine ⟨?_, by simpa using hfirst, ?_⟩
        · intro hnil
          exact hempty (by simpa using congrArg String.toList hnil)
        · apply String.toList_injective
          simp [hentry]
    · cases h
  · rintro ⟨hkey, hfirst, rfl⟩
    have hsplit : splitEquals (key ++ "=" ++ value).toList = some (key.toList, value.toList) := by
      simpa using splitEquals_append hfirst value.toList
    have hempty : key.toList.isEmpty = false := by
      rw [List.isEmpty_eq_false_iff]
      intro hnil
      exact hkey (String.toList_injective (by simpa using hnil))
    rw [parseEntry, hsplit]
    dsimp only
    rw [hempty]
    simp

theorem eq_of_parseEntry_eq_error (h : parseEntry entry = .error error) : error = .invalidEnv entry := by
  unfold parseEntry at h
  split at h
  · split at h
    · cases h; rfl
    · cases h
  · cases h; rfl

/-- Every entry that gives no value is refused, by itself. -/
theorem parseEntry_eq_error_iff :
    parseEntry entry = .error error ↔ error = .invalidEnv entry ∧ ¬IsAssignment entry := by
  constructor
  · intro h
    refine ⟨eq_of_parseEntry_eq_error h, fun ⟨key, value, hassigns⟩ => ?_⟩
    rw [parseEntry_eq_ok_iff.2 hassigns] at h
    cases h
  · rintro ⟨rfl, hnot⟩
    cases hparse : parseEntry entry with
    | ok pair => exact absurd ⟨pair.1, pair.2, parseEntry_eq_ok_iff.1 hparse⟩ hnot
    | error error => rw [eq_of_parseEntry_eq_error hparse]

theorem isAssignment_iff : IsAssignment entry ↔ ∃ pair, parseEntry entry = .ok pair :=
  ⟨fun ⟨key, value, h⟩ => ⟨(key, value), parseEntry_eq_ok_iff.2 h⟩,
    fun ⟨(key, value), h⟩ => ⟨key, value, parseEntry_eq_ok_iff.1 h⟩⟩

theorem validate_eq_forM : validate entries = entries.forM fun entry => (parseEntry entry).map fun _ => () := by
  induction entries with
  | nil => rfl
  | cons entry entries ih =>
    rw [validate, List.forM, ih]
    cases parseEntry entry <;> rfl

theorem check_eq_ok_iff : ((parseEntry entry).map fun _ => ()) = .ok () ↔ IsAssignment entry := by
  rw [isAssignment_iff]
  cases parseEntry entry with
  | ok pair => simp [Except.map]
  | error error => simp [Except.map]

theorem validate_eq_ok_iff : validate entries = .ok () ↔ ∀ entry ∈ entries, IsAssignment entry := by
  simp only [validate_eq_forM, forM_eq_ok_iff, check_eq_ok_iff]

/-- Entries are refused for the first that gives no value. -/
theorem validate_eq_error_iff : validate entries = .error error ↔
    ∃ before bad after, entries = before ++ bad :: after ∧ (∀ entry ∈ before, IsAssignment entry) ∧
      ¬IsAssignment bad ∧ error = .invalidEnv bad := by
  have hcheck : ∀ bad, ((parseEntry bad).map fun _ => ()) = .error error ↔
      ¬IsAssignment bad ∧ error = .invalidEnv bad := by
    intro bad
    rw [and_comm, ← parseEntry_eq_error_iff]
    cases parseEntry bad <;> simp [Except.map]
  simp only [validate_eq_forM, forM_eq_error_iff, hcheck, check_eq_ok_iff]

/-- The variables that entries give are their keys with their values, in order. -/
theorem ofEntries_eq_ok_iff : ofEntries entries = .ok vars ↔
    List.Forall₂ (fun entry pair => Assigns entry pair.1 pair.2) entries vars := by
  induction entries generalizing vars with
  | nil =>
    rw [List.forall₂_nil_left_iff]
    simp [ofEntries, pure, Except.pure, eq_comm]
  | cons entry entries ih =>
    rw [ofEntries, List.mapM_cons, except_bind_ok, List.forall₂_cons_left_iff]
    constructor
    · rintro ⟨pair, hpair, hrest⟩
      obtain ⟨rest, hentries, hrest⟩ := except_bind_ok.1 hrest
      cases hrest
      exact ⟨pair, rest, parseEntry_eq_ok_iff.1 hpair, ih.1 hentries, rfl⟩
    · rintro ⟨pair, rest, hpair, hentries, rfl⟩
      exact ⟨pair, parseEntry_eq_ok_iff.2 hpair, except_bind_ok.2 ⟨rest, ih.2 hentries, rfl⟩⟩

end Environment

open Environment (Assigns IsAssignment)

/-! ## Entries of a batch -/

namespace TaskEntry

/-- An entry that can be run: its program is more than white space, and its environment entries give values. -/
structure Sound (entry : TaskEntry) : Prop where
  program : ∃ c ∈ entry.program.toList, Text.isBlankChar c = false
  env : ∀ assignment ∈ entry.env, IsAssignment assignment

/-- What is wrong with an entry, as it is reported: a blank program before anything else, or else the first environment
entry that gives no value. -/
inductive Offends (entry : TaskEntry) : Error → Prop
  | blank (hblank : ∀ c ∈ entry.program.toList, Text.isBlankChar c = true) :
      Offends entry (.config (.emptyProgram entry.displayName))
  | env {before after : List String} {bad : String}
      (hprogram : ∃ c ∈ entry.program.toList, Text.isBlankChar c = false) (henv : entry.env = before ++ bad :: after)
      (hbefore : ∀ assignment ∈ before, IsAssignment assignment) (hbad : ¬IsAssignment bad) :
      Offends entry (.invalidEnv bad)

variable {entry : TaskEntry} {error : Error}

theorem isBlank_eq_false_iff {text : String} :
    Text.isBlank text = false ↔ ∃ c ∈ text.toList, Text.isBlankChar c = false := by
  simp [Text.isBlank]

theorem validate_eq_ok_iff : entry.validate = .ok () ↔ entry.Sound := by
  unfold validate
  constructor
  · intro h
    split at h
    · cases h
    · next hblank =>
      exact ⟨isBlank_eq_false_iff.1 (by simpa using hblank), Environment.validate_eq_ok_iff.1 h⟩
  · intro h
    rw [isBlank_eq_false_iff.2 h.program]
    exact Environment.validate_eq_ok_iff.2 h.env

theorem validate_eq_error_iff : entry.validate = .error error ↔ entry.Offends error := by
  unfold validate
  constructor
  · intro h
    split at h
    · next hblank =>
      cases h
      exact .blank (by simpa [Text.isBlank] using hblank)
    · next hblank =>
      obtain ⟨before, bad, after, henv, hbefore, hbad, rfl⟩ := Environment.validate_eq_error_iff.1 h
      exact .env (isBlank_eq_false_iff.1 (by simpa using hblank)) henv hbefore hbad
  · intro h
    cases h with
    | blank hblank => rw [if_pos (by simpa [Text.isBlank] using hblank)]
    | env hprogram henv hbefore hbad =>
      rw [isBlank_eq_false_iff.2 hprogram]
      exact Environment.validate_eq_error_iff.2 ⟨_, _, _, henv, hbefore, hbad, rfl⟩

end TaskEntry

/-! ## Batches -/

namespace Batch

variable {batch : Batch} {text path : String} {space : Workspace} {error : Error}

/-- A batch whose entries can all be run. -/
def Sound (batch : Batch) : Prop := ∀ entry ∈ batch.tasks, entry.Sound

/-- What is wrong with the first entry of a batch that cannot be run. -/
def FirstOffence (batch : Batch) (error : Error) : Prop :=
  ∃ before entry after, batch.tasks = before ++ entry :: after ∧ (∀ earlier ∈ before, earlier.Sound) ∧
    entry.Offends error

theorem validate_eq_ok_iff_sound : batch.validate = .ok () ↔ batch.Sound := by
  simp only [validate_eq_ok_iff, TaskEntry.validate_eq_ok_iff, Sound]

theorem validate_eq_error_iff : batch.validate = .error error ↔ batch.FirstOffence error := by
  simp only [validate, forM_eq_error_iff, TaskEntry.validate_eq_ok_iff, TaskEntry.validate_eq_error_iff, FirstOffence]

/-- Reads a batch and checks it, as both ways to come by one do. -/
theorem parse_of_read (h : Toml.read Batch.decode text = .ok batch) :
    parse text = batch.validate.map fun _ => batch := by
  unfold parse
  rw [h]
  cases hvalid : batch.validate <;> simp [bind, Except.bind, pure, Except.pure, hvalid, Except.map]

theorem load_of_read (hfile : Files.readText space.tree space.cwd path = .ok text)
    (h : Toml.read Batch.decode text = .ok batch) : load space path = batch.validate.map fun _ => batch := by
  have hstored : Toml.read (Stored.decode : Decode.Decoder Batch) text = .ok batch := h
  have hpath : (loadPath space path : Except Error Batch) = .ok batch := by simp [loadPath, hfile, hstored]
  unfold load
  rw [hpath]
  cases hvalid : batch.validate <;> simp [bind, Except.bind, pure, Except.pure, hvalid, Except.map]

/-- What comes of a batch that could be read and was then checked. -/
theorem checked_eq_ok_iff {other : Batch} :
    (batch.validate.map fun _ => batch) = .ok other ↔ batch = other ∧ other.Sound := by
  constructor
  · intro h
    cases hvalid : batch.validate with
    | error error => simp [hvalid, Except.map] at h
    | ok _ =>
      obtain rfl : batch = other := by simpa [hvalid, Except.map] using h
      exact ⟨rfl, validate_eq_ok_iff_sound.1 hvalid⟩
  · rintro ⟨rfl, hsound⟩
    rw [validate_eq_ok_iff_sound.2 hsound]
    rfl

theorem checked_eq_error_iff : (batch.validate.map fun _ => batch) = .error error ↔ batch.FirstOffence error := by
  rw [← validate_eq_error_iff]
  cases batch.validate <;> simp [Except.map]

theorem parse_eq_ok_iff : parse text = .ok batch ↔ Toml.read Batch.decode text = .ok batch ∧ batch.Sound := by
  cases hread : Toml.read Batch.decode text with
  | error cause => simp [parse, hread]
  | ok read => rw [parse_of_read hread, checked_eq_ok_iff, Except.ok.injEq]

/-- A file that can be read is taken as the text that it holds. -/
theorem load_eq_ok_iff (hfile : Files.readText space.tree space.cwd path = .ok text) :
    load space path = .ok batch ↔ Toml.read Batch.decode text = .ok batch ∧ batch.Sound := by
  cases hread : Toml.read Batch.decode text with
  | error cause =>
    have hstored : Toml.read (Stored.decode : Decode.Decoder Batch) text = .error cause := hread
    simp [load, loadPath, hfile, hstored, bind, Except.bind]
  | ok read => rw [load_of_read hfile hread, checked_eq_ok_iff, Except.ok.injEq]

end Batch

/-! ## Starting what was accepted -/

/-- The variables that a source gives to tasks without entries of their own. -/
def EnvironmentSource.varsOn {W : Type} (source : EnvironmentSource) (host : Host W) (w : W) : Variables :=
  match source with
  | .ambient => host.vars w
  | .fixed vars => vars

namespace Task

variable {κ W : Type} {task : Task κ} {host : Host W} {source : EnvironmentSource} {w : W}

/-- The variables of a task whose entries were accepted: those of the source, or its own in order. -/
theorem resolveVariables_of_validate (henv : Environment.validate task.spec.env = .ok ()) (host : Host W)
    (source : EnvironmentSource) (w : W) :
    ∃ vars, task.resolveVariables host source w = .ok vars ∧
      (task.spec.env = [] → vars = source.varsOn host w) ∧
      (task.spec.env ≠ [] → List.Forall₂ (fun entry pair => Assigns entry pair.1 pair.2) task.spec.env vars) := by
  by_cases hnone : task.spec.env = []
  · refine ⟨source.varsOn host w, ?_, fun _ => rfl, fun hsome => absurd hnone hsome⟩
    cases source <;> simp [resolveVariables, hnone, EnvironmentSource.varsOn]
  · obtain ⟨vars, hvars⟩ := Environment.ofEntries_of_validate henv
    refine ⟨vars, ?_, fun h => absurd h hnone, fun _ => Environment.ofEntries_eq_ok_iff.1 hvars⟩
    unfold resolveVariables
    rw [if_neg (by simpa using hnone), hvars]

/-- Starting a task whose entries were accepted gives its process these variables, and comes to an end one way or the
other. -/
theorem Kept.starts (hkept : task.Kept) (hstate : task.state = .preparing) :
    ∃ vars, task.resolveVariables host source w = .ok vars ∧
      (task.spec.env = [] → vars = source.varsOn host w) ∧
      (task.spec.env ≠ [] → List.Forall₂ (fun entry pair => Assigns entry pair.1 pair.2) task.spec.env vars) ∧
      ∃ started result after w',
        host.spawn ⟨task.spec.program, task.spec.args, vars, task.separateErrors⟩ w = (started, w') ∧
        task.execute host source w = .ok (result, after, w') ∧
        match started with
        | .ok child => result = .ok () ∧ after.state = .executing ∧ after.process = some child
        | .error cause => result = .error (.spawn task.spec.program cause) ∧ after.state = .finished := by
  obtain ⟨vars, hvars, hsource, hown⟩ := resolveVariables_of_validate hkept.env host source w
  obtain ⟨vars', hvars', hstarts⟩ := execute_preparing hkept hstate host source w
  obtain rfl : vars = vars' := by simpa [hvars] using hvars'
  refine ⟨vars, hvars, hsource, hown, ?_⟩
  rcases hspawn : host.spawn ⟨task.spec.program, task.spec.args, vars, task.separateErrors⟩ w with
    ⟨cause | child, w'⟩
  · rw [hspawn] at hstarts
    exact ⟨_, _, _, w', rfl, hstarts, rfl, rfl⟩
  · rw [hspawn] at hstarts
    exact ⟨_, _, _, w', rfl, hstarts, rfl, rfl, rfl⟩

end Task

/-! ## Accepted once, accepted everywhere -/

namespace Batch

open Cli

/-- What becomes of a text that is to be a batch, and of the batch if it is one. -/
structure Accepting (text : String) : Prop where
  parses : ∀ {batch}, parse text = .ok batch ↔ Toml.read Batch.decode text = .ok batch ∧ batch.Sound
  loads : ∀ {space path batch}, Files.readText space.tree space.cwd path = .ok text →
    (load space path = .ok batch ↔ Toml.read Batch.decode text = .ok batch ∧ batch.Sound)
  /-- A batch that is not sound is refused for its first offence, however it is read. -/
  refuses : ∀ {batch error}, Toml.read Batch.decode text = .ok batch →
    (parse text = .error error ↔ batch.FirstOffence error) ∧
      ∀ {space path}, Files.readText space.tree space.cwd path = .ok text →
        (load space path = .error error ↔ batch.FirstOffence error)
  /-- All entries of a batch that was accepted are queued, whatever the queue and whatever identifiers are drawn. -/
  queues : ∀ {W : Type} {batch}, parse text = .ok batch →
    ∀ (now : W → Nat) (drawId : Nat → TaskId) (queue : Queue Nat) (session : Session W),
      ∃ said, queueAll now drawId 0 batch.tasks queue session =
        (.ok (queue.append (entryTasks drawId queue.options.separateErrors (now session.world) 0 batch.tasks)),
          ⟨session.world, said⟩)

/-- A batch is accepted exactly if each of its entries has a program that is not blank and environment entries that give
values, and is refused for the first that has not. Every entry of an accepted batch is queued, by a run of either kind.
A task that was accepted is given the variables of the source or its own ones, and its process is started or could not
be. -/
theorem accepted_everywhere (text : String) :
    Accepting text ∧
    (∀ {W : Type} (around : Surroundings W) (options : RunOptions) (session : Session W) (batch : Batch)
      (config : Configuration), load (session.workspace around) options.batch = .ok batch →
        Configuration.load (session.workspace around) around.configDirectory = .ok config →
        ∃ said, runBatch around options session = runQueue around options batch
          (batchQueue around options config batch session.world) ⟨session.world, said⟩) ∧
    (∀ {κ W : Type} {id : TaskId} {spec : TaskSpec} {context : κ} {separateByDefault : Bool} {now : Nat} {task : Task κ},
      Task.create id spec context separateByDefault now = .ok task →
      ∀ (host : Host W) (source : EnvironmentSource) (w : W),
        ∃ vars, task.resolveVariables host source w = .ok vars ∧
          (spec.env = [] → vars = source.varsOn host w) ∧
          (spec.env ≠ [] → List.Forall₂ (fun entry pair => Assigns entry pair.1 pair.2) spec.env vars) ∧
          ∃ started result after w', host.spawn ⟨spec.program, spec.args, vars, task.separateErrors⟩ w = (started, w') ∧
            task.execute host source w = .ok (result, after, w') ∧
            match started with
            | .ok child => result = .ok () ∧ after.state = .executing ∧ after.process = some child
            | .error cause => result = .error (.spawn spec.program cause) ∧ after.state = .finished) := by
  refine ⟨?_, ?_, ?_⟩
  · exact {
      parses := parse_eq_ok_iff
      loads := fun hfile => load_eq_ok_iff hfile
      refuses := fun hread =>
        ⟨by rw [parse_of_read hread, checked_eq_error_iff],
          fun hfile => by rw [load_of_read hfile hread, checked_eq_error_iff]⟩
      queues := fun hparse now drawId queue session =>
        have hvalid := validate_eq_ok_iff_sound.2 (parse_eq_ok_iff.1 hparse).2
        queueAll_eq now drawId 0 (validate_eq_ok_iff.1 hvalid) queue session }
  · intro W around options session batch config hbatch hconfig
    exact runBatch_eq hbatch hconfig
  · intro κ W id spec context separateByDefault now task hcreate host source w
    have hkept : task.Kept := Task.create_kept hcreate
    obtain ⟨-, rfl⟩ := Task.create_eq_ok_iff.1 hcreate
    exact hkept.starts rfl

/-- A batch with one entry is accepted and queued. With further entries it is refused: of two that are wrong the first
one is reported, and of what is wrong with that the blank program. -/
theorem accepted_everywhere_of_blank :
    let text := "[[task]]\nprogram = \"cc\"\nenv = [\"A=b=c\", \"E=\"]\n"
    let blank := "[[task]]\nprogram = \" \"\nenv = [\"=x\"]\n[[task]]\nprogram = \"ld\"\nenv = [\"X\"]\n"
    let batch : Batch := ⟨.unset, [{ program := "cc", env := ["A=b=c", "E="] }]⟩
    parse text = .ok batch ∧ parse (text ++ blank) = .error (.config (.emptyProgram " ")) ∧
      ∃ said, queueAll (fun _ : Unit => 0) .ofNat 0 batch.tasks (.create .dryRun ⟨1, false, .strict⟩ .ambient) (.start ()) =
        (.ok (.append (.create .dryRun ⟨1, false, .strict⟩ .ambient) (entryTasks .ofNat false 0 0 batch.tasks)),
          ⟨(), said⟩) := by
  intro text blank batch
  obtain ⟨haccepted, -, -⟩ := accepted_everywhere text
  obtain ⟨hrefused, -, -⟩ := accepted_everywhere (text ++ blank)
  have hread : Toml.read Batch.decode text = .ok batch := by decide +kernel
  have hsound : batch.Sound := validate_eq_ok_iff_sound.1 (by decide +kernel)
  have hparse : parse text = .ok batch := haccepted.parses.2 ⟨hread, hsound⟩
  have hworse : Toml.read Batch.decode (text ++ blank) =
      .ok ⟨.unset, batch.tasks ++ [{ program := " ", env := ["=x"] }, { program := "ld", env := ["X"] }]⟩ := by
    decide +kernel
  have hfirst : FirstOffence
      ⟨.unset, batch.tasks ++ [{ program := " ", env := ["=x"] }, { program := "ld", env := ["X"] }]⟩
      (.config (.emptyProgram " ")) := by
    have hblank : ∀ c ∈ [' '], Text.isBlankChar c = true := by simp [Text.isBlankChar]
    exact ⟨batch.tasks, _, _, rfl, hsound, .blank hblank⟩
  have hqueued := haccepted.queues hparse (fun _ : Unit => 0) .ofNat (.create .dryRun ⟨1, false, .strict⟩ .ambient)
    (.start ())
  exact ⟨hparse, (hrefused.refuses hworse).1.2 hfirst, hqueued⟩

end Batch

end BatchRunner
