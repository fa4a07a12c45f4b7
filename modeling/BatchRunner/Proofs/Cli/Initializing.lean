import BatchRunner.Cli.Init
import BatchRunner.Machine.Host
import BatchRunner.Machine.Usual
import BatchRunner.Proofs.Host.Within
import BatchRunner.Proofs.Store.Layering
import BatchRunner.Proofs.Store.Saving
import Mathlib.Control.Monad.Basic

/-!
# What setting up a project pins

The configuration of a new project leaves no option open, so whatever is below it does not count
(`Configuration.options_stack_fresh`). It counts once it was written to a file and can be read back. Writing it leaves
the file of the user as it was or, if both are one file, puts the same configuration there
(`Store.loadOptional_of_save`); and it comes to nothing at a device, which takes a text without keeping it
(`Cli.device_pins_nothing`).
-/

namespace BatchRunner

theorem QueueSettings.merge_ofOptions (lower : QueueSettings) (options : QueueOptions) :
    lower.merge (.ofOptions options) = .ofOptions options := rfl

theorem QueueSettings.resolve_ofOptions (options defaults : QueueOptions) :
    (ofOptions options).resolve defaults = options := rfl

/-- No option of a new project is left to the layers below it, nor to the defaults. -/
theorem Configuration.options_stack_fresh (layers : List Configuration) (hostParallelism : Nat)
    (defaults : QueueOptions) :
    (stack (layers ++ [Cli.freshConfiguration hostParallelism])).options defaults = .builtIn hostParallelism := by
  have hqueue : (stack (layers ++ [Cli.freshConfiguration hostParallelism])).queue =
      .ofOptions (.builtIn hostParallelism) := by
    rw [stack, List.foldl_append]
    exact QueueSettings.merge_ofOptions ..
  rw [options, hqueue, QueueSettings.resolve_ofOptions]

namespace Store

variable {α : Type} [Stored α] {store : Store} {space after : Workspace} {file : String} {value : α}

/-- A configuration whose number of tasks no document can hold is not saved. -/
theorem fits_of_save {config : Configuration} (h : store.save space file config = (.ok (), after)) :
    config.queue.Fits := by
  apply Classical.byContradiction
  intro hfits
  have hwrite := Configuration.write?_toToml hfits
  have hrefuses : store.Refuses space file config := refuses_of_write? hwrite
  obtain ⟨fault, hrefused, -⟩ := hrefuses.fault
  rw [h] at hrefused
  cases hrefused

/-- A document that could be loaded from wherever is still there after another one was saved, or is that one. -/
theorem loadOptional_of_save (hread : Stored.ReadsBack value) (h : store.save space file value = (.ok (), after))
    {other : Store} {otherFile : String} {kept : α} (hkept : other.loadOptional space otherFile = .ok (some kept)) :
    other.loadOptional after otherFile = .ok (some kept) ∨
      other.loadOptional after otherFile = .ok (some value) := by
  obtain ⟨text, hwrite, hread⟩ := hread
  obtain ⟨text', tree, hwrite', hextends, hcwd, hwritten⟩ := save_ok h
  obtain rfl : text = text' := Option.some.inj (hwrite.symm.trans hwrite')
  obtain ⟨old, hold, hdecoded⟩ := loadOptional_eq_some_iff.1 hkept
  rw [loadOptional_eq_some_iff, loadOptional_eq_some_iff, hcwd]
  rcases Files.readText_of_write hwritten (Files.readText_extends hextends hold) with hstill | hnew
  · exact .inl ⟨old, hstill, hdecoded⟩
  · exact .inr ⟨text, hnew, hread⟩

end Store

theorem Machine.workspacePart_lawful : workspacePart.Lawful where
  get_set := fun _ _ => rfl
  set_get := fun _ => rfl
  set_set := fun _ _ _ => rfl

namespace Cli

variable {W : Type} {around : Surroundings W} {session : Session W} {force : Bool}

/-- If nothing is in its way, setting up a project succeeds by saving the configuration of a new one. -/
theorem initProject_saves (hfiles : around.files.Lawful)
    (hfree : (Store.project (Files.render (session.workspace around).cwd)).contains (session.workspace around)
      Configuration.fileName = false ∨ force = true) (h : (initProject around force session).1 = true) :
    (freshConfiguration around.hostParallelism).saveProject (session.workspace around) =
      (.ok (), (initProject around force session).2.workspace around) := by
  have hgo : ((Store.project (Files.render (session.workspace around).cwd)).contains (session.workspace around)
      Configuration.fileName && !force) = false := by
    rcases hfree with hfree | rfl
    · rw [hfree, Bool.false_and]
    · rw [Bool.not_true, Bool.and_false]
  unfold initProject at h ⊢
  simp only [hgo, Bool.false_eq_true, if_false] at h ⊢
  rcases hsave : (freshConfiguration around.hostParallelism).saveProject (session.workspace around) with
    ⟨error | ⟨⟩, after⟩
  · rw [hsave] at h
    cases h
  · exact congrArg (Prod.mk _) (hfiles.get_set ..).symm

theorem readsBack_fresh {hostParallelism : Nat} {space after : Workspace}
    (h : (freshConfiguration hostParallelism).saveProject space = (.ok (), after)) :
    Stored.ReadsBack (freshConfiguration hostParallelism) := by
  have hversion : (freshConfiguration hostParallelism).version ≤ 0xFFFFFFFF := show 1 ≤ 0xFFFFFFFF by decide
  exact Configuration.read_written hversion (Store.fits_of_save h)

/-- Setting up a project pins every option. If it has no configuration yet or is to have a new one, then a success
leaves one under which the options are those built in, whatever the file of the user says and whatever the defaults
are later; that file may be any that could be loaded before or can be loaded after. Else nothing is done. What is
written has to be a file that may be read: a device keeps nothing, and permissions may keep the file closed. -/
theorem init_pins {W : Type} {around : Surroundings W} (hfiles : around.files.Lawful) (force : Bool)
    (session : Session W) :
    let space := session.workspace around
    let store := Store.project (Files.render space.cwd)
    let after := (initProject around force session).2
    let left := after.workspace around
    (store.contains space Configuration.fileName = false ∨ force = true →
      (initProject around force session).1 = true →
      Files.namesReadable left.tree left.cwd (store.filePath Configuration.fileName) = true →
      (∃ user, Configuration.userLayer space around.configDirectory = .ok (some user)) ∨
        (∃ user, Configuration.userLayer left around.configDirectory = .ok user) →
      ∃ config, Configuration.load left around.configDirectory = .ok config ∧
        ∀ defaults, config.options defaults = .builtIn around.hostParallelism) ∧
    (store.contains space Configuration.fileName = true → force = false →
      (initProject around force session).1 = true ∧ after.world = session.world) := by
  intro space store after left
  refine ⟨fun hfree hsuccess hreadable huser => ?_, fun hthere hforce => ?_⟩
  · have hsave : (freshConfiguration around.hostParallelism).saveProject space = (.ok (), left) :=
      initProject_saves hfiles hfree hsuccess
    have hread := readsBack_fresh hsave
    obtain ⟨-, -, -, -, hcwd, -⟩ := Store.save_ok hsave
    have hproject : Configuration.projectLayer left = .ok (some (freshConfiguration around.hostParallelism)) := by
      rw [Configuration.projectLayer, hcwd]
      exact (Store.holds_of_save hread hsave hreadable).loadOptional
    have hloads : ∃ user, Configuration.userLayer left around.configDirectory = .ok user := by
      refine huser.elim (fun ⟨user, hbefore⟩ => ?_) id
      cases hdirectory : around.configDirectory with
      | none => exact ⟨none, rfl⟩
      | some directory =>
        rw [hdirectory] at hbefore
        exact (Store.loadOptional_of_save hread hsave hbefore).elim (⟨_, ·⟩) (⟨_, ·⟩)
    obtain ⟨user, huser⟩ := hloads
    refine ⟨.stack (user.toList ++ [freshConfiguration around.hostParallelism]), ?_,
      Configuration.options_stack_fresh _ _⟩
    rw [Configuration.load_eq, huser, hproject]
    rfl
  · have hinit : initProject around force session = (true, session.say (.output alreadyInitialized)) := by
      unfold initProject
      exact if_pos (by rw [hforce]; simpa using hthere)
    exact ⟨congrArg Prod.fst hinit, congrArg (·.2.world) hinit⟩

/-- What the user sets for every project. -/
def laxText : String := "[queue]\nparallelism = 3\n\n[queue.policy]\non_missing_finished = \"ignore-non-zero\"\n"

def laxConfiguration : Configuration := ⟨1, ⟨some 3, none, { onExit := some .ignoreNonZero }⟩⟩

/-- A machine on which the user has a configuration, with more places in the working directory. -/
def homeMachine (places : List (Files.Path × Files.Entry)) : Machine :=
  .idle {
    entries := [
      (["home"], .directory),
      (["home", "sluice"], .directory),
      (["home", "sluice", "config.toml"], .file Files.newFileMode laxText.toUTF8),
      (["dev"], .directory),
      (["dev", "null"], .device .null),
      (["work"], .directory)] ++ places } ["work"] []

def aroundHome : Surroundings Machine where
  host := Machine.host
  files := Machine.workspacePart
  hostParallelism := 2
  configDirectory := some "/home"
  searchPath := none
  patience := 9

/-- A project with a configuration that is no document. -/
def brokenProject : List (Files.Path × Files.Entry) :=
  [(["work", ".sluice"], .directory),
    (["work", ".sluice", "config.toml"], .file Files.newFileMode "=".toUTF8)]

/-- A project whose configuration is a link to a device that keeps nothing. -/
def deviceProject : List (Files.Path × Files.Entry) :=
  [(["work", ".sluice"], .directory), (["work", ".sluice", "config.toml"], .link "/dev/null")]

/-- A new project is not run with three tasks at once, and a broken configuration stays as it is. -/
theorem init_pins_over_lax :
    (∃ config, Configuration.load ((initProject aroundHome false (.start (homeMachine []))).2.workspace aroundHome)
        (some "/home") = .ok config ∧ ∀ defaults, config.options defaults = .builtIn 2) ∧
      (initProject aroundHome false (.start (homeMachine brokenProject))).2.world = homeMachine brokenProject := by
  have huser : Configuration.userLayer ((Session.start (homeMachine [])).workspace aroundHome) (some "/home") =
      .ok (some laxConfiguration) := by decide +kernel
  refine ⟨(init_pins Machine.workspacePart_lawful false (.start (homeMachine []))).1 (.inl (by decide +kernel))
    (by decide +kernel) (by decide +kernel) (.inl ⟨laxConfiguration, huser⟩), ?_⟩
  exact ((init_pins Machine.workspacePart_lawful false (.start (homeMachine brokenProject))).2 (by decide +kernel) rfl).2

/-- What is written to a device is lost, so what the user sets counts after a success. -/
theorem device_pins_nothing :
    (initProject aroundHome true (.start (homeMachine deviceProject))).1 = true ∧
      Configuration.userLayer ((Session.start (homeMachine deviceProject)).workspace aroundHome) (some "/home") =
        .ok (some laxConfiguration) ∧
      Configuration.load ((initProject aroundHome true (.start (homeMachine deviceProject))).2.workspace aroundHome)
        (some "/home") = .ok laxConfiguration ∧
      laxConfiguration.options (.builtIn 2) ≠ .builtIn 2 := by
  refine ⟨?_, ?_, ?_, ?_⟩
  · decide +kernel
  · decide +kernel
  · decide +kernel
  · decide

/-- The session of an ordinary user, who may write the configuration of the project but not read it. -/
def writeOnlySession : Session Machine :=
  let machine := homeMachine
    [(["work", ".sluice"], .directory), (["work", ".sluice", "config.toml"], .file 0o222 .empty)]
  .start { machine with tree := { machine.tree with privileged := false } }

/-- Such a project is set up, but its configuration cannot be loaded. -/
example : (initProject aroundHome true writeOnlySession).1 = true ∧
    (Configuration.load ((initProject aroundHome true writeOnlySession).2.workspace aroundHome) (some "/home")).isOk =
      false := by
  decide +kernel

end Cli

end BatchRunner
