import BatchRunner.Proofs.Cli.Checking
import BatchRunner.Proofs.Cli.Queueing
import BatchRunner.Proofs.Store.Layering

/-!
# The options of a run

What each option of a run comes to, from the layers of files and the flags, and how each task of the run captures its
standard error (`Cli.options_by_layers`).
-/

namespace BatchRunner

open QueueField

/-- A task of an entry captures standard error as the entry says, or else in the default way. -/
structure TaskEntry.Captures (entry : TaskEntry) (byDefault : Bool) (task : Task Nat) : Prop where
  spec : task.spec = entry.spec
  separate : task.separateErrors = entry.separateErrors.getD byDefault
  kept : task.errors?.isSome = entry.separateErrors.getD byDefault
  launched : ∀ {V : Type} (host : Host V) (source : EnvironmentSource) (v : V) (request : Launch),
    task.launch host source v = .ok request → request.separateErrors = entry.separateErrors.getD byDefault

theorem TaskEntry.captures_queued (entry : TaskEntry) (byDefault : Bool) (id : TaskId) (index now : Nat) :
    entry.Captures byDefault (.queued id entry.spec index byDefault now) := by
  have hseparate : (Task.queued id entry.spec index byDefault now).separateErrors =
      entry.separateErrors.getD byDefault := rfl
  refine ⟨rfl, hseparate, ?_, fun host source v request hlaunch => ?_⟩
  · rw [Task.errors?, hseparate]
    cases entry.separateErrors.getD byDefault <;> rfl
  · obtain ⟨vars, -, rfl⟩ := Task.launch_eq_ok_iff.1 hlaunch
    exact hseparate

theorem Configuration.layers_of_load {space : Workspace} {directory : Option String} {config : Configuration}
    (h : load space directory = .ok config) :
    ∃ user project, userLayer space directory = .ok user ∧ projectLayer space = .ok project ∧
      config = stack (user.toList ++ project.toList) := by
  rw [load_eq] at h
  obtain ⟨user, huser, h⟩ := except_bind_ok.1 h
  cases hproject : projectLayer space with
  | error error =>
    rw [hproject] at h
    cases h
  | ok project =>
    rw [hproject] at h
    cases h
    exact ⟨user, project, huser, rfl, rfl⟩

namespace Cli

theorem captures_entryTasks (drawId : Nat → TaskId) (byDefault : Bool) (now index : Nat) (entries : List TaskEntry) :
    List.Forall₂ (·.Captures byDefault ·) entries (entryTasks drawId byDefault now index entries) := by
  induction entries generalizing index with
  | nil => exact .nil
  | cons entry entries ih => exact .cons (entry.captures_queued byDefault (drawId index) index now) (ih (index + 1))

/-- An option that a layer leaves open is not changed by that layer, be it a configuration or the batch. -/
theorem value_of_open (field : QueueField) (options : RunOptions) (before after : List Configuration) (batch : Batch)
    (builtIn : QueueOptions) :
    (∀ layer : Configuration, field.set? layer.queue = none →
      field.value (options.queueOptions (.stack (before ++ layer :: after)) batch builtIn) =
        field.value (options.queueOptions (.stack (before ++ after)) batch builtIn)) ∧
    (field.set? batch.queue = none →
      field.value (options.queueOptions (.stack (before ++ after)) batch builtIn) =
        field.value (options.queueOptions (.stack (before ++ after)) { batch with queue := .unset } builtIn)) := by
  have hunset : field.set? QueueSettings.unset = none := by cases field <;> rfl
  refine ⟨fun layer hopen => ?_, fun hopen => ?_⟩
  · have hlast := field.lastSet_of_open hopen (before.map (·.queue)) (after.map (·.queue) ++ [batch.queue])
    rw [value_queueOptions, value_queueOptions, List.map_append, List.map_append, List.map_cons,
      List.append_assoc, List.append_assoc, List.cons_append, hlast]
  · have hlast := field.lastSet_of_open hopen ((before ++ after).map (·.queue)) []
    have hlast' := field.lastSet_of_open hunset ((before ++ after).map (·.queue)) []
    rw [value_queueOptions, value_queueOptions, hlast, hlast']

/-- Each option of a run is what a flag sets it to, or else the last layer that sets it, or else the default; a layer
that leaves it open does not count. The version of stacked configurations is the greatest of one and theirs. A run
whose files load has the layers of the user, of the project and of the batch, and queues each entry to capture its
standard error as the entry says, or else as the option does. -/
theorem options_by_layers :
    (∀ (field : QueueField) (options : RunOptions) (batch : Batch) (hostParallelism : Nat),
      (∀ layers : List Configuration,
        field.value (options.queueOptions (.stack layers) batch (.builtIn hostParallelism)) =
          (field.flag? options).getD
            ((field.lastSet (layers.map (·.queue) ++ [batch.queue])).getD
              (field.value (.builtIn hostParallelism)))) ∧
      ∀ before after : List Configuration,
        (∀ layer : Configuration, field.set? layer.queue = none →
          field.value (options.queueOptions (.stack (before ++ layer :: after)) batch (.builtIn hostParallelism)) =
            field.value (options.queueOptions (.stack (before ++ after)) batch (.builtIn hostParallelism))) ∧
        (field.set? batch.queue = none →
          field.value (options.queueOptions (.stack (before ++ after)) batch (.builtIn hostParallelism)) =
            field.value (options.queueOptions (.stack (before ++ after)) { batch with queue := .unset }
              (.builtIn hostParallelism)))) ∧
    (∀ layers : List Configuration, (1 :: layers.map (·.version)).max? = some (Configuration.stack layers).version) ∧
    ∀ (W : Type) (around : Surroundings W) (options : RunOptions) (session : Session W) (batch : Batch)
      (config : Configuration), Batch.load (session.workspace around) options.batch = .ok batch →
      Configuration.load (session.workspace around) around.configDirectory = .ok config →
      (∃ user project, Configuration.userLayer (session.workspace around) around.configDirectory = .ok user ∧
        Configuration.projectLayer (session.workspace around) = .ok project ∧
        config = .stack (user.toList ++ project.toList)) ∧
      ∃ (queue : Queue Nat) (said : List Remark),
        runBatch around options session = runQueue around options batch queue ⟨session.world, said⟩ ∧
        queue.options = options.queueOptions config batch (.builtIn around.hostParallelism) ∧
        List.Forall₂ (·.Captures queue.options.separateErrors ·) batch.tasks queue.pending := by
  refine ⟨fun field options batch hostParallelism => ⟨fun layers => ?_, fun before after => ?_⟩,
    Configuration.version_stack, fun W around options session batch config hbatch hconfig => ?_⟩
  · exact field.value_queueOptions options layers batch _
  · exact value_of_open field options before after batch _
  · obtain ⟨said, hrun⟩ := runBatch_eq hbatch hconfig
    exact ⟨Configuration.layers_of_load hconfig, batchQueue around options config batch session.world, said, hrun, rfl,
      captures_entryTasks _ _ _ 0 batch.tasks⟩

/-- What the user sets for every run. -/
def userText : String := "version = 2\n\n[queue]\nparallelism = 3\nseparate_errors = true\n"

/-- What a project sets for its own runs. -/
def projectText : String := "[queue]\nparallelism = 4\n"

/-- A batch, the first task of which has its own way to capture standard error. -/
def mixedText : String :=
  "[[task]]\nprogram = \"a\"\nseparate_errors = false\n\n[[task]]\nprogram = \"b\"\n\n[queue]\nparallelism = 5\n"

/-- A batch below the layers of a project and of the user. -/
def layeredSpace : Workspace where
  tree := { entries := [
    (["home"], .directory),
    (["home", "sluice"], .directory),
    (["home", "sluice", "config.toml"], .file Files.newFileMode userText.toUTF8),
    ([".sluice"], .directory),
    ([".sluice", "config.toml"], .file Files.newFileMode projectText.toUTF8),
    (["b"], .file Files.newFileMode mixedText.toUTF8)] }
  cwd := []

def aroundLayers : Surroundings Nat where
  host := .prompt fun _ => .ok 0
  files := ⟨fun _ => layeredSpace, fun _ w => w⟩
  hostParallelism := 2
  configDirectory := some "/home"
  searchPath := none
  patience := 9

def userConfiguration : Configuration := ⟨2, ⟨some 3, some true, .unset⟩⟩

def projectConfiguration : Configuration := ⟨1, ⟨some 4, none, .unset⟩⟩

def mixedBatch : Batch where
  queue := { parallelism := some 5 }
  tasks := [{ program := "a", separateErrors := some false }, { program := "b" }]

theorem load_mixed : Batch.load layeredSpace "b" = .ok mixedBatch := by decide +kernel

theorem load_layered : Configuration.load layeredSpace (some "/home") =
    .ok (.stack [userConfiguration, projectConfiguration]) := by
  have huser : Configuration.userLayer layeredSpace (some "/home") = .ok (some userConfiguration) := by
    decide +kernel
  have hproject : Configuration.projectLayer layeredSpace = .ok (some projectConfiguration) := by decide +kernel
  rw [Configuration.load_eq, huser, hproject]
  rfl

/-- Flags, batch, project and user each have their say, under the version of the user. -/
theorem options_by_layers_of_three :
    (Configuration.stack [userConfiguration, projectConfiguration]).version = 2 ∧
    ∃ (queue : Queue Nat) (said : List Remark),
      runBatch aroundLayers { batch := "b", keepGoing := true } (.start 0) =
        runQueue aroundLayers { batch := "b", keepGoing := true } mixedBatch queue ⟨0, said⟩ ∧
      queue.options = ⟨5, true, .keepGoing⟩ ∧ queue.pending.map (·.separateErrors) = [false, true] := by
  obtain ⟨hfields, hversion, hruns⟩ := options_by_layers
  obtain ⟨-, queue, said, hrun, hoptions, htasks⟩ := hruns Nat aroundLayers { batch := "b", keepGoing := true }
    (.start 0) mixedBatch _ load_mixed load_layered
  have hsettled : queue.options = ⟨5, true, .keepGoing⟩ := by
    refine QueueOptions.ext_fields fun field => ?_
    rw [hoptions]
    refine ((hfields field _ mixedBatch 2).1 [userConfiguration, projectConfiguration]).trans ?_
    cases field <;> rfl
  have hseparate : queue.pending.map (·.separateErrors) =
      mixedBatch.tasks.map fun entry => entry.separateErrors.getD queue.options.separateErrors := by
    symm
    rw [← List.forall₂_eq_eq_eq, List.forall₂_map_left_iff, List.forall₂_map_right_iff]
    exact htasks.imp fun entry task h => h.separate.symm
  refine ⟨(Option.some.inj (hversion [userConfiguration, projectConfiguration])).symm, queue, said, hrun,
    hsettled, ?_⟩
  rw [hseparate, hsettled]
  rfl

end Cli

end BatchRunner
