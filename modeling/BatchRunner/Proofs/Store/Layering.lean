import BatchRunner.Cli.RunOptions

/-!
# Options by layers

A field of the options of a queue is set or left open by each of several layers, and by the flags of a run
(`QueueField`). What it comes to is the value of the last layer that sets it, or else the default, unless a flag is
given (`QueueField.value_queueOptions`); so no field looks at another one. A configuration that is loaded is a stack of
at most two layers, that of the user below that of the project (`Configuration.load_eq`).
-/

namespace BatchRunner

/-- The options of a queue that a layer may set. -/
inductive QueueField where
  | parallelism
  | separateErrors
  | onExit
  | onSignal
  deriving DecidableEq, Repr

namespace QueueField

abbrev Value : QueueField → Type
  | parallelism => Nat
  | separateErrors => Bool
  | onExit => ExitRule
  | onSignal => SignalRule

/-- What a layer sets a field to. -/
def set? : (field : QueueField) → QueueSettings → Option field.Value
  | parallelism, settings => settings.parallelism
  | separateErrors, settings => settings.separateErrors
  | onExit, settings => settings.policy.onExit
  | onSignal, settings => settings.policy.onSignal

def value : (field : QueueField) → QueueOptions → field.Value
  | parallelism, options => options.parallelism
  | separateErrors, options => options.separateErrors
  | onExit, options => options.policy.onExit
  | onSignal, options => options.policy.onSignal

/-- What the flags of a run set a field to. The flag to keep going sets both rules. -/
def flag? : (field : QueueField) → RunOptions → Option field.Value
  | parallelism, options => options.jobs
  | separateErrors, options => if options.separateErrors then some true else none
  | onExit, options => if options.keepGoing then some .ignoreNonZero else none
  | onSignal, options => if options.keepGoing then some .ignoreSignals else none

/-- What the last of the layers that set a field sets it to. -/
def lastSet (field : QueueField) (layers : List QueueSettings) : Option field.Value :=
  (layers.filterMap field.set?).getLast?

variable (field : QueueField)

/-- Of two layers the upper one decides, where it sets the field. -/
theorem set?_merge (lower upper : QueueSettings) :
    field.set? (lower.merge upper) = (field.set? upper).or (field.set? lower) := by
  cases field with
  | parallelism => exact Option.orElse_eq_or ..
  | separateErrors => exact Option.orElse_eq_or ..
  | onExit => exact Option.orElse_eq_or ..
  | onSignal => exact Option.orElse_eq_or ..

theorem value_resolve (settings : QueueSettings) (defaults : QueueOptions) :
    field.value (settings.resolve defaults) = (field.set? settings).getD (field.value defaults) := by
  cases field <;> rfl

theorem value_override (options : RunOptions) (queue : QueueOptions) :
    field.value (options.override queue) = (field.flag? options).getD (field.value queue) := by
  cases field with
  | parallelism => rfl
  | separateErrors => cases h : options.separateErrors <;> simp [value, flag?, RunOptions.override, h]
  | onExit => cases h : options.keepGoing <;> simp [value, flag?, RunOptions.override, Policy.keepGoing, h]
  | onSignal => cases h : options.keepGoing <;> simp [value, flag?, RunOptions.override, Policy.keepGoing, h]

theorem set?_mergeAll (base : QueueSettings) (layers : List QueueSettings) :
    field.set? (layers.foldl QueueSettings.merge base) = (field.lastSet layers).or (field.set? base) := by
  induction layers generalizing base with
  | nil => rfl
  | cons layer layers ih =>
    rw [List.foldl_cons, ih, set?_merge, lastSet, lastSet]
    cases hlayer : field.set? layer with
    | none => simp [hlayer]
    | some value => cases hlast : (layers.filterMap field.set?).getLast? <;> simp [hlayer, List.getLast?_cons, hlast]

theorem lastSet_of_open {layer : QueueSettings} (h : field.set? layer = none) (before after : List QueueSettings) :
    field.lastSet (before ++ layer :: after) = field.lastSet (before ++ after) := by
  simp [lastSet, h]

end QueueField

theorem QueueOptions.ext_fields {options options' : QueueOptions}
    (h : ∀ field : QueueField, field.value options = field.value options') : options = options' := by
  obtain ⟨parallelism, separateErrors, onExit, onSignal⟩ := options
  obtain ⟨parallelism', separateErrors', onExit', onSignal'⟩ := options'
  obtain rfl : parallelism = parallelism' := h .parallelism
  obtain rfl : separateErrors = separateErrors' := h .separateErrors
  obtain rfl : onExit = onExit' := h .onExit
  obtain rfl : onSignal = onSignal' := h .onSignal
  rfl

namespace Configuration

/-- Configurations over one another, the first one lowest. -/
def stack (layers : List Configuration) : Configuration := layers.foldl merge .unset

theorem queue_mergeAll (base : Configuration) (layers : List Configuration) :
    (layers.foldl merge base).queue = (layers.map (·.queue)).foldl QueueSettings.merge base.queue := by
  induction layers generalizing base with
  | nil => rfl
  | cons layer layers ih => exact ih (base.merge layer)

/-- Versions are merged by their maximum, whatever else the layers say. -/
theorem version_mergeAll (base : Configuration) (layers : List Configuration) :
    (layers.foldl merge base).version = (layers.map (·.version)).foldl max base.version := by
  induction layers generalizing base with
  | nil => rfl
  | cons layer layers ih => exact ih (base.merge layer)

/-- The version of layers over one another is the largest of theirs and of the first version. -/
theorem version_stack (layers : List Configuration) :
    (1 :: layers.map (·.version)).max? = some (stack layers).version := by
  rw [List.max?_cons', stack, version_mergeAll]
  rfl

/-- The configuration of the user, if there is a directory for it and a file in that. -/
def userLayer (space : Workspace) : Option String → Except Error (Option Configuration)
  | none => .ok none
  | some directory => (Store.global directory).loadOptional space fileName

/-- The configuration of the project in the working directory, if there is one. -/
def projectLayer (space : Workspace) : Except Error (Option Configuration) :=
  (Store.project (Files.render space.cwd)).loadOptional space fileName

/-- A layer that is not there is left out, and one that cannot be loaded ends the loading. -/
theorem mergeFrom_eq (config : Configuration) (store : Store) (space : Workspace) :
    config.mergeFrom store space =
      (store.loadOptional space fileName).map fun upper => upper.toList.foldl merge config := by
  unfold mergeFrom
  cases (store.loadOptional space fileName : Except Error (Option Configuration)) with
  | error error => rfl
  | ok upper => cases upper <;> rfl

/-- What is loaded is the layer of the project over that of the user, of those that are there. -/
theorem load_eq (space : Workspace) (directory : Option String) :
    load space directory = (userLayer space directory).bind fun user =>
      (projectLayer space).map fun project => stack (user.toList ++ project.toList) := by
  have hstack : ∀ user project : Option Configuration, stack (user.toList ++ project.toList) =
      project.toList.foldl merge (user.toList.foldl merge .unset) := fun user project => List.foldl_append
  simp only [hstack]
  cases directory with
  | none => exact mergeFrom_eq ..
  | some directory =>
    show (unset.mergeFrom (.global directory) space).bind _ = _
    rw [mergeFrom_eq, userLayer]
    cases ((Store.global directory).loadOptional space fileName : Except Error (Option Configuration)) with
    | error error => rfl
    | ok user => exact mergeFrom_eq ..

end Configuration

namespace QueueField

/-- A field comes to what a flag sets it to, or else the last layer that sets it, or else to the default. -/
theorem value_queueOptions (field : QueueField) (options : RunOptions) (layers : List Configuration) (batch : Batch)
    (builtIn : QueueOptions) : field.value (options.queueOptions (.stack layers) batch builtIn) =
      (field.flag? options).getD
        ((field.lastSet (layers.map (·.queue) ++ [batch.queue])).getD (field.value builtIn)) := by
  have hmerged : (Configuration.stack layers).queue.merge batch.queue =
      (layers.map (·.queue) ++ [batch.queue]).foldl QueueSettings.merge .unset := by
    rw [List.foldl_append, Configuration.stack, Configuration.queue_mergeAll]
    rfl
  have hopen : field.set? .unset = none := by cases field <;> rfl
  rw [RunOptions.queueOptions, value_override, value_resolve, hmerged, set?_mergeAll, hopen, Option.or_none]

end QueueField

end BatchRunner
