import BatchRunner.Store
import BatchRunner.Task.Spec

/-!
# Options of a run

What the command line says about a run, and how it combines with the files: the configuration first, then the
settings of the batch, then the flags.
-/

namespace BatchRunner

/-- The flags and arguments of a run. -/
structure RunOptions where
  batch : String := ""
  jobs : Option Nat := none
  keepGoing : Bool := false
  separateErrors : Bool := false
  dryRun : Bool := false
  json : Bool := false
  deriving DecidableEq, Repr, Inhabited

namespace RunOptions

/-- Puts the flags over the options that the files give. -/
def override (options : RunOptions) (queue : QueueOptions) : QueueOptions where
  parallelism := options.jobs.getD queue.parallelism
  separateErrors := options.separateErrors || queue.separateErrors
  policy := if options.keepGoing then .keepGoing else queue.policy

/-- The options of the queue that runs a batch under a configuration. -/
def queueOptions (options : RunOptions) (config : Configuration) (batch : Batch) (builtIn : QueueOptions) :
    QueueOptions :=
  options.override ((config.queue.merge batch.queue).resolve builtIn)

end RunOptions

/-- What an entry of a batch asks to run. -/
def TaskEntry.spec (entry : TaskEntry) : TaskSpec :=
  ⟨entry.program, entry.args, entry.env, entry.separateErrors⟩

end BatchRunner
