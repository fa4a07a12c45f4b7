import BatchRunner.Cli.Transcript
import BatchRunner.Host
import BatchRunner.Store

/-!
# Sessions

A session is the world in which a command works, with what the command has said so far.
-/

namespace BatchRunner.Cli

/-- What a command finds around it and does not change. -/
structure Surroundings (W : Type) where
  host : Host W
  /-- The files of the world. -/
  files : Part W Workspace
  /-- How many threads the host runs at once. -/
  hostParallelism : Nat
  /-- The directory for the user's configurations, if there is one. -/
  configDirectory : Option String
  /-- Where programs are looked for, if anywhere. -/
  searchPath : Option String
  /-- The most calls made on the host in one reading or one wait. -/
  patience : Nat
  /-- The identifiers that are drawn for the tasks of a batch, by their indices. -/
  drawId : Nat → TaskId := TaskId.ofNat

/-- The world, and what has been said, last first. -/
structure Session (W : Type) where
  world : W
  said : List Remark

namespace Session

variable {W : Type}

/-- A session in which nothing has been said. -/
def start (w : W) : Session W := ⟨w, []⟩

/-- Says something. -/
def say (session : Session W) (remark : Remark) : Session W :=
  { session with said := remark :: session.said }

/-- Everything that was said, in order. -/
def transcript (session : Session W) : Transcript := session.said.reverse

/-- The world of a session. -/
def worldPart : Part (Session W) W := ⟨(·.world), fun w session => { session with world := w }⟩

/-- Ends a command with a failure. -/
def fail (session : Session W) (context : Option String) (error : Error) : Bool × Session W :=
  (false, session.say (.complaint (Failure.mk context error).message))

/-- The files of a session. -/
def workspace (session : Session W) (around : Surroundings W) : Workspace := around.files.get session.world

/-- The session with other files. -/
def withWorkspace (session : Session W) (around : Surroundings W) (space : Workspace) : Session W :=
  { session with world := around.files.set space session.world }

end Session

end BatchRunner.Cli
