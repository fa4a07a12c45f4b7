import BatchRunner.Cli.Arguments
import BatchRunner.Cli.Check
import BatchRunner.Cli.Init
import BatchRunner.Cli.Run

/-!
# The program

From arguments to an exit status: zero for success, one for a failure, two for arguments that are refused.
-/

namespace BatchRunner.Cli

variable {W : Type}

/-- What a program leaves behind. -/
structure Conclusion (W : Type) where
  status : Nat
  transcript : Transcript
  world : W
  /-- How much of the log the arguments ask for. -/
  level : LogLevel

/-- The conclusion of a command that did or did not succeed. -/
def Conclusion.ofSession (level : LogLevel) (succeeded : Bool) (session : Session W) : Conclusion W :=
  ⟨if succeeded then 0 else 1, session.transcript, session.world, level⟩

/-- Does what is asked for. -/
def perform (around : Surroundings W) (action : Action) (session : Session W) :
    Except Halt (Bool × Session W) :=
  match action with
  | .run options => runBatch around options session
  | .check batch => .ok (checkBatch around batch session)
  | .init force => .ok (initProject around force session)

/-- Runs the program with arguments in a world. -/
def runProgram (around : Surroundings W) (arguments : List String) (w : W) : Except Halt (Conclusion W) :=
  match Request.ofArguments arguments with
  | .error (error, command) => .ok ⟨2, [.complaint (error.message command)], w, .info⟩
  | .ok (.showHelp command) => .ok ⟨0, [.output command.helpText], w, .info⟩
  | .ok .showVersion =>
    .ok ⟨0, [.output (Command.program.name ++ " " ++ Command.version ++ "\n")], w, .info⟩
  | .ok (.perform action debug) => do
    let (succeeded, session) ← perform around action (.start w)
    return .ofSession (if debug then .debug else .info) succeeded session

end BatchRunner.Cli
