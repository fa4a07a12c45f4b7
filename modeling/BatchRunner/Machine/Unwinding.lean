import BatchRunner.Machine.Redirection

/-!
# Leaving commands early

A command may leave the loops, the function or the script that it stands in, and a fault may leave everything. What
stood behind the command is dropped, except for the work that undoes what was done on the way in.
-/

namespace BatchRunner.Machine

open BatchRunner.Machine.Shell (Context)

/-- Whether some work stands for a loop that is being run. -/
def Work.isLoop : Work → Bool
  | .loop _ _ _ _ _ => true
  | .again _ _ _ _ => true
  | .forEach _ _ _ _ => true
  | _ => false

/-- Whether some work ends a function. -/
def Work.endsFunction : Work → Bool
  | .leaveFunction _ _ _ => true
  | _ => false

/-- How many loops of the current function are being run. -/
def loopDepth (context : Context) (work : List Work) : Nat :=
  context.loops + (work.takeWhile fun w => !w.endsFunction).countP (·.isLoop)

/-- Whether some work undoes what was done on the way into a command. -/
def Work.undoes : Work → Bool
  | .restore _ => true
  | .closeScope => true
  | .leaveFunction _ _ _ => true
  | .leaveFile _ => true
  | .leaveBuiltin _ => true
  | .leaveTrap _ _ => true
  | _ => false

/-- Whether some work is the end of the shell. -/
def Work.endsShell : Work → Bool
  | .exit => true
  | .leaveExitTrap => true
  | _ => false

/-- The work left when so many loops are left, or when the last of them is to go on. -/
def leaveLoops (goOn : Bool) : Nat → List Work → List Work
  | _, [] => []
  | count, w :: rest =>
    if w.endsShell then w :: rest
    else match w, count with
      | .loop u test body standing status, 1 =>
        if goOn then .evaluate test { tested := true } :: .loop u test body standing status :: rest
        else .setStatus status :: rest
      | .again u test body standing, 1 => if goOn then .again u test body standing :: rest else rest
      | .forEach name values body standing, 1 =>
        if goOn then .forEach name values body standing :: rest else rest
      | w, count =>
        if w.isLoop then leaveLoops goOn (count - 1) rest
        else if w.undoes then w :: leaveLoops goOn count rest
        else leaveLoops goOn count rest

/-- The work left when a function, or a script that was read from a file, is left with a status; nothing keeps the
status that a trap gives back. -/
def leaveCall (status : Option Nat) : List Work → List Work
  | [] => []
  | w :: rest =>
    if w.endsShell then w :: rest
    else match w with
      | .leaveFunction _ _ _ => w :: rest
      | .leaveFile _ => w :: rest
      | .leaveTrap old saved =>
        .leaveTrap (status.getD old) saved :: leaveCall status rest
      | w => if w.undoes then w :: leaveCall status rest else leaveCall status rest

/-- The first piece of work, which looks at the status of a command, is done before the others are dropped. -/
def afterCheck (drop : List Work → List Work) (work : List Work) : List Work :=
  let isCheck : Work → Bool
    | .finish _ _ => true
    | _ => false
  let front := work.takeWhile fun w => !isCheck w
  match work.drop front.length with
  | check :: rest => front ++ check :: drop rest
  | [] => drop work

/-- The work left behind a fault: that which follows the innermost command that lets no fault go further and fails, or
nothing if the fault ends the shell. -/
def behindGuard : List Work → Option (List Work)
  | [] => none
  | .guard :: rest => some (.setStatus 2 :: rest)
  | w :: rest =>
    if w.endsShell then none
    else (behindGuard rest).map fun left => if w.undoes then w :: left else left

/-- A shell that ends: the action for its end is run first, unless that is what is being done. -/
def endShell (m : Machine) (p : Process) (context : Context) (ending : List Work) : Machine :=
  let isEnding := ending.any fun
    | .leaveExitTrap => true
    | _ => false
  match if isEnding then none else context.trap? 0 with
  | some action =>
    let ended := { context.setTrap 0 none with savedStatus := some context.status }
    m.update (p.shell ended [.script (.ofText action 1 0 []) {} (some 0), .leaveExitTrap])
  | none => m.endProcess p (.exited context.status)

/-- What is said, if there is anything to say. -/
def saying (text : String) : List Work := if text == "" then [] else [.write 2 (Text.toByteArray text)]

/-- A shell that is to end with a status after it has said something: descriptors are put back, and what it had to do
is dropped. -/
def quit (m : Machine) (p : Process) (context : Context) (status : Nat) (text : String) (work : List Work) : Machine :=
  let context := { context with status, savedStatus := none }
  m.update (p.shell context (saying text ++ .restore (work.flatMap (·.saved)) :: work.filter (·.endsShell)))

/-- A fault, of which the shell has something to say: it ends the shell, or the innermost command that lets no fault
go further. -/
def fail (m : Machine) (p : Process) (context : Context) (text : String) (work : List Work) : Machine :=
  match behindGuard work with
  | some left =>
    let here := (work.head?.map (·.saved)).getD []
    m.update (p.shell context (saying text ++ .restore here :: left))
  | none => m.quit p context 2 text work

end BatchRunner.Machine
