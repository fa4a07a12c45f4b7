import BatchRunner.Machine.Process

/-!
# Redirections

What the redirections of a command do to the descriptors of a shell.
-/

namespace BatchRunner.Machine

open BatchRunner.Machine.Shell (Context Redirect RedirectKind)

/-- A redirection whose word has been expanded. -/
structure Target where
  fd : Fd
  kind : RedirectKind
  text : String
  deriving Inhabited

/-- What the shell says of a file that cannot be opened: words of its own if something is missing, or else
those of the operating system. -/
def openFailure (how : Opening) (path : String) (errno : Os.Errno) : String :=
  let isMissing := errno = Os.Errno.noEntry ∨ errno = Os.Errno.notDirectory
  match how with
  | .reading => "cannot open " ++ path ++ ": " ++ if isMissing then "No such file" else errno.sentence
  | _ => "cannot create " ++ path ++ ": " ++ if isMissing then "Directory nonexistent" else errno.sentence

/-- How a redirection opens a file. -/
def openingOf (context : Context) : RedirectKind → Opening
  | .output always => .writing (!always && context.hasOption 'C')
  | .append => .appending
  | .update => .updating
  | _ => .reading

/-- A process after a redirection, with the descriptor that has been changed as it was before; or what is wrong. -/
def redirect (m : Machine) (context : Context) (p : Process) (target : Target) :
    Except String (Option (Fd × Option Endpoint) × Process × Machine) :=
  let before := (target.fd, p.endpoint? target.fd)
  let changed (endpoint : Option Endpoint) (m : Machine) :
      Except String (Option (Fd × Option Endpoint) × Process × Machine) :=
    .ok (some before, p.setDescriptor target.fd endpoint, m)
  match target.kind with
  | .duplicate => match target.text.toList.head?.bind Text.digitValue? with
    | none => changed none m
    | some fd =>
      if fd = target.fd then .ok (none, p, m)
      else match p.endpoint? fd with
        | some endpoint => changed (some endpoint) m
        | none => .error (target.text ++ ": Bad file descriptor")
  | .document _ =>
    let file : OpenFile := {
      place := none, content := Text.toByteArray target.text, offset := 0, readable := true, writable := false
      appending := false }
    let (endpoint, m) := m.openFile file
    changed (some endpoint) m
  | kind =>
    let how := openingOf context kind
    match m.openPath context.cwd context.mask p.descriptors how (Text.ofOctets target.text) with
    | .ok (endpoint, m) => changed (some endpoint) m
    | .error errno => .error (openFailure how target.text errno)

/-- What redirections came to: the descriptors that have been changed, as they were before, the last one first; the
process and the machine; and what is wrong with the redirection that was not made. -/
structure Redirected where
  saved : List (Fd × Option Endpoint)
  process : Process
  machine : Machine
  fault : Option String

/-- Makes redirections in order, up to the first that cannot be made. -/
def redirectAll (context : Context) : List Target → Redirected → Redirected
  | [], done => done
  | target :: rest, done => match done.machine.redirect context done.process target with
    | .ok (before, process, machine) =>
      redirectAll context rest { done with saved := before.toList ++ done.saved, process, machine }
    | .error fault => { done with fault := some fault }

/-- Puts descriptors back, the last one that was changed first. -/
def Process.restored (p : Process) (saved : List (Fd × Option Endpoint)) : Process :=
  saved.foldl (fun p entry => p.setDescriptor entry.1 entry.2) p

/-! ## Expansion -/

/-- Whether a text names a descriptor by a digit, or none by a hyphen. -/
def namesDescriptor (text : String) : Bool :=
  match text.toList with
  | [c] => c == '-' || c.isDigit
  | _ => false

/-- The redirections of a command with their words expanded. -/
def expandTargets (documents : List (Nat × Shell.Word)) : List Redirect → Shell.Expansion (List Target)
  | [] => return []
  | r :: rest => do
    let text ← match r.kind with
      | .document number => Shell.expandDocument ((documents.lookup number).getD [])
      | _ => Shell.expandText r.target
    if r.kind == .duplicate && !namesDescriptor text then throw (.fails "Syntax error: Bad fd number")
    return ⟨r.fd, r.kind, text⟩ :: (← expandTargets documents rest)

end BatchRunner.Machine
