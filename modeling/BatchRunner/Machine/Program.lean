import BatchRunner.Files.Lookup
import BatchRunner.Machine.Basic
import BatchRunner.Machine.Shell.Options
import BatchRunner.Machine.Tool.Table

/-!
# Starting programs

A file is followed to the program that it holds or, if it is a script, to the program that is to read it; the
program with its arguments gives what a process is to do.
-/

namespace BatchRunner.Machine

/-- Where a program is started: what it runs in, the number of its process, and that of the process it belongs
to. -/
structure Start where
  setting : Setting
  pid : Pid
  parent : Pid

/-! ## Scripts that name their interpreter -/

/-- How many bytes at the front of a file tell what it is. -/
def headSize : Nat := 256

/-- Whether a byte is a blank or a tab. -/
def isGap (b : UInt8) : Bool := b == 32 || b == 9

/-- The interpreter that the first line of a script names, with the argument that may follow: the rest of the
line, less the gaps around it, as far as the first bytes of the file show it. A name that goes on behind them is
none. -/
def interpreter? (content : ByteArray) : Option (String × Option String) :=
  let front := (content.extract 0 headSize).toList
  match front with
  | 35 :: 33 :: line =>
    let ended := line.contains 10 || content.size < headSize
    -- Without the end of the line the last of the first bytes does not count.
    let line := if line.contains 10 then line.takeWhile (· != 10) else line.take (headSize - 3)
    let line := line.dropWhile isGap
    let name := line.takeWhile fun b => !isGap b && b != 0
    let behind := line.drop name.length
    if name.isEmpty || (behind.isEmpty && !ended) then none
    else
      let argument := ((behind.dropWhile isGap).takeWhile (· != 0)).reverse.dropWhile isGap |>.reverse
      let text (bytes : List UInt8) : String := Text.ofByteArray ⟨bytes.toArray⟩
      some (text name, if argument.isEmpty then none else some (text argument))
  | _ => none

/-- How many scripts may name one another as interpreters. -/
def interpreterDepth : Nat := 5

/-- The program that a file holds, with the name and the arguments that it gets. The fuel bounds the number of
scripts on the way. -/
def load (tree : Files.Tree) (cwd : Files.Path) :
    Nat → String → String → List String → Except Os.Errno (String × String × List String)
  | depth, path, name, args => do
    match ← Files.find tree cwd (Text.ofOctets path) with
    | .directory => .error Os.Errno.accessDenied
    | .device _ => .error Os.Errno.accessDenied
    | .link _ => .error Os.Errno.linkLoop
    | .tool tool => return (tool, name, args)
    | .file mode content =>
      if mode &&& 0o111 = 0 then .error Os.Errno.accessDenied
      else match interpreter? content with
        | none => .error Os.Errno.execFormat
        | some (program, argument) => match depth with
          | 0 => .error Os.Errno.linkLoop
          | depth + 1 => load tree cwd depth program program (argument.toList ++ path :: args)

/-! ## Limits -/

/-- The most bytes of one argument or variable, its closing zero included. -/
def argumentLimit : Nat := 131072

/-- The most bytes of all arguments and variables of a program together. -/
def totalLimit : Nat := 2097152

/-- Whether the arguments and variables of a program are too much for a new process. -/
def isTooMuch (path : String) (args : List String) (vars : Variables) : Bool :=
  let texts := args ++ vars.map fun v => v.1 ++ "=" ++ v.2
  let total := (texts.map fun s => s.length + 9).foldl (· + ·) (path.length + 1)
  texts.any (fun s => argumentLimit ≤ s.length) || totalLimit < total

/-! ## Shells -/

/-- The name of the working directory: that of the variables if it is right, or else the plain one. -/
def directoryName (tree : Files.Tree) (setting : Setting) : String :=
  let plain := Text.octets (Files.render setting.cwd)
  match setting.vars.lookup "PWD" with
  | some name =>
    if name.startsWith "/" && (Files.resolve tree setting.cwd (Text.ofOctets name)).toOption == some setting.cwd
    then name else plain
  | none => plain

open Shell (setOption readOptions)

/-- A shell with nothing to do but to complain. -/
def faultyShell (context : Shell.Context) (text : String) : Activity :=
  .shell { context with status := 2 } [.write 2 (Text.toByteArray (context.complaint text)), .exit]

/-- What a shell is to do by its arguments. -/
def shellActivity (tree : Files.Tree) (start : Start) (name : String) (args : List String) : Activity :=
  let setting := start.setting
  let context (name : String) (args : List String) : Shell.Context :=
    .atStart name args setting.vars start.pid start.parent setting.cwd (directoryName tree setting) setting.mask
  let atZero (c : Shell.Context) : Shell.Context := { c with line := 0 }
  match readOptions true (args.length + 1) {} args with
  | .error text => faultyShell (atZero (context name [])) text
  | .ok call =>
    let options (c : Shell.Context) : Shell.Context := { c with options := call.options }
    if call.hasScript then
      match call.rest with
      | [] => faultyShell (atZero (context name [])) "-c requires an argument"
      | script :: rest =>
        let c := options (context (rest.headD name) rest.tail)
        .shell c [.script (.ofText script 1 0 []) { last := !call.options.contains 's' } (some 0), .exit]
    else match call.rest, call.options.contains 's' with
      | file :: rest, false =>
        match Files.readBytes tree setting.cwd (Text.ofOctets file) with
        | .ok bytes => .shell (options (context file rest)) [.script (.ofText (Text.ofByteArray bytes) 1 0 []) {} (some 0), .exit]
        | .error (.os errno) =>
          if errno = Os.Errno.isDirectory then .shell (context file rest) [.exit]
          else
            let sentence := if errno = Os.Errno.noEntry ∨ errno = Os.Errno.notDirectory then "No such file"
              else errno.sentence
            faultyShell (atZero (context name [])) ("cannot open " ++ file ++ ": " ++ sentence)
        | .error _ => faultyShell (atZero (context name [])) ("cannot open " ++ file ++ ": No such file")
      | rest, _ =>
        let c := context name rest
        .shell { c with options := setOption call.options true 's' } [.readScript .empty]

/-! ## Starting by path and by name -/

/-- What a process does that runs a program of the machine. -/
def activityOf (tree : Files.Tree) (start : Start) (tool name : String) (args : List String) : Activity :=
  if Tool.shells.contains tool then shellActivity tree start name args
  else .program start.setting (Tool.plan tool { name, args, setting := start.setting, pid := start.pid })

/-- Starts the program at a path. -/
def startAt (tree : Files.Tree) (start : Start) (path name : String) (args : List String) :
    Except Os.Errno Activity := do
  let (tool, newName, newArgs) ← load tree start.setting.cwd interpreterDepth path name args
  if isTooMuch path (name :: args) start.setting.vars then .error Os.Errno.argumentsTooLong
  else return activityOf tree start tool newName newArgs

/-- The search path where none is given. -/
def defaultSearchPath : String := "/bin:/usr/bin"

/-- Tries places in order. A place that lacks the program is passed over; one that may not be used is, too,
but remembered. A script without an interpreter of its own is given to the shell. -/
def tryPlaces (tree : Files.Tree) (start : Start) (name : String) (args : List String) :
    Bool → List String → Except Os.Errno Activity
  | refused, [] => .error (if refused then Os.Errno.accessDenied else Os.Errno.noEntry)
  | refused, place :: places =>
    match startAt tree start place name args with
    | .ok activity => .ok activity
    | .error errno =>
      if errno = Os.Errno.accessDenied then tryPlaces tree start name args true places
      else if errno = Os.Errno.noEntry ∨ errno = Os.Errno.notDirectory then
        tryPlaces tree start name args refused places
      else if errno = Os.Errno.execFormat then
        .ok (activityOf tree start "sh" "/bin/sh" (place :: args))
      else .error errno

/-- Starts a program by name: a name with a slash is a path, any other is looked for in the search path of
the variables. -/
def startByName (tree : Files.Tree) (start : Start) (name : String) (args : List String) :
    Except Os.Errno Activity :=
  if name = "" then .error Os.Errno.noEntry
  else if name.toList.contains '/' then startAt tree start name name args
  else
    let dirs := Files.searchDirectories ((start.setting.vars.lookup "PATH").getD defaultSearchPath)
    if Files.nameLimit < name.length then .error Os.Errno.nameTooLong
    else tryPlaces tree start name args false (dirs.map (Files.join · name))

end BatchRunner.Machine
