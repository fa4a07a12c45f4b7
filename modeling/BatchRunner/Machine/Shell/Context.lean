import BatchRunner.Files.Tree
import BatchRunner.Machine.Shell.Word
import BatchRunner.Os.Signal

/-!
# What a shell knows

Variables, functions, arguments and options: everything that the commands of a shell read and change.
-/

namespace BatchRunner.Machine.Shell

/-- A variable. One that is exported need not have a value. -/
structure Variable where
  value : Option String
  exported : Bool := false
  constant : Bool := false
  deriving DecidableEq, Repr, Inhabited

/-- A named command, and the line on which it is defined. -/
structure Function where
  line : Nat
  body : Command
  deriving Inhabited

/-- Processes that were started together: the last of them stands for all. A job that has ended keeps its status;
one that was waited for is forgotten when the next one starts. -/
structure Job where
  pids : List Nat
  status : Option Nat := none
  waited : Bool := false
  deriving Inhabited

/-- What a shell knows while it runs. -/
structure Context where
  /-- The name under which the shell was started. -/
  name : String
  args : List String
  /-- The variables, in the order in which they were first set. -/
  vars : List (String × Variable)
  functions : List (String × Function)
  aliases : List (String × String)
  /-- The letters of the options that are set. -/
  options : List Char
  /-- What is done about signals, by number; 0 stands for the end of the shell. -/
  traps : List (Nat × String)
  /-- The status of the last command. -/
  status : Nat
  /-- The status that the shell is to end with, or that a trap gives back. -/
  savedStatus : Option Nat
  /-- The status of the last script whose output was asked for. -/
  scriptStatus : Nat
  /-- The number of the process in which the script was started, and of the one that started it. -/
  shellPid : Nat
  parentPid : Nat
  lastBackground : Option Nat
  jobs : List Job
  /-- The working directory: its place, and its name as the shell got there. -/
  cwd : Files.Path
  cwdName : String
  /-- The permissions that new files are not given. -/
  mask : Nat
  /-- The line of the command that is being run. -/
  line : Nat
  /-- The builtin command that is being run. -/
  running : Option String
  /-- How many loops of the current function are being run. -/
  loops : Nat
  /-- How many functions are being run. -/
  calls : Nat
  /-- The variables as they were before a command or function made them its own, innermost first. -/
  scopes : List (List (String × Option Variable))
  /-- How far the options of the arguments were read: inside which argument, at which character. -/
  optionOffset : Option Nat
  /-- The texts that redirections refer to, and how many numbers are taken. -/
  documents : List (Nat × Word)
  nextDocument : Nat
  /-- The programs that were found by name. -/
  found : List (String × String)
  deriving Inhabited

namespace Context

/-! ## Messages -/

/-- A message of the shell, with its name and the line and command that it is about. -/
def complaint (context : Context) (text : String) : String :=
  let command := match context.running with
    | some name => name ++ ": "
    | none => ""
  context.name ++ ": " ++ toString context.line ++ ": " ++ command ++ text ++ "\n"

/-! ## Variables -/

/-- A variable, if it was ever mentioned. -/
def known? (context : Context) (name : String) : Option Variable := context.vars.lookup name

/-- The value of a variable. -/
def value? (context : Context) (name : String) : Option String := (context.known? name).bind (·.value)

/-- Whether an option is set. -/
def hasOption (context : Context) (letter : Char) : Bool := context.options.contains letter

/-- Puts a variable in its place, or behind the others. -/
def putVariable (context : Context) (name : String) (v : Variable) : Context :=
  if (context.known? name).isSome then
    { context with vars := context.vars.map fun entry => if entry.1 == name then (name, v) else entry }
  else { context with vars := context.vars ++ [(name, v)] }

/-- Takes a variable away. -/
def dropVariable (context : Context) (name : String) : Context :=
  { context with vars := context.vars.filter (·.1 != name) }

/-- Sets a variable; one that is constant is refused. -/
def assign (context : Context) (name value : String) : Except String Context :=
  let old := (context.known? name).getD { value := none }
  if old.constant then .error (name ++ ": is read only")
  else
    let context := context.putVariable name
      { old with value := some value, exported := old.exported || context.hasOption 'a' }
    .ok (if name = "OPTIND" then { context with optionOffset := none } else context)

/-- Sets a variable that may not be constant. -/
def set (context : Context) (name value : String) : Context :=
  match context.assign name value with
  | .ok context => context
  | .error _ => context

/-- Marks a variable as exported or constant. -/
def mark (context : Context) (name : String) (exported constant : Bool) : Context :=
  let old := (context.known? name).getD { value := none }
  context.putVariable name
    { old with exported := old.exported || exported, constant := old.constant || constant }

/-- Takes away a variable's value; one that is constant is refused. -/
def unset (context : Context) (name : String) : Except String Context :=
  match context.known? name with
  | none => .ok context
  | some v => if v.constant then .error (name ++ ": is read only") else .ok (context.dropVariable name)

/-- Opens a scope for variables. -/
def openScope (context : Context) : Context := { context with scopes := [] :: context.scopes }

/-- Makes a variable belong to the innermost scope. -/
def own (context : Context) (name : String) : Context :=
  match context.scopes with
  | [] => context
  | scope :: scopes =>
    if (scope.lookup name).isSome then context
    else { context with scopes := ((name, context.known? name) :: scope) :: scopes }

/-- Closes the innermost scope: its variables are again what they were before. -/
def closeScope (context : Context) : Context :=
  match context.scopes with
  | [] => context
  | scope :: scopes =>
    scope.foldl (fun c (name, old) => match old with
      | some v => c.putVariable name v
      | none => c.dropVariable name) { context with scopes }

/-- Variables that every shell has from its start, the last one first. -/
def firstNames : List String :=
  ["OPTIND", "PS4", "PS2", "PS1", "PATH", "MAILPATH", "MAIL", "IFS"]

/-- How many groups variables and aliases form. -/
def groupCount : Nat := 39

/-- The group in which a variable is handed to programs: variables go group by group, in each those that the
shell has from its start before the others. -/
def group (name : String) : Nat :=
  let cs := name.toList
  ((cs.head?.map Char.toNat).getD 0 * 16 + (cs.map Char.toNat).foldl (· + ·) 0) % groupCount

/-- The order in which variables are handed to programs. -/
def ordered (vars : List (String × Variable)) : List (String × Variable) :=
  let first := firstNames.filterMap fun name => (vars.lookup name).map (name, ·)
  let others := vars.filter fun entry => !firstNames.contains entry.1
  (List.range groupCount).flatMap fun n => (first ++ others).filter fun entry => group entry.1 == n

/-- The variables that a program is handed. -/
def environment (context : Context) : List (String × String) :=
  (ordered context.vars).filterMap fun (name, v) =>
    if v.exported then v.value.map (name, ·) else none

/-! ## Parameters -/

/-- The letters of options, in the order in which they are told. -/
def optionLetters : List Char :=
  ['u', 'p', 'b', 'a', 'C', 'E', 'V', 'v', 'x', 's', 'n', 'm', 'i', 'I', 'f', 'e']

/-- The characters that divide fields; the first joins them. -/
def separators (context : Context) : String := (context.value? "IFS").getD " \t\n"

/-- What joins the arguments to one text. -/
def joiner (context : Context) : String :=
  match context.value? "IFS" with
  | none => " "
  | some s => match s.toList with
    | [] => ""
    | c :: _ => c.toString

/-- The value of a parameter that is one text. -/
def parameter? (context : Context) (name : String) : Option String :=
  match name with
  | "#" => some (toString context.args.length)
  | "?" => some (toString context.status)
  | "$" => some (toString context.shellPid)
  | "!" => context.lastBackground.map toString
  | "-" => some (String.ofList (optionLetters.filter context.hasOption))
  | "0" => some context.name
  | "@" => if context.args.isEmpty then none else some (context.joiner.intercalate context.args)
  | "*" => if context.args.isEmpty then none else some (context.joiner.intercalate context.args)
  | name => match name.toNat? with
    | some n => if n = 0 then some context.name else context.args[n - 1]?
    | none => context.value? name

/-! ## Traps -/

/-- What is done about a signal, or about the end of the shell. -/
def trap? (context : Context) (signal : Nat) : Option String := context.traps.lookup signal

/-- Whether anything is to be run when a signal comes or the shell ends. -/
def hasTraps (context : Context) : Bool := context.traps.any fun t => t.2 != ""

/-- Says what is done about a signal; nothing means the usual. -/
def setTrap (context : Context) (signal : Nat) (action : Option String) : Context :=
  let others := context.traps.filter (·.1 != signal)
  { context with traps := match action with
    | some text => (signal, text) :: others
    | none => others }

/-- What a shell within a shell keeps of the traps: signals that are ignored. -/
def withoutTraps (context : Context) : Context :=
  { context with traps := context.traps.filter fun t => t.2 == "" }

/-! ## Jobs -/

/-- Adds a job; those that were waited for are forgotten. -/
def addJob (context : Context) (job : Job) : Context :=
  { context with jobs := job :: context.jobs.filter fun j => !(j.waited && j.status.isSome) }

/-- The job whose last process has a number. -/
def job? (context : Context) (pid : Nat) : Option Job := context.jobs.find? fun j => j.pids.getLast? == some pid

/-- Changes the job whose last process has a number. -/
def changeJob (context : Context) (pid : Nat) (change : Job → Job) : Context :=
  { context with jobs := context.jobs.map fun j => if j.pids.getLast? == some pid then change j else j }

end Context

/-- The search path of a shell that is given none. -/
def standardPath : String := "/usr/local/sbin:/usr/local/bin:/usr/sbin:/usr/bin:/sbin:/bin"

/-- The characters of a text in quotes that the shell reads back: single quotes stand in double ones. The fuel
bounds the number of runs. -/
def quotedRuns : Nat → List Char → List Char
  | 0, _ => []
  | fuel + 1, cs =>
    let plain := cs.takeWhile (· != '\'')
    let rest := cs.dropWhile (· != '\'')
    let marks := rest.takeWhile (· == '\'')
    let rest := rest.dropWhile (· == '\'')
    let head := '\'' :: plain ++ ['\'']
    if marks.isEmpty then head
    else head ++ '"' :: marks ++ '"' :: (if rest.isEmpty then [] else quotedRuns fuel rest)

/-- A text in single quotes, as the shell reads it back. -/
def quoted (s : String) : String := String.ofList (quotedRuns (s.length + 1) s.toList)

/-- What a shell knows at its start. -/
def Context.atStart (name : String) (args : List String) (vars : List (String × String)) (pid parent : Nat)
    (cwd : Files.Path) (cwdName : String) (mask : Nat) : Context :=
  let base : Context := {
    name, args, vars := [], functions := [], aliases := [], options := [], traps := [], status := 0
    savedStatus := none, scriptStatus := 0, shellPid := pid, parentPid := parent, lastBackground := none, jobs := []
    cwd, cwdName, mask, line := 1, running := none, loops := 0, calls := 0, scopes := [], optionOffset := none
    documents := [], nextDocument := 0, found := [] }
  let preset := [("IFS", " \t\n"), ("PATH", standardPath), ("PS1", "# "), ("PS2", "> "), ("PS4", "+ ")]
  let context := preset.foldl (fun c v => c.set v.1 v.2) base
  let context := (vars.filter fun v => isName v.1).foldl (fun c v => (c.set v.1 v.2).mark v.1 true false) context
  let fixed := [("IFS", " \t\n"), ("OPTIND", "1"), ("PPID", toString parent)]
  let context := fixed.foldl (fun c v => c.set v.1 v.2) context
  (context.set "PWD" cwdName).mark "PWD" true false

end BatchRunner.Machine.Shell
