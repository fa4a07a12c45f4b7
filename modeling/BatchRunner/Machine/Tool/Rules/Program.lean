import BatchRunner.Machine.Tool.Plain
import BatchRunner.Machine.Tool.Rules.Run
import BatchRunner.Machine.Tool.Stream

/-!
# `awk`

The program `awk` applies a script of rules to files: what its arguments say, and how the wishes of the script are
carried out.
-/

namespace BatchRunner.Machine.Tool.Rules

/-! ## Wishes -/

/-- The number for how a command ended. -/
def endNumber (status : WaitStatus) : Nat :=
  if status.isExit then status.code.toNat else 256 + status.low.toNat

/-- Makes a file empty if it is to be so, and makes it if it is not there. -/
def makeFile (call : Call) (path : String) (keep : Bool) (tree : Files.Tree) : Except Os.Errno Files.Tree :=
  let shown := Text.ofOctets path
  let old := if keep then (Files.readBytes tree call.setting.cwd shown).toOption.getD .empty else .empty
  match Files.writeBytes tree call.setting.cwd shown old with
  | .ok tree => .ok tree
  | .error (.os errno) => .error errno
  | .error _ => .error Os.Errno.noEntry

/-- Carries out a wish, and goes on with what comes of it. -/
def grant (call : Call) (wish : Wish) (next : Answer → Plan) : Plan :=
  let vars := call.setting.vars
  let ended (result : Except Os.Errno WaitStatus) : Answer := match result with
    | .ok status => .number (endNumber status)
    | .error errno => .refused errno
  match wish with
  | .openFile path => .openFile path fun
    | .ok fd => next (.number fd)
    | .error errno => next (.refused errno)
  | .makeFile path keep => .withFiles fun space _ => match makeFile call path keep space.tree with
    | .ok tree => (tree, next (.number 0))
    | .error errno => (space.tree, next (.refused errno))
  | .append path text => .withFiles fun space _ =>
    (appendTo call.setting [path] (Text.toByteArray text) space.tree, next (.number 0))
  | .read fd => .read fd Plan.blockSize fun
    | .ok block => next (.text (Text.ofByteArray block))
    | .error _ => next (.text "")
  | .write fd text => .write fd (Text.toByteArray text) fun
    | none => next (.number 0)
    | some errno => next (.refused errno)
  | .close fd => .close fd (next (.number 0))
  | .run command =>
    .run "sh" ["-c", command] vars [] fun
      | .ok (status, _) => next (.number (endNumber status))
      | .error _ => .run "/bin/sh" ["-c", command] vars [] fun result => next (ended (result.map (·.1)))
  | .start command isFed => .pipe fun reader writer =>
    let (fd, own, other) := if isFed then (0, writer, reader) else (1, reader, writer)
    .start "/bin/sh" ["-c", command] vars fd other fun result =>
      .close other (match result with
        | .ok pid => next (.started pid own)
        | .error errno => .close own (next (.refused errno)))
  | .finish pid fd => .close fd (.await pid fun result => next (ended result))

/-- How many wishes a script may have. -/
def wishLimit : Nat := 1000000

/-- Runs a script with the answers to its first wishes, the last one first. The fuel bounds the number of the others. -/
def play (call : Call) (script : Script) (start : State) : Nat → List Answer → Plan
  | 0, _ => .done 2
  | fuel + 1, answers =>
    match script.perform (lastName call.name) { start with answers := answers.reverse } with
    | .ok status _ => .done status
    | .error (.wish wish) _ => grant call wish fun answer => play call script start fuel (answer :: answers)
    | .error _ _ => .done 2

/-! ## Arguments -/

/-- What the arguments say. -/
structure Options where
  separator : Option String := none
  /-- The names that get values, with these. -/
  settings : List (String × String) := []
  /-- The files that hold the script. -/
  files : List String := []
  rest : List String := []
  deriving Inhabited

/-- Reads the options in front of the other arguments. -/
def Options.read : List String → Options → Except String Options
  | [], options => .ok options
  | "--" :: rest, options => .ok { options with rest }
  | "-" :: rest, options => .ok { options with rest := "-" :: rest }
  | arg :: rest, options =>
    match arg.toList with
    | '-' :: letter :: inner =>
      let valued (use : String → Options → Except String Options) : Except String Options :=
        if !inner.isEmpty then do read rest (← use (String.ofList inner) options)
        else match rest with
          | [] => .error ("option -" ++ letter.toString ++ " lacks argument")
          | v :: rest => do read rest (← use v options)
      if letter == 'F' then valued fun v options => .ok { options with separator := some v }
      else if letter == 'f' then valued fun v options => .ok { options with files := options.files ++ [v] }
      else if letter == 'v' then valued fun v options => match assignmentIn? v with
        | some setting => .ok { options with settings := options.settings ++ [setting] }
        | none => .error ("improper assignment: -v " ++ v)
      else if letter == 'W' then valued fun _ options => .ok options
      else .error ("not an option: " ++ arg)
    | _ => .ok { options with rest := arg :: rest }

/-- What is known when a script starts. -/
def State.atStart (call : Call) (options : Options) (operands : List String) : State :=
  let table (pairs : List (Key × String)) : Table Value :=
    pairs.foldl (fun t (key, s) => t.put key (.found s)) {}
  let args := table (((lastName call.name) :: operands).zipIdx.map fun (s, i) => (.whole (i : Nat), s))
  let vars := table (call.setting.vars.map fun (name, s) => (.text name, s))
  let given : List (String × Binding) := [
    ("FS", .value (.text " ")), ("OFS", .value (.text " ")), ("ORS", .value (.text "\n")),
    ("RS", .value (.text "\n")), ("NF", .value (.number 0)), ("NR", .value (.number 0)), ("FNR", .value (.number 0)),
    ("SUBSEP", .value (.text "\x1c")), ("CONVFMT", .value (.text "%.6g")), ("OFMT", .value (.text "%.6g")),
    ("RSTART", .value (.number 0)), ("RLENGTH", .value (.number (-1))), ("FILENAME", .value (.text "")),
    ("ARGC", .value (.number (operands.length + 1).toFloat)), ("ARGV", .table 0), ("ENVIRON", .table 1)] ++
    (options.separator.toList.map fun s => ("FS", .value (.text (unescape s)))) ++
    options.settings.map fun (name, s) => (name, .value (.found s))
  { globals := given.foldl (fun names (name, b) => names.insert name b) {}, tables := #[args, vars] }

/-- What is said where there is no script. -/
def usage : String := "Usage: awk [Options] [Program] [file ...]\n"

/-- Goes on with the texts of files that hold a script. -/
def readScripts (call : Call) (next : String → Plan) : List String → List String → Plan
  | [], done => next ("\n".intercalate done.reverse)
  | path :: paths, done => .readPath path fun
    | .error errno =>
      call.fail ("cannot open \"" ++ path ++ "\" (" ++ errno.sentence ++ ")") 2
    | .ok bytes => readScripts call next paths (Text.ofByteArray bytes :: done)

/-- Runs a script that is given as a text. -/
def runText (call : Call) (options : Options) (operands : List String) (text : String) : Plan :=
  match Script.ofText text with
  | .error misprint => misprint.messages.foldr (fun text plan => call.warn text plan) (.done 2)
  | .ok script => play call script (.atStart call options operands) wishLimit []

/-- `awk` applies a script of rules to files. -/
def awk (call : Call) : Plan :=
  let call := { call with name := lastName call.name }
  match Options.read call.args {} with
  | .error text => call.fail text 2
  | .ok options =>
    match options.files, options.rest with
    | [], [] => call.answer usage 2
    | [], text :: operands => runText call options operands text
    | files, operands => readScripts call (runText call options operands) files []

end BatchRunner.Machine.Tool.Rules
