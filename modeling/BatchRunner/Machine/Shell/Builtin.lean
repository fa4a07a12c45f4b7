import BatchRunner.Machine.Shell.Condition
import BatchRunner.Machine.Shell.Expansion
import BatchRunner.Machine.Shell.Format
import BatchRunner.Machine.Shell.Grammar
import BatchRunner.Machine.Shell.Options

/-!
# Builtin commands

The commands of the shell that only look at files and at what the shell knows. What they write to standard error
comes before what they write to standard output.
-/

namespace BatchRunner.Machine.Shell

/-- What a builtin command comes to. A fault ends the shell if the command is part of the language. -/
structure Answer where
  context : Context
  output : String := ""
  errors : String := ""
  status : Nat := 0
  isFault : Bool := false
  deriving Inhabited

namespace Answer

/-- Nothing but a status. -/
def silent (context : Context) (status : Nat) : Answer := { context, status }

/-- A fault with what the shell says of it. -/
def fault (context : Context) (text : String) : Answer :=
  { context, errors := context.complaint text, status := 2, isFault := true }

/-- The answer of a computation, or the fault that it met. -/
def ofExcept (context : Context) : Except String Answer → Answer
  | .ok answer => answer
  | .error text => fault context text

end Answer

/-- The number that an argument writes. -/
def number (s : String) : Except String Nat :=
  let n := Text.numeral 10 (s.toList.filterMap Text.digitValue?)
  if s != "" && s.toList.all Char.isDigit && n ≤ 2147483647 then .ok n else .error ("Illegal number: " ++ s)

/-- The options in front of the arguments of a builtin command; a letter with a colon behind it has a value. The
fuel bounds their number. -/
def optionsOf (known : List Char) : Nat → List String → List (Char × String) →
    Except String (List (Char × String) × List String)
  | 0, args, done => .ok (done, args)
  | fuel + 1, args, done =>
    match args with
    | [] => .ok (done, [])
    | a :: rest => match a.toList with
      | ['-'] => .ok (done, args)
      | ['-', '-'] => .ok (done, rest)
      | '-' :: c :: cs =>
        if c == ':' || !known.contains c then .error ("Illegal option -" ++ c.toString)
        else if (known.dropWhile (· != c)).drop 1 |>.head? |> (· == some ':') then
          match cs, rest with
          | _ :: _, rest => optionsOf known fuel rest (done ++ [(c, String.ofList cs)])
          | [], v :: rest => optionsOf known fuel rest (done ++ [(c, v)])
          | [], [] => .error ("No arg for -" ++ c.toString ++ " option")
        else if cs.isEmpty then optionsOf known fuel rest (done ++ [(c, "")])
        else optionsOf known fuel (String.ofList ('-' :: cs) :: rest) (done ++ [(c, "")])
      | _ => .ok (done, args)

/-- The options in front of the arguments of a builtin command. -/
def options (known : String) (args : List String) : Except String (List (Char × String) × List String) :=
  optionsOf known.toList ((args.map fun a => a.length + 1).foldl (· + ·) 1) args []

/-! ## Signals -/

/-- The name of a signal, or of the end of the shell. -/
def signalName (n : Nat) : String :=
  if n = 0 then "EXIT"
  else if n = 16 then "16"
  else match Os.signalTable.lookup n with
    | some (name, _) => name
    | none =>
      if n = 34 then "RTMIN"
      else if n = 64 then "RTMAX"
      else if 34 < n ∧ n < 50 then "RTMIN+" ++ toString (n - 34)
      else if 50 ≤ n ∧ n < 64 then "RTMAX-" ++ toString (64 - n)
      else toString n

/-- The greatest number of a signal. -/
def lastSignal : Nat := 64

/-- The signal that a number or a name stands for, in either case of its letters. -/
def signal? (least : Nat) (s : String) : Option Nat :=
  match (number s).toOption with
  | some n => if n ≤ lastSignal then some n else none
  | none => ((List.range (lastSignal + 1)).drop least).find? fun n => signalName n == s.toUpper

/-! ## Looking up commands -/

/-- The builtin commands that are not part of the language. -/
def plainBuiltins : List String := [
  "alias", "bg", "cd", "chdir", "command", "echo", "false", "fg", "getopts", "hash", "jobs", "kill", "printf",
  "pwd", "read", "test", "[", "true", "type", "ulimit", "umask", "unalias", "wait"]

/-- What a program cannot be run for. -/
def cannotRun (errno : Os.Errno) : String :=
  if errno = Os.Errno.noEntry ∨ errno = Os.Errno.notDirectory then "not found" else errno.sentence

/-- Looks for a program in the directories of a search path. The fault that is told is the last that is not just
the lack of the program. -/
def findIn (tree : Files.Tree) (cwd : Files.Path) (name : String) : List String → Os.Errno → Except Os.Errno String
  | [], fault => .error fault
  | directory :: directories, fault =>
    let path := if directory == "" then name else Files.join directory name
    match Files.find tree cwd (Text.ofOctets path) with
    | .ok entry =>
      if entry.isExecutable then .ok path else findIn tree cwd name directories Os.Errno.accessDenied
    | .error errno =>
      findIn tree cwd name directories
        (if errno = Os.Errno.noEntry ∨ errno = Os.Errno.notDirectory then fault else errno)

/-- The path of a program by its name, as the shell looks for it. -/
def programPath (tree : Files.Tree) (context : Context) (searchPath name : String) : Except Os.Errno String :=
  if name.toList.contains '/' then .ok name
  else findIn tree context.cwd name (searchPath.splitOn ":") Os.Errno.noEntry

/-- The search path of a shell. -/
def Context.searchPath (context : Context) : String := (context.value? "PATH").getD ""

/-- A shell that remembers where a program was found by its name. -/
def Context.remember (context : Context) (name path : String) : Context :=
  if name.toList.contains '/' || (context.found.lookup name).isSome then context
  else { context with found := context.found ++ [(name, path)] }

/-- A shell that remembers where it has looked for the program with a name, unless the name is that of something
else. -/
def Context.lookFor (tree : Files.Tree) (context : Context) (name : String) : Context :=
  let isOther := keywords.contains name || (context.aliases.lookup name).isSome ||
    (context.functions.lookup name).isSome || specialBuiltins.contains name || plainBuiltins.contains name
  match if isOther then .error Os.Errno.noEntry else programPath tree context context.searchPath name with
  | .ok path => context.remember name path
  | .error _ => context

/-- What the shell knows a command as, and whether it knows it. -/
def describe (tree : Files.Tree) (context : Context) (searchPath : String) (verbose : Bool) (name : String) :
    String × Bool :=
  let line (long short : String) : String × Bool := ((if verbose then name ++ long else short) ++ "\n", true)
  if keywords.contains name then line " is a shell keyword" name
  else match context.aliases.lookup name with
    | some value => line (" is an alias for " ++ value) ("alias " ++ name ++ "=" ++ quoted value)
    | none =>
      if specialBuiltins.contains name then line " is a special shell builtin" name
      else if (context.functions.lookup name).isSome then line " is a shell function" name
      else if plainBuiltins.contains name then line " is a shell builtin" name
      else
        let path := if name.toList.contains '/' then
            (if Files.pathExists tree context.cwd (Text.ofOctets name) then some name else none)
          else (programPath tree context searchPath name).toOption
        match path with
        | some path =>
          let tracked := if (context.found.lookup name).isSome then " is a tracked alias for " else " is "
          line (tracked ++ path) path
        | none => (if verbose then name ++ ": not found\n" else "", false)

/-! ## Variables -/

/-- The order of variables by name. -/
def byName (a b : String × Variable) : Bool := a.1 ≤ b.1

/-- Shows variables as commands that would set them. -/
def showVariables (before : String) (vars : List (String × Variable)) : String :=
  String.join ((vars.mergeSort byName).map fun (name, v) => match v.value with
    | some value => before ++ name ++ "=" ++ quoted value ++ "\n"
    | none => before ++ name ++ "\n")

/-- A name with the value behind an equals sign, if there is one. -/
def nameAndValue (s : String) : String × Option String :=
  let name := s.toList.takeWhile (· != '=')
  match s.toList.drop name.length with
  | [] => (s, none)
  | _ :: value => (String.ofList name, some (String.ofList value))

/-- Marks variables, and sets those that have a value behind their name. -/
def markAll (exported constant : Bool) : List String → Context → Except String Context
  | [], context => .ok context
  | a :: rest, context => do
    let (name, value) := nameAndValue a
    if !isName name then throw (name ++ ": bad variable name")
    let context ← match value with
      | some value => context.assign name value
      | none => pure context
    markAll exported constant rest (context.mark name exported constant)

/-- `export` and `readonly`. -/
def marking (context : Context) (name : String) (args : List String) : Answer :=
  let exported := name == "export"
  .ofExcept context do
    let (found, rest) ← options "p" args
    if rest.isEmpty || !found.isEmpty then
      let vars := context.vars.filter fun v => if exported then v.2.exported else v.2.constant
      return { context, output := showVariables (name ++ " ") vars }
    else return .silent (← markAll exported (!exported) rest context) 0

/-- `local`. -/
def makeLocal : List String → Context → Except String Context
  | [], context => .ok context
  | a :: rest, context => do
    let (name, value) := nameAndValue a
    if !isName name then throw (name ++ ": bad variable name")
    let context := context.own name
    match value with
    | some value => makeLocal rest (← context.assign name value)
    | none => makeLocal rest context

/-- Takes variables away, or functions. -/
def unsetAll (functions : Bool) : List String → Context → Except String Context
  | [], context => .ok context
  | name :: rest, context =>
    if functions then
      unsetAll functions rest { context with functions := context.functions.filter (·.1 != name) }
    else do
      if !isName name then throw (name ++ ": bad variable name")
      unsetAll functions rest (← context.unset name)

/-! ## Options, arguments and traps -/

/-- The names of options with their states. -/
def showOptions (context : Context) : String :=
  "Current option settings\n" ++ String.join (optionNames.map fun (name, letter) =>
    name ++ String.ofList (List.replicate (16 - name.length) ' ') ++
      (if context.hasOption letter then "on" else "off") ++ "\n")

/-- The commands that would set the options. -/
def optionCommands (context : Context) : String :=
  String.join (optionNames.map fun (name, letter) =>
    "set " ++ (if context.hasOption letter then "-o " else "+o ") ++ name ++ "\n")

/-- `set`. -/
def setCommand (context : Context) (args : List String) : Answer :=
  if args.isEmpty then { context, output := showVariables "" (context.vars.filter (·.2.value.isSome)) }
  else .ofExcept context do
    let call ← readOptions false (args.length + 1) { options := context.options } args
    let changed := { context with options := call.options }
    let context := if call.ended || !call.rest.isEmpty then
        { changed with args := call.rest, optionOffset := none } else changed
    let output := match call.asksNames with
      | some true => showOptions context
      | some false => optionCommands context
      | none => ""
    return { context, output }

/-- `shift`. -/
def shift (context : Context) (args : List String) : Answer :=
  .ofExcept context do
    let n ← match args with
      | [] => pure 1
      | a :: _ => number a
    if context.args.length < n then throw "can't shift that many"
    return .silent { context with args := context.args.drop n, optionOffset := none } 0

/-- Sets traps for signals; one that is not known ends it. -/
def setTraps (action : Option String) : List String → Context → Answer
  | [], context => .silent context 0
  | s :: rest, context => match signal? 0 s with
    | none => { context, errors := "trap: " ++ s ++ ": bad trap\n", status := 1 }
    | some n => setTraps action rest (context.setTrap n action)

/-- `trap`. -/
def trap (context : Context) (args : List String) : Answer :=
  .ofExcept context do
    let (_, args) ← options "" args
    match args with
    | [] =>
      let lines := (List.range (lastSignal + 1)).filterMap fun n =>
        (context.trap? n).map fun action => "trap -- " ++ quoted action ++ " " ++ signalName n ++ "\n"
      return { context, output := String.join lines }
    | [s] => return setTraps none [s] context
    | first :: rest =>
      if ((number first).toOption.filter (· ≤ lastSignal)).isSome then return setTraps none args context
      else return setTraps (if first = "-" then none else some first) rest context

/-! ## The working directory -/

/-- The names of a path with those taken away that lead up. -/
def normalNames : List String → List String → List String
  | done, [] => done.reverse
  | done, ".." :: rest => normalNames done.tail rest
  | done, name :: rest => normalNames (if name = "." then done else name :: done) rest

/-- `cd`. -/
def changeDirectory (tree : Files.Tree) (context : Context) (args : List String) : Answer :=
  .ofExcept context do
    let (found, args) ← options "LP" args
    let physical := (found.getLast?.map (·.1)) == some 'P'
    let (target, told) := match args with
      | [] => ((context.value? "HOME").getD "", false)
      | "-" :: _ => ((context.value? "OLDPWD").getD "", true)
      | a :: _ => (a, false)
    let attempt (target : String) : Option (Files.Path × String) :=
      let full := if target.startsWith "/" then target else context.cwdName ++ "/" ++ target
      -- Two slashes at the front, and no more, are kept.
      let root := if full.startsWith "//" && !full.startsWith "///" then "//" else "/"
      let name := root ++ "/".intercalate (normalNames [] (Files.names full))
      let path := if physical then target else name
      match Files.resolve tree context.cwd (Text.ofOctets path) with
      | .ok place =>
        if tree.isDirectory place then
          some (place, if physical then Text.octets (Files.render place) else name)
        else none
      | .error _ => none
    let isPlain := target.startsWith "/" || target.startsWith "./" || target.startsWith "../" ||
      target == "." || target == ".."
    let target := if target == "" then "." else target
    let directories := if isPlain then [""] else ((context.value? "CDPATH").getD "").splitOn ":" ++ [""]
    let tries := directories.filterMap fun d =>
      (attempt (if d == "" then target else Files.join d target)).map fun hit => (d, hit)
    match tries.head? with
    | none => throw ("can't cd to " ++ target)
    | some (directory, place, name) =>
      let old := context.cwdName
      let context := { context with cwd := place, cwdName := name }
      let context := (context.set "OLDPWD" old).mark "OLDPWD" true false
      let context := (context.set "PWD" name).mark "PWD" true false
      return { context, output := if told || directory != "" then name ++ "\n" else "" }

/-- `pwd`. -/
def workingDirectory (context : Context) (args : List String) : Answer :=
  .ofExcept context do
    let (found, _) ← options "LP" args
    let physical := (found.getLast?.map (·.1)) == some 'P'
    return { context, output :=
      (if physical then Text.octets (Files.render context.cwd) else context.cwdName) ++ "\n" }

/-! ## Permissions -/

/-- A number in octal digits, so many at least. -/
def octalText (width n : Nat) : String :=
  let digits := Nat.toDigits 8 n
  String.ofList (List.replicate (width - digits.length) '0' ++ digits)

/-- Permissions as the letters of those that may read, write and run. -/
def permissionLetters (n : Nat) : String :=
  (if n &&& 4 != 0 then "r" else "") ++ (if n &&& 2 != 0 then "w" else "") ++ (if n &&& 1 != 0 then "x" else "")

/-- The bits that letters stand for. -/
def permissionBits (letters : List Char) (current : Nat) : Nat :=
  letters.foldl (fun n c => n ||| match c with
    | 'r' => 0o444
    | 'w' => 0o222
    | 'x' => 0o111
    | 'X' => if current &&& 0o111 != 0 then 0o111 else 0
    | 's' => 0o6000
    | 't' => 0o1000
    | _ => 0) 0

/-- The bits that a class of users has, for all classes. -/
def copiedBits (letters : List Char) (current : Nat) : Nat :=
  match letters with
  | ['u'] => current / 64 % 8 * 0o111
  | ['g'] => current / 8 % 8 * 0o111
  | ['o'] => current % 8 * 0o111
  | _ => 0

/-- The bits that belong to classes of users. -/
def classBits (letters : List Char) : Nat :=
  if letters.isEmpty || letters.contains 'a' then 0o7777
  else letters.foldl (fun n c => n ||| match c with
    | 'u' => 0o4700
    | 'g' => 0o2070
    | _ => 0o1007) 0

/-- Changes permissions by one clause of letters and signs. The fuel bounds the number of signs. -/
def applyClause (classes : Nat) : Nat → List Char → Nat → Option Nat
  | 0, _, mode => some mode
  | _ + 1, [], mode => some mode
  | fuel + 1, sign :: rest, mode =>
    let letters := match rest with
      | c :: _ => if "ugo".toList.contains c then [c] else rest.takeWhile fun c => "rwxXst".toList.contains c
      | [] => []
    let bits := (permissionBits letters mode ||| copiedBits letters mode) &&& classes
    let others := 0o7777 ^^^ classes
    let behind := rest.drop letters.length
    match sign with
    | '+' => applyClause classes fuel behind (mode ||| bits)
    | '-' => applyClause classes fuel behind (mode &&& (0o7777 ^^^ bits))
    | '=' => applyClause classes fuel behind ((mode &&& others) ||| bits)
    | _ => none

/-- Changes permissions by clauses. -/
def applySymbolic (s : String) (mode : Nat) : Option Nat :=
  (s.splitOn ",").foldl (fun mode clause => mode.bind fun mode =>
    let letters := clause.toList.takeWhile fun c => "ugoa".toList.contains c
    let rest := clause.toList.drop letters.length
    if rest.isEmpty then none else applyClause (classBits letters) (rest.length + 1) rest mode) (some mode)

/-- `umask`. -/
def changeMask (context : Context) (args : List String) : Answer :=
  .ofExcept context do
    let (found, args) ← options "S" args
    match args with
    | [] =>
      if found.isEmpty then return { context, output := octalText 4 context.mask ++ "\n" }
      else
        let granted := 0o777 ^^^ (context.mask &&& 0o777)
        return { context, output := "u=" ++ permissionLetters (granted / 64) ++ ",g=" ++
          permissionLetters (granted / 8 % 8) ++ ",o=" ++ permissionLetters (granted % 8) ++ "\n" }
    | a :: _ =>
      if (a.toList.head?.map Char.isDigit).getD false then
        let digits := a.toList.filterMap Format.octalValue?
        if digits.length < a.length then throw ("Illegal number: " ++ a)
        return .silent { context with mask := Text.numeral 8 digits &&& 0o777 } 0
      else match applySymbolic a (0o777 ^^^ context.mask) with
        | some mode => return .silent { context with mask := 0o777 ^^^ (mode &&& 0o777) } 0
        | none => throw ("Illegal mode: " ++ a)

/-! ## Options of a script -/

/-- `getopts`. -/
def getopts (context : Context) (args : List String) : Answer :=
  match args with
  | known :: name :: given =>
    let words := if given.isEmpty then context.args else given
    let index := ((context.value? "OPTIND").bind fun v => (number v).toOption).getD 1
    let index := if index = 0 ∨ words.length + 1 < index then 1 else index
    let quiet := known.startsWith ":"
    let inside : List Char := match context.optionOffset with
      | some off => if 1 < index then ((words[index - 2]?).getD "").toList.drop off else []
      | none => []
    let finish (context : Context) (index : Nat) (offset : Option Nat) (shown : String) (errors : String)
        (status : Nat) : Answer :=
      .ofExcept context do
        let context ← context.assign "OPTIND" (toString index)
        let context ← context.assign name shown
        return { context := { context with optionOffset := offset }, errors, status }
    let start : Option (List Char × Nat) :=
      if !inside.isEmpty then some (inside, index)
      else match words[index - 1]? with
        | some w => match w.toList with
          | '-' :: c :: cs => some (c :: cs, index + 1)
          | _ => none
        | none => none
    match start with
    | none => finish context index none "?" "" 1
    | some (['-'], next) => finish context next none "?" "" 1
    | some ([], _) => finish context index none "?" "" 1
    | some (c :: cs, next) =>
      let length := ((words[next - 2]?).getD "").length
      let offset := if cs.isEmpty then none else some (length - cs.length)
      let letters := if quiet then known.toList.drop 1 else known.toList
      let one (value : String) : Context := context.set "OPTARG" value
      if c == ':' || !letters.contains c then
        if quiet then finish (one c.toString) next offset "?" "" 0
        else finish (context.dropVariable "OPTARG") next offset "?" ("Illegal option -" ++ c.toString ++ "\n") 0
      else if ((letters.dropWhile (· != c)).drop 1).head? == some ':' then
        if !cs.isEmpty then finish (one (String.ofList cs)) next none c.toString "" 0
        else match words[next - 1]? with
          | some value => finish (one value) (next + 1) none c.toString "" 0
          | none =>
            if quiet then finish (one c.toString) next none ":" "" 0
            else finish (context.dropVariable "OPTARG") next none "?"
              ("No arg for -" ++ c.toString ++ " option\n") 0
      else finish (one "") next offset c.toString "" 0
  | _ => .fault context "Usage: getopts optstring var [arg...]"

/-! ## Aliases and names of programs -/

/-- `alias`. -/
def aliasCommand (context : Context) (args : List String) : Answer :=
  let shown (entry : String × String) : String := entry.1 ++ "=" ++ quoted entry.2 ++ "\n"
  let ordered := (List.range Context.groupCount).flatMap fun n =>
    context.aliases.filter fun entry => Context.group entry.1 == n
  if args.isEmpty then { context, output := String.join (ordered.map shown) }
  else args.foldl (fun (answer : Answer) a =>
    match nameAndValue a with
    | (name, some value) =>
      let old := answer.context.aliases
      let aliases := if (old.lookup name).isSome then
          old.map fun entry => if entry.1 == name then (name, value) else entry
        else old ++ [(name, value)]
      { answer with context := { answer.context with aliases } }
    | (name, none) => match answer.context.aliases.lookup name with
      | some value => { answer with output := answer.output ++ shown (name, value) }
      | none => { answer with errors := answer.errors ++ "alias: " ++ name ++ " not found\n", status := 1 })
    (.silent context 0)

/-- `unalias`. -/
def unalias (context : Context) (args : List String) : Answer :=
  .ofExcept context do
    let (found, names) ← options "a" args
    if !found.isEmpty then return .silent { context with aliases := [] } 0
    let missing := names.filter fun n => (context.aliases.lookup n).isNone
    return {
      context := { context with aliases := context.aliases.filter fun a => !names.contains a.1 }
      errors := String.join (missing.map fun n => "unalias: " ++ n ++ " not found\n")
      status := if missing.isEmpty then 0 else 1 }

/-- How many groups the programs form that were found by name. -/
def foundGroupCount : Nat := 31

/-- The programs that were found by name, group by group. -/
def foundInOrder (context : Context) : List (String × String) :=
  let group (name : String) : Nat :=
    let cs := name.toList
    (((cs.head?.map Char.toNat).getD 0 * 16 + (cs.map Char.toNat).foldl (· + ·) 0) &&& 0x7FFF) % foundGroupCount
  (List.range foundGroupCount).flatMap fun n => context.found.filter fun f => group f.1 == n

/-- `hash`. -/
def hash (tree : Files.Tree) (context : Context) (args : List String) : Answer :=
  .ofExcept context do
    let (found, names) ← options "rv" args
    if found.any (·.1 == 'r') then return .silent { context with found := [] } 0
    if names.isEmpty then
      return { context, output := String.join ((foundInOrder context).map fun f => f.2 ++ "\n") }
    return names.foldl (fun (answer : Answer) name =>
      match programPath tree context context.searchPath name with
      | .ok path => { answer with context := answer.context.remember name path }
      | .error errno =>
        { answer with errors := answer.errors ++ context.complaint (name ++ ": " ++ cannotRun errno), status := 1 })
      (.silent context 0)

/-- `type`. -/
def typeCommand (tree : Files.Tree) (context : Context) (args : List String) : Answer :=
  args.foldl (fun (answer : Answer) name =>
    let (text, isKnown) := describe tree answer.context context.searchPath true name
    { answer with
      context := answer.context.lookFor tree name
      output := answer.output ++ text
      status := if isKnown then answer.status else 127 }) (.silent context 0)

/-! ## Output -/

/-- What is said of an argument that `printf` cannot use. -/
def formatFault : Format.Fault → String
  | .notNumeric text => text ++ ": expected numeric value"
  | .notComplete text => text ++ ": not completely converted"
  | .outOfRange text => text ++ ": Numerical result out of range"
  | .invalidDirective directive => directive ++ ": invalid directive"
  | .missingCharacter => "missing format character"

/-- `printf`. -/
def printf (context : Context) (args : List String) : Answer :=
  .ofExcept context do
    let (_, args) ← options "" args
    match args with
    | [] => throw "usage: printf format [arg ...]"
    | format :: rest =>
      return (Format.format false format rest).1.foldl (fun (answer : Answer) piece =>
        match piece with
        | .text cs => { answer with output := answer.output ++ String.ofList cs }
        | .fault fault =>
          let answer := { answer with errors := answer.errors ++ context.complaint (formatFault fault) }
          match fault with
          | .invalidDirective _ => { answer with status := 2, isFault := true }
          | .missingCharacter => { answer with status := 2, isFault := true }
          | _ => { answer with status := 1 }) (.silent context 0)

/-- `test` and its other name. -/
def test (tree : Files.Tree) (context : Context) (isBracket : Bool) (args : List String) : Answer :=
  if isBracket && !(args.getLast?.any (·.startsWith "]")) then .fault context "missing ]"
  else
    let words := if isBracket then args.dropLast else args
    match Condition.decideBuiltin tree context.cwd (words.length + 1) words with
    | .ok b => .silent context (Condition.status b)
    | .error cause => .fault context cause.text

/-- The answer of a builtin command; nothing if there is none of that name, or if it is one that does more than to
look at files and at what the shell knows. -/
def builtin? (tree : Files.Tree) (context : Context) (name : String) (args : List String) : Option Answer :=
  match name with
  | ":" => some (.silent context 0)
  | "true" => some (.silent context 0)
  | "false" => some (.silent context 1)
  | "echo" => some { context, output := Format.echo args }
  | "printf" => some (printf context args)
  | "test" => some (test tree context false args)
  | "[" => some (test tree context true args)
  | "cd" => some (changeDirectory tree context args)
  | "chdir" => some (changeDirectory tree context args)
  | "pwd" => some (workingDirectory context args)
  | "export" => some (marking context name args)
  | "readonly" => some (marking context name args)
  | "local" =>
    some (if context.calls = 0 then .fault context "not in a function"
      else .ofExcept context ((makeLocal args context).map (.silent · 0)))
  | "unset" => some (.ofExcept context do
      let (found, names) ← options "vf" args
      return .silent (← unsetAll ((found.getLast?.map (·.1)) == some 'f') names context) 0)
  | "set" => some (setCommand context args)
  | "shift" => some (shift context args)
  | "trap" => some (trap context args)
  | "umask" => some (changeMask context args)
  | "getopts" => some (getopts context args)
  | "alias" => some (aliasCommand context args)
  | "unalias" => some (unalias context args)
  | "hash" => some (hash tree context args)
  | "type" => some (typeCommand tree context args)
  | "ulimit" => some (.ofExcept context do
      let _ ← options "HSatfdscmlpnvwr" args
      return { context, output := "unlimited\n" })
  | "times" => some { context, output := "0m0.000000s 0m0.000000s\n0m0.000000s 0m0.000000s\n" }
  | "fg" => some (.fault context "No current job")
  | "bg" => some (.fault context "No current job")
  | _ => none

end BatchRunner.Machine.Shell
