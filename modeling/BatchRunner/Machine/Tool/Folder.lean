import BatchRunner.Machine.Shell.Builtin
import BatchRunner.Machine.Tool.Plain

/-!
# Programs for directories

`touch`, `mkdir`, `rmdir`, `rm`, `cp`, `mv`, `ln`, `chmod`, `readlink`, `realpath`, `stat` and `truncate`: they change
what is where, or tell of it. What they complain about comes before what they write.
-/

namespace BatchRunner.Machine.Tool

/-! ## Changes to files -/

/-- What changes to files have come to: the files, the texts to write, and what there is to complain about; of both,
the last comes first. -/
structure Outcome where
  tree : Files.Tree
  said : List String := []
  warned : List String := []
  deriving Inhabited

namespace Outcome

/-- Adds a line to write. -/
def say (o : Outcome) (line : String) : Outcome := { o with said := (line ++ "\n") :: o.said }

/-- Adds a complaint. -/
def warn (o : Outcome) (text : String) : Outcome := { o with warned := text :: o.warned }

/-- Adds a line to write if it is wished. -/
def sayIf (o : Outcome) (wished : Bool) (line : String) : Outcome := if wished then o.say line else o

end Outcome

/-- Changes files; the program fails if there is anything to complain about. -/
def Call.change (call : Call) (act : Workspace → Nat → Outcome) : Plan :=
  .withFiles fun space mask =>
    let o := act space mask
    let status := if o.warned.isEmpty then 0 else 1
    (o.tree, o.warned.reverse.foldr (fun text plan => call.warn text plan)
      (call.answer (String.join o.said.reverse) status))

/-- Changes files for one operand after the other. -/
def Call.changeEach (call : Call) (operands : List String)
    (act : Files.Path → Nat → Outcome → String → Outcome) : Plan :=
  call.change fun space mask => operands.foldl (act space.cwd mask) { tree := space.tree }

/-- The sentence for a fault. -/
def faultSentence : Os.Fault → String
  | .os errno => errno.sentence
  | other => other.message

/-- What is at a path, behind links. -/
def entryAt (tree : Files.Tree) (cwd : Files.Path) (path : String) : Except Os.Errno Files.Entry :=
  Files.find tree cwd (Text.ofOctets path)

/-- The place of a path, not behind a link at its end, and what is there. -/
def placeAt (tree : Files.Tree) (cwd : Files.Path) (path : String) : Except Os.Errno (Files.Path × Option Files.Entry) := do
  let shown := Text.ofOctets path
  let place ← Files.locate tree (Files.demandsDirectory shown) cwd shown
  let entry := tree.at? place
  if Files.demandsDirectory shown && entry.any (!·.isDirectory) then throw Os.Errno.notDirectory
  if entry.isNone && !tree.isDirectory place.dropLast then
    throw (if (tree.at? place.dropLast).isSome then Os.Errno.notDirectory else Os.Errno.noEntry)
  return (place, entry)

/-- The permissions of something. -/
def modeOf : Files.Entry → Nat
  | .file mode _ => mode
  | .link _ => 0o777
  | .device _ => 0o666
  | _ => 0o755

/-- The mode that an argument asks for. -/
def modeFrom (s : String) (isDirectory : Bool) (mask old : Nat) : Option Nat :=
  let digits := s.toList.filterMap Shell.Format.octalValue?
  if s != "" && digits.length = s.length then
    let n := Text.numeral 8 digits
    if 0o7777 < n then none else some n
  else (s.splitOn ",").foldl (fun mode clause => mode.bind fun mode =>
    let letters := clause.toList.takeWhile fun c => "ugoa".toList.contains c
    let rest := clause.toList.drop letters.length
    if rest.isEmpty then none
    else
      let classes := Shell.classBits letters
      let classes := if letters.isEmpty then classes &&& (0o7777 ^^^ mask) else classes
      Shell.applyClause classes (rest.length + 1) rest (if isDirectory then mode ||| 0o111 else mode)) (some old)

/-! ## Making -/

/-- `touch` makes files that are not there. -/
def touch (call : Call) : Plan :=
  call.read { flags := "acfhm", valued := "drt", long := [("no-create", 'c'), ("date", 'd'), ("reference", 'r')] } 1
    fun said =>
  if said.operands.isEmpty then call.misuse "missing file operand" 1
  else call.changeEach said.operands fun cwd mask o path =>
    if path == "-" then o
    else match entryAt o.tree cwd path with
      | .ok _ => o
      | .error errno =>
        if said.has 'c' && errno = Os.Errno.noEntry then o
        else match Files.writeBytes o.tree cwd (Text.ofOctets path) .empty with
          | .error fault =>
            let sentence := if fault == .os Os.Errno.isDirectory then Os.Errno.noEntry.sentence
              else faultSentence fault
            o.warn ("cannot touch " ++ quote path ++ ": " ++ sentence)
          | .ok tree => match Files.resolve tree cwd (Text.ofOctets path) with
            | .ok place => { o with tree := tree.put place (.file (0o666 &&& (0o777 ^^^ mask)) .empty) }
            | .error _ => { o with tree }

/-- Makes a directory; whether it was not there before. -/
def makeDirectory (tree : Files.Tree) (cwd : Files.Path) (path : String) : Except Os.Errno Files.Tree := do
  let place ← Files.locate tree false cwd (Text.ofOctets path)
  if (tree.at? place).isSome then throw Os.Errno.fileExists
  if !tree.isDirectory place.dropLast then
    throw (if (tree.at? place.dropLast).isSome then Os.Errno.notDirectory else Os.Errno.noEntry)
  return tree.put place .directory

/-- The paths on the way to a path, the shortest first. -/
def waysTo (path : String) : List String :=
  let names := Files.names path
  let root := if path.startsWith "/" then "/" else ""
  (List.range names.length).map fun i => root ++ "/".intercalate (names.take (i + 1))

/-- `mkdir` makes directories. -/
def mkdir (call : Call) : Plan :=
  call.read { flags := "pvZ", valued := "m", long := [("parents", 'p'), ("verbose", 'v'), ("mode", 'm')] } 1 fun said =>
  let badMode := (said.value? 'm').bind fun m => if (modeFrom m true 0 0o777).isSome then none else some m
  if said.operands.isEmpty then call.misuse "missing operand" 1
  else match badMode with
    | some m => call.fail ("invalid mode " ++ quote m) 1
    | none => call.changeEach said.operands fun cwd _ o path =>
      let make (o : Outcome) (path : String) : Outcome := match makeDirectory o.tree cwd path with
        | .ok tree => { o with tree }.sayIf (said.has 'v') (call.name ++ ": created directory " ++ quote path)
        | .error errno => o.warn ("cannot create directory " ++ quote path ++ ": " ++ errno.sentence)
      if !said.has 'p' then make o path
      else
        let ways := waysTo path
        let count := o.warned.length
        ways.zipIdx.foldl (fun o (way, i) =>
          if count < o.warned.length then o
          else match entryAt o.tree cwd way with
            | .ok .directory => o
            | .ok _ =>
              let errno := if i + 1 < ways.length then Os.Errno.notDirectory else Os.Errno.fileExists
              o.warn ("cannot create directory " ++ quote way ++ ": " ++ errno.sentence)
            | .error _ => make o way) o

/-! ## Taking away -/

/-- Takes away an empty directory. -/
def removeDirectory (tree : Files.Tree) (cwd : Files.Path) (path : String) : Except Os.Errno Files.Tree := do
  match ← placeAt tree cwd path with
  | (_, none) => throw Os.Errno.noEntry
  | (place, some .directory) =>
    if !(tree.children place).isEmpty then throw Os.Errno.directoryNotEmpty
    if place.isEmpty then throw Os.Errno.directoryNotEmpty
    return tree.erase place
  | _ => throw Os.Errno.notDirectory

/-- `rmdir` takes away empty directories. -/
def rmdir (call : Call) : Plan :=
  call.read { flags := "pv", long := [("parents", 'p'), ("verbose", 'v'), ("ignore-fail-on-non-empty", 'i')] } 1
    fun said =>
  if said.operands.isEmpty then call.misuse "missing operand" 1
  else call.changeEach said.operands fun cwd _ o path =>
    let paths := if said.has 'p' then (waysTo path).reverse else [path]
    let count := o.warned.length
    paths.foldl (fun o path =>
      if count < o.warned.length then o
      else match removeDirectory o.tree cwd path with
        | .ok tree => { o with tree }.sayIf (said.has 'v') (call.name ++ ": removing directory, " ++ quote path)
        | .error errno =>
          if said.has 'i' && errno = Os.Errno.directoryNotEmpty then o
          else o.warn ("failed to remove " ++ quote path ++ ": " ++ errno.sentence)) o

/-- Takes away everything below a directory and the directory itself. The fuel bounds the depth. -/
def removeAll (verbose : Bool) : Nat → Files.Path → String → Outcome → Outcome
  | 0, _, _, o => o
  | depth + 1, place, path, o => match o.tree.at? place with
    | some .directory =>
      let o := (o.tree.children place).foldl (fun o (name, _) =>
        removeAll verbose depth (place ++ [name]) (Files.join path (Text.octets name)) o) o
      { o with tree := o.tree.erase place }.sayIf verbose ("removed directory " ++ quote path)
    | some _ => { o with tree := o.tree.erase place }.sayIf verbose ("removed " ++ quote path)
    | none => o

/-- How deep directories are that are taken away or copied. -/
def depthLimit : Nat := 4096

/-- `rm` takes away files and, if asked to, directories. -/
def rm (call : Call) : Plan :=
  call.read { flags := "dfirRvI", long := [("recursive", 'r'), ("force", 'f'), ("verbose", 'v'), ("dir", 'd')] } 1
    fun said =>
  let deep := said.has 'r' || said.has 'R'
  if said.operands.isEmpty then (if said.has 'f' then .done 0 else call.misuse "missing operand" 1)
  else call.changeEach said.operands fun cwd _ o path =>
    let refuse (errno : Os.Errno) : Outcome :=
      o.warn ("cannot remove " ++ quote path ++ ": " ++ errno.sentence)
    let last := lastName path
    if deep && (last == "." || last == "..") then
      o.warn ("refusing to remove '.' or '..' directory: skipping " ++ quote path)
    else match placeAt o.tree cwd path with
      | .error errno =>
        if said.has 'f' && (errno = Os.Errno.noEntry || errno = Os.Errno.notDirectory) then o else refuse errno
      | .ok (_, none) => if said.has 'f' then o else refuse Os.Errno.noEntry
      | .ok ([], _) =>
        if deep then (o.warn "it is dangerous to operate recursively on '/'").warn
          "use --no-preserve-root to override this failsafe"
        else refuse Os.Errno.isDirectory
      | .ok (place, some .directory) =>
        if deep then removeAll (said.has 'v') depthLimit place path o
        else if said.has 'd' then
          if (o.tree.children place).isEmpty then removeAll (said.has 'v') 1 place path o
          else refuse Os.Errno.directoryNotEmpty
        else refuse Os.Errno.isDirectory
      | .ok (place, some _) =>
        { o with tree := o.tree.erase place }.sayIf (said.has 'v') ("removed " ++ quote path)

/-- `unlink` takes away one file. -/
def unlink (call : Call) : Plan :=
  match call.args with
  | [] => call.misuse "missing operand" 1
  | [path] => call.changeEach [path] fun cwd _ o path =>
    let refuse (errno : Os.Errno) : Outcome :=
      o.warn ("cannot unlink " ++ quote path ++ ": " ++ errno.sentence)
    match placeAt o.tree cwd path with
    | .error errno => refuse errno
    | .ok (_, none) => refuse Os.Errno.noEntry
    | .ok (_, some .directory) => refuse Os.Errno.isDirectory
    | .ok (place, some _) => { o with tree := o.tree.erase place }
  | _ :: extra :: _ => call.extraOperand extra 1

/-! ## Copying and moving -/

/-- Copies what is at a place to another place, with all below it. The fuel bounds the depth. -/
def copyTo (mask : Nat) : Nat → Files.Path → Files.Path → Files.Tree → Files.Tree
  | 0, _, _, tree => tree
  | depth + 1, source, target, tree => match tree.at? source with
    | none => tree
    | some .directory =>
      let entries := tree.children source
      let tree := if tree.isDirectory target then tree else tree.put target .directory
      entries.foldl (fun tree (name, _) => copyTo mask depth (source ++ [name]) (target ++ [name]) tree) tree
    | some (.file mode content) => match tree.at? target with
      | some (.file old _) => tree.put target (.file old content)
      | _ => tree.put target (.file (mode &&& (0o777 ^^^ mask)) content)
    | some entry => tree.put target entry

/-- Where something goes: into a directory under its own name, or to the path itself. -/
def targetIn (tree : Files.Tree) (cwd : Files.Path) (source target : String) (isPlain : Bool) : String :=
  match if isPlain then .error Os.Errno.noEntry else entryAt tree cwd target with
  | .ok .directory => Files.join target (lastName source)
  | _ => target

/-- Reads the operands of a program that copies or moves: the sources, and the path that they go to. -/
def Call.withTarget (call : Call) (said : Said) (next : List String → String → Plan) : Plan :=
  let target := said.value? 't'
  match said.operands, target with
  | [], _ => call.misuse "missing file operand" 1
  | operands, some target => next operands target
  | [only], none => call.misuse ("missing destination file operand after " ++ quote only) 1
  | operands, none =>
    let target := operands.getLast?.getD ""
    let sources := operands.dropLast
    if sources.length ≤ 1 then next sources target
    else .withFiles fun space _ =>
      (space.tree, match entryAt space.tree space.cwd target with
        | .ok .directory => next sources target
        | .ok _ => call.fail ("target " ++ quote target ++ ": Not a directory") 1
        | .error errno => call.fail ("target " ++ quote target ++ ": " ++ errno.sentence) 1)

/-- The place that something goes to, if something can go there. -/
def destination (tree : Files.Tree) (cwd : Files.Path) (path : String) : Except Os.Errno Files.Path := do
  let shown := Text.ofOctets path
  let place ← Files.locate tree true cwd shown
  if Files.demandsDirectory shown && !tree.isDirectory place then throw Os.Errno.notDirectory
  if (tree.at? place).isNone && !tree.isDirectory place.dropLast then
    throw (if (tree.at? place.dropLast).isSome then Os.Errno.notDirectory else Os.Errno.noEntry)
  return place

/-- `cp` copies files and, if asked to, directories. -/
def cp (call : Call) : Plan :=
  call.read { flags := "abdfHilLnpPrRsTuvx", valued := "St", long := [("recursive", 'r'), ("archive", 'a'),
    ("force", 'f'), ("verbose", 'v'), ("no-clobber", 'n'), ("target-directory", 't')] } 1 fun said =>
  let deep := said.has 'r' || said.has 'R' || said.has 'a'
  call.withTarget said fun sources target => call.changeEach sources fun cwd mask o source =>
    let path := targetIn o.tree cwd source target (said.has 'T')
    let shown := Text.ofOctets source
    match Files.locate o.tree (!(deep && !said.has 'L')) cwd shown, entryAt o.tree cwd source with
    | .error errno, _ => o.warn ("cannot stat " ++ quote source ++ ": " ++ errno.sentence)
    | _, .error errno => o.warn ("cannot stat " ++ quote source ++ ": " ++ errno.sentence)
    | .ok origin, .ok entry =>
      if entry.isDirectory && !deep then o.warn ("-r not specified; omitting directory " ++ quote source)
      else match destination o.tree cwd path with
        | .error errno =>
          let what := if entry.isDirectory then "directory " else "regular file "
          o.warn ("cannot create " ++ what ++ quote path ++ ": " ++ errno.sentence)
        | .ok goal =>
          if goal == origin then o.warn (quote source ++ " and " ++ quote path ++ " are the same file")
          else if entry.isDirectory && origin.isPrefixOf goal then
            o.warn ("cannot copy a directory, " ++ quote source ++ ", into itself, " ++ quote path)
          else match o.tree.at? goal, entry.isDirectory with
            | some (.file _ _), true =>
              o.warn ("cannot overwrite non-directory " ++ quote path ++ " with directory " ++ quote source)
            | some .directory, false => o.warn ("cannot overwrite directory " ++ quote path ++ " with non-directory")
            | existing, _ =>
              if existing.isSome && said.has 'n' then o
              else { o with tree := copyTo mask depthLimit origin goal o.tree }.sayIf (said.has 'v')
                (quote source ++ " -> " ++ quote path)

/-- Moves what is at a place to another place, with all below it. -/
def moveTo (tree : Files.Tree) (source target : Files.Path) : Files.Tree :=
  let without := tree.entries.filter fun (place, _) => !target.isPrefixOf place
  { tree with entries := without.map fun (place, entry) =>
      if source.isPrefixOf place then (target ++ place.drop source.length, entry) else (place, entry) }

/-- `mv` moves files and directories. -/
def mv (call : Call) : Plan :=
  call.read { flags := "bfinTuv", valued := "St", long := [("force", 'f'), ("verbose", 'v'), ("no-clobber", 'n'),
    ("target-directory", 't')] } 1 fun said =>
  call.withTarget said fun sources target => call.changeEach sources fun cwd _ o source =>
    let path := targetIn o.tree cwd source target (said.has 'T')
    match placeAt o.tree cwd source with
    | .error errno => o.warn ("cannot stat " ++ quote source ++ ": " ++ errno.sentence)
    | .ok (_, none) => o.warn ("cannot stat " ++ quote source ++ ": " ++ Os.Errno.noEntry.sentence)
    | .ok (origin, some entry) => match placeAt o.tree cwd path with
      | .error errno =>
        o.warn ("cannot move " ++ quote source ++ " to " ++ quote path ++ ": " ++ errno.sentence)
      | .ok (goal, existing) =>
        if goal == origin then o.warn (quote source ++ " and " ++ quote path ++ " are the same file")
        else if entry.isDirectory && origin.isPrefixOf goal then
          o.warn ("cannot move " ++ quote source ++ " to a subdirectory of itself, " ++ quote path)
        else if Files.demandsDirectory path && existing.isNone && !entry.isDirectory then
          o.warn ("cannot move " ++ quote source ++ " to " ++ quote path ++ ": Not a directory")
        else match existing.map (·.isDirectory), entry.isDirectory with
          | some false, true =>
            o.warn ("cannot overwrite non-directory " ++ quote path ++ " with directory " ++ quote source)
          | some true, false => o.warn ("cannot overwrite directory " ++ quote path ++ " with non-directory")
          | some true, true =>
            if (o.tree.children goal).isEmpty then { o with tree := moveTo o.tree origin goal }
            else o.warn ("cannot move " ++ quote source ++ " to " ++ quote path ++ ": Directory not empty")
          | state, _ =>
            if state.isSome && said.has 'n' then o
            else { o with tree := moveTo o.tree origin goal }.sayIf (said.has 'v')
              ("renamed " ++ quote source ++ " -> " ++ quote path)

/-- `ln` makes links. A second name for a file is a copy of it. -/
def ln (call : Call) : Plan :=
  call.read { flags := "sfnvirTLP", valued := "St", long := [("symbolic", 's'), ("force", 'f'), ("verbose", 'v'),
    ("no-dereference", 'n')] } 1 fun said =>
  let kind := if said.has 's' then "symbolic" else "hard"
  let link (sources : List String) (target : String) : Plan :=
    call.changeEach sources fun cwd _ o source =>
      let path := targetIn o.tree cwd source target (said.has 'T' || (said.has 'n' &&
        match placeAt o.tree cwd target with
        | .ok (_, some (.link _)) => true
        | _ => false))
      let original := if said.has 's' then .ok (Files.Entry.link (Text.ofOctets source)) else entryAt o.tree cwd source
      let refuse (errno : Os.Errno) : Outcome :=
        o.warn ("failed to create " ++ kind ++ " link " ++ quote path ++ ": " ++ errno.sentence)
      match original with
      | .error errno => o.warn ("failed to access " ++ quote source ++ ": " ++ errno.sentence)
      | .ok .directory => o.warn (clear source ++ ": hard link not allowed for directory")
      | .ok entry => match placeAt o.tree cwd path with
        | .error errno => refuse errno
        | .ok (place, existing) =>
          if existing.isSome && !(said.has 'f' && existing.any (!·.isDirectory)) then refuse Os.Errno.fileExists
          else { o with tree := o.tree.put place entry }.sayIf (said.has 'v')
            (quote path ++ (if said.has 's' then " -> " else " => ") ++ quote source)
  match said.operands, said.value? 't' with
  | [], _ => call.misuse "missing file operand" 1
  | operands, some target => link operands target
  | [only], none => link [only] "."
  | operands, none =>
    let target := operands.getLast?.getD ""
    if operands.length = 2 then link operands.dropLast target
    else .withFiles fun space _ =>
      (space.tree, match entryAt space.tree space.cwd target with
        | .ok .directory => link operands.dropLast target
        | .ok _ => call.fail ("target " ++ quote target ++ ": Not a directory") 1
        | .error errno => call.fail ("target " ++ quote target ++ ": " ++ errno.sentence) 1)

/-! ## Permissions -/

/-- Permissions in letters. -/
def modeLetters (mode : Nat) : String :=
  let three (n : Nat) (special : Bool) (letter : Char) : List Char := [
    if n &&& 4 != 0 then 'r' else '-', if n &&& 2 != 0 then 'w' else '-',
    match n &&& 1 != 0, special with
    | true, true => letter
    | false, true => letter.toUpper
    | true, false => 'x'
    | false, false => '-']
  String.ofList (three (mode / 64 % 8) (mode &&& 0o4000 != 0) 's' ++ three (mode / 8 % 8) (mode &&& 0o2000 != 0) 's' ++
    three (mode % 8) (mode &&& 0o1000 != 0) 't')

/-- `chmod` changes permissions. -/
def chmod (call : Call) : Plan :=
  -- A mode may start with a hyphen.
  let isMode (a : String) : Bool := match a.toList with
    | '-' :: c :: _ => "rwxXst".toList.contains c
    | _ => false
  let minus := call.args.filter isMode
  let inner : Call := { call with args := call.args.filter fun a => !isMode a }
  inner.read { flags := "cfvR", valued := "@", long := [("recursive", 'R'), ("verbose", 'v'), ("changes", 'c'),
    ("silent", 'f'), ("quiet", 'f'), ("reference", '@')] } 1 fun said =>
  match minus ++ said.operands with
  | [] => call.misuse "missing operand" 1
  | [mode] => call.misuse ("missing operand after " ++ quote mode) 1
  | mode :: paths =>
    if (modeFrom mode false 0 0).isNone then call.misuse ("invalid mode: " ++ quote mode) 1
    else call.changeEach paths fun cwd mask o path => match Files.resolve o.tree cwd (Text.ofOctets path) with
      | .error errno => o.warn ("cannot access " ++ quote path ++ ": " ++ errno.sentence)
      | .ok place => match entryAt o.tree cwd path with
        | .error errno => o.warn ("cannot access " ++ quote path ++ ": " ++ errno.sentence)
        | .ok _ =>
          let places := if said.has 'R' then place :: (o.tree.below place).map (·.1) else [place]
          places.foldl (fun o place => match o.tree.at? place with
            | some (.file old content) =>
              let new := (modeFrom mode false mask old).getD old
              let four (n : Nat) : String := Shell.octalText 4 n ++ " (" ++ modeLetters n ++ ")"
              let told := if old = new then
                  "mode of " ++ quote path ++ " retained as " ++ four old
                else "mode of " ++ quote path ++ " changed from " ++ four old ++ " to " ++ four new
              { o with tree := o.tree.put place (.file new content) }.sayIf
                (said.has 'v' || (said.has 'c' && old != new)) told
            | _ => o) o

/-! ## Telling -/

/-- A path without links, the end of which need not be there. -/
def plainPath (tree : Files.Tree) (cwd : Files.Path) (mustExist : Bool) (path : String) : Except Os.Errno String := do
  let shown := Text.ofOctets path
  let place ← Files.resolve tree cwd shown
  if (tree.at? place).isNone && (mustExist || !tree.isDirectory place.dropLast) then throw Os.Errno.noEntry
  return Text.octets (Files.render place)

/-- `readlink` tells where links lead. -/
def readlink (call : Call) : Plan :=
  call.read { flags := "femnqsvz", long := [("canonicalize", 'f'), ("canonicalize-existing", 'e'),
    ("no-newline", 'n')] } 1 fun said =>
  if said.operands.isEmpty then call.misuse "missing operand" 1
  else .withFiles fun space _ =>
    let told := said.operands.map fun path =>
      if said.has 'f' || said.has 'e' || said.has 'm' then
        (plainPath space.tree space.cwd (said.has 'e') path).toOption
      else match placeAt space.tree space.cwd path with
        | .ok (_, some (.link target)) => some (Text.octets target)
        | _ => none
    let ending := if said.has 'n' && said.operands.length = 1 then "" else "\n"
    (space.tree, call.answer (String.join (told.filterMap fun t => t.map (· ++ ending)))
      (if told.all (·.isSome) then 0 else 1))

/-- `realpath` tells paths without links. -/
def realpath (call : Call) : Plan :=
  call.read { flags := "emsqzLP", long := [("canonicalize-existing", 'e'), ("canonicalize-missing", 'm'),
    ("no-symlinks", 's')] } 1 fun said =>
  if said.operands.isEmpty then call.misuse "missing operand" 1
  else call.changeEach said.operands fun cwd _ o path =>
    match plainPath o.tree cwd (said.has 'e') path with
    | .ok plain => o.say plain
    | .error errno => o.warn (clear path ++ ": " ++ errno.sentence)

/-- What kind of thing is at a place. -/
def kindOf : Files.Entry → String
  | .directory => "directory"
  | .file _ content => if content.isEmpty then "regular empty file" else "regular file"
  | .tool _ => "regular file"
  | .device _ => "character special file"
  | .link _ => "symbolic link"

/-- The letter for what is at a place. -/
def kindLetter : Files.Entry → Char
  | .directory => 'd'
  | .device _ => 'c'
  | .link _ => 'l'
  | _ => '-'

/-- The size of what is at a place. -/
def sizeOf : Files.Entry → Nat
  | .directory => 4096
  | .file _ content => content.size
  | .tool _ => 35000
  | .device _ => 0
  | .link target => target.utf8ByteSize

/-- A description of something by a format. -/
def described (path : String) (entry : Files.Entry) : List Char → String
  | '%' :: c :: rest =>
    let shown := match c with
      | 'n' => path
      | 'N' => match entry with
        | .link target => quote path ++ " -> " ++ quote (Text.octets target)
        | _ => quote path
      | 's' => toString (sizeOf entry)
      | 'a' => Shell.octalText 1 (modeOf entry)
      | 'A' => (kindLetter entry).toString ++ modeLetters (modeOf entry)
      | 'F' => kindOf entry
      | 'u' => "0"
      | 'g' => "0"
      | 'U' => "root"
      | 'G' => "root"
      | 'h' => "1"
      | 'b' => toString ((sizeOf entry + 4095) / 4096 * 8)
      | 'B' => "512"
      | '%' => "%"
      | _ => "?"
    shown ++ described path entry rest
  | c :: rest => c.toString ++ described path entry rest
  | [] => ""

/-- `stat` describes files by a format. -/
def stat (call : Call) : Plan :=
  call.read { flags := "Lftz", valued := "c@", long := [("format", 'c'), ("printf", '@'), ("dereference", 'L')] } 1
    fun said =>
  if said.operands.isEmpty then call.misuse "missing operand" 1
  else
    let format := ((said.value? 'c').orElse fun _ =>
      (said.value? '@').map fun f => (Shell.Format.withEscapes true f).1).getD "%n %s %A"
    call.changeEach said.operands fun cwd _ o path =>
      let found : Except Os.Errno (Option Files.Entry) := if said.has 'L' then (entryAt o.tree cwd path).map some
        else (placeAt o.tree cwd path).map (·.2)
      match found with
      | .ok (some entry) =>
        if said.has '@' then { o with said := described path entry format.toList :: o.said }
        else o.say (described path entry format.toList)
      | .ok none => o.warn ("cannot statx " ++ quote path ++ ": " ++ Os.Errno.noEntry.sentence)
      | .error errno => o.warn ("cannot statx " ++ quote path ++ ": " ++ errno.sentence)

/-- `truncate` sets the sizes of files. -/
def truncate (call : Call) : Plan :=
  call.read { flags := "co", valued := "sr", long := [("size", 's'), ("no-create", 'c'), ("reference", 'r')] } 1
    fun said =>
  match said.value? 's' with
  | none => call.misuse "you must specify either '--size' or '--reference'" 1
  | some text =>
    let digits := text.toList.dropWhile fun c => "+-<>/%".toList.contains c
    match decimal? (String.ofList (digits.takeWhile Char.isDigit)) with
    | none => call.fail ("Invalid number: " ++ quote text) 1
    | some base =>
      let count := match digits.dropWhile Char.isDigit with
        | ['K'] => base * 1024
        | ['M'] => base * 1048576
        | _ => base
      if said.operands.isEmpty then call.misuse "missing file operand" 1
      else call.changeEach said.operands fun cwd _ o path =>
        let shown := Text.ofOctets path
        let old := (Files.readBytes o.tree cwd shown).toOption
        if said.has 'c' && old.isNone then o
        else
          let old := old.getD .empty
          let size := if text.startsWith "+" then old.size + count
            else if text.startsWith "-" then old.size - count else count
          let new := old.extract 0 size ++ ⟨Array.replicate (size - old.size) 0⟩
          match Files.writeBytes o.tree cwd shown new with
          | .ok tree => { o with tree }
          | .error fault => o.warn ("cannot open " ++ quote path ++ " for writing: " ++ faultSentence fault)

/-- `mktemp` makes a file, or a directory, with a name that is new. -/
def mktemp (call : Call) : Plan :=
  call.read { flags := "duqt", valued := "p", long := [("directory", 'd'), ("dry-run", 'u'), ("quiet", 'q'),
    ("tmpdir", 'p')] } 1 fun said =>
  let template := said.operands.headD "tmp.XXXXXXXXXX"
  let marks := (template.toList.reverse.takeWhile (· == 'X')).length
  if marks < 3 then call.fail ("too few X's in template " ++ quote template) 1
  else .withFiles fun space _ =>
    let stem := String.ofList (template.toList.take (template.length - marks))
    let directory := if said.operands.isEmpty || said.has 't' then (call.setting.vars.lookup "TMPDIR").getD "/tmp"
      else (said.value? 'p').getD ""
    let names := (List.range 10000).map fun n =>
      let digits := toString (call.pid * 10000 + n)
      let digits := String.ofList (digits.toList.drop (digits.length - marks))
      stem ++ String.ofList (List.replicate (marks - digits.length) 'a') ++ digits
    let isFree (name : String) : Bool := (entryAt space.tree space.cwd (Files.join directory name)).toOption.isNone
    match names.find? isFree with
    | none => (space.tree, .done 1)
    | some name =>
      let path := Files.join directory name
      let made : Except Os.Fault Files.Tree := if said.has 'd' then
          (makeDirectory space.tree space.cwd path).mapError .os
        else Files.writeBytes space.tree space.cwd (Text.ofOctets path) .empty
      match made with
      | .ok tree => (tree, call.answer (path ++ "\n") 0)
      | .error fault =>
        let what := if said.has 'd' then "directory" else "file"
        (space.tree, call.fail ("failed to create " ++ what ++ " via template " ++
          quote (Files.join directory template) ++ ": " ++ faultSentence fault) 1)

end BatchRunner.Machine.Tool
