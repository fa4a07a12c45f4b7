import BatchRunner.Machine.Tool.Call

/-!
# Programs that pass on what they read

`cat`, `head`, `tee` and `yes`: they handle one block at a time and stop when they have what they want.
-/

namespace BatchRunner.Machine.Tool

/-! ## `cat` -/

/-- How `cat` shows what it reads. -/
structure Showing where
  number : Bool
  numberFilled : Bool
  squeeze : Bool
  ends : Bool
  tabs : Bool
  hidden : Bool

/-- A character as `cat` shows it if it cannot be seen. -/
def caret (tabs : Bool) (c : Char) : List Char :=
  let n := c.toNat
  let low (n : Nat) : List Char :=
    if n = 127 then ['^', '?'] else if n < 32 then ['^', Char.ofNat (n + 64)] else [Char.ofNat n]
  if c == '\n' then [c]
  else if c == '\t' then (if tabs then ['^', 'I'] else [c])
  else if n < 128 then low n
  else 'M' :: '-' :: low (n - 128)

/-- What `cat` has seen: the number of the last line, whether it is in the middle of a line, and how many empty
lines came last. -/
structure Seen where
  line : Nat := 0
  inside : Bool := false
  empties : Nat := 0

/-- A number in a column of its own. -/
def column (n : Nat) : List Char :=
  let digits := Nat.toDigits 10 n
  List.replicate (6 - digits.length) ' ' ++ digits ++ ['\t']

/-- Shows characters; those written are gathered last first. -/
def showChars (how : Showing) : Seen → List Char → List Char → Seen × List Char
  | seen, [], done => (seen, done)
  | seen, c :: cs, done =>
    let isEmptyLine := !seen.inside && c == '\n'
    if how.squeeze && isEmptyLine && 1 ≤ seen.empties then showChars how seen cs done
    else
      let numbered := !seen.inside && (if how.numberFilled then c != '\n' else how.number)
      let seen := { seen with
        line := if numbered then seen.line + 1 else seen.line
        empties := if isEmptyLine then seen.empties + 1 else if c == '\n' then 0 else seen.empties
        inside := c != '\n' }
      let front := if numbered then column seen.line else []
      let shown :=
        if c == '\n' then (if how.ends then ['$', '\n'] else ['\n'])
        else if how.hidden then caret how.tabs c
        else if c == '\t' && how.tabs then ['^', 'I']
        else [c]
      let seen := if c != '\n' then { seen with empties := 0 } else seen
      showChars how seen cs ((front ++ shown).reverse ++ done)

/-- Copies a descriptor to standard output. -/
def copyAll (call : Call) (path : String) (fd : Fd) (next : Nat → Plan) (status : Nat) : Nat → Plan
  | 0 => next status
  | fuel + 1 => .read fd Plan.blockSize fun
    | .error errno => call.warn (plainReading path errno) (next 1)
    | .ok block =>
      if block.isEmpty then next status else .put call.name block (copyAll call path fd next status fuel)

/-- Copies each of some files to standard output. -/
def copyFiles (call : Call) : List String → Nat → Plan
  | [], status => .done status
  | path :: paths, status =>
    if path = "-" then copyAll call path 0 (copyFiles call paths) status Plan.blockLimit
    else .openFile path fun
      | .error errno => call.warn (plainReading path errno) (copyFiles call paths 1)
      | .ok fd => copyAll call path fd (fun status => .close fd (copyFiles call paths status)) status Plan.blockLimit

/-- Shows each of some files. -/
def showFiles (call : Call) (how : Showing) : List String → Seen → Nat → Plan
  | [], _, status => .done status
  | path :: paths, seen, status => .readPath path fun
    | .error errno => call.warn (plainReading path errno) (showFiles call how paths seen 1)
    | .ok bytes =>
      let (seen, shown) := showChars how seen (Text.ofByteArray bytes).toList []
      call.say (String.ofList shown.reverse) (showFiles call how paths seen status)

/-- `cat` writes files one after another. -/
def cat (call : Call) : Plan :=
  call.read { flags := "AbeEnstTuv", long := [("show-all", 'A'), ("number-nonblank", 'b'), ("show-ends", 'E'),
    ("number", 'n'), ("squeeze-blank", 's'), ("show-tabs", 'T'), ("show-nonprinting", 'v')] } 1 fun said =>
  let any (letters : List Char) : Bool := letters.any said.has
  let how : Showing := {
    number := said.has 'n'
    numberFilled := said.has 'b'
    squeeze := said.has 's'
    ends := any ['E', 'e', 'A']
    tabs := any ['T', 't', 'A']
    hidden := any ['v', 'e', 't', 'A'] }
  let paths := if said.operands.isEmpty then ["-"] else said.operands
  if any ['A', 'b', 'e', 'E', 'n', 's', 't', 'T', 'v'] then showFiles call how paths {} 0
  else copyFiles call paths 0

/-! ## `head` -/

/-- How much is wanted of a file. -/
inductive Wanted where
  | bytes (count : Nat)
  | lines (count : Nat)
  /-- All but the last so many. -/
  | bytesButLast (count : Nat)
  | linesButLast (count : Nat)
  deriving DecidableEq, Repr, Inhabited

/-- The bytes up to the end of a number of lines, and how many lines were not ended. -/
def takeLines : Nat → List UInt8 → List UInt8 × Nat
  | 0, _ => ([], 0)
  | count, [] => ([], count)
  | count + 1, b :: rest =>
    let (taken, left) := takeLines (if b = 10 then count else count + 1) rest
    (b :: taken, left)

/-- A count with the unit behind it; nothing if it is none. -/
def countOf (s : String) : Option Nat :=
  let (digits, unit) := Text.someDigits Text.digitValue? s.toList
  let factor : Option Nat := match String.ofList unit with
    | "" => some 1
    | "b" => some 512
    | "K" => some 1024
    | "k" => some 1024
    | "KiB" => some 1024
    | "kB" => some 1000
    | "KB" => some 1000
    | "M" => some 1048576
    | "MiB" => some 1048576
    | "MB" => some 1000000
    | "G" => some 1073741824
    | _ => none
  if digits.isEmpty then none else factor.map (Text.numeral 10 digits * ·)

/-- Copies the front of a descriptor to standard output. -/
def copyFront (call : Call) (path : String) (fd : Fd) (next : Nat → Plan) (status : Nat) : Nat → Wanted → Plan
  | 0, _ => next status
  | fuel + 1, wanted =>
    let failed (errno : Os.Errno) : Plan :=
      call.warn ("error reading " ++ quote (if path = "-" then "standard input" else path) ++ ": " ++ errno.sentence)
        (next 1)
    match wanted with
    | .bytes 0 => next status
    | .lines 0 => next status
    | .bytes count => .read fd (min count Plan.blockSize) fun
      | .error errno => failed errno
      | .ok block =>
        if block.isEmpty then next status
        else .put call.name block (copyFront call path fd next status fuel (.bytes (count - block.size)))
    | .lines count => .read fd 8192 fun
      | .error errno => failed errno
      | .ok block =>
        if block.isEmpty then next status
        else
          let (taken, left) := takeLines count block.toList
          let rest := copyFront call path fd next status fuel (.lines left)
          .put call.name ⟨taken.toArray⟩
            (if left = 0 then .unread fd (block.size - taken.length) rest else rest)
    | .bytesButLast count => .readAll fd fun
      | .error errno => failed errno
      | .ok all => .put call.name (all.extract 0 (all.size - count)) (next status)
    | .linesButLast count => .readAll fd fun
      | .error errno => failed errno
      | .ok all =>
        let pieces := (Text.ofByteArray all).splitOn "\n"
        let lines := if pieces.getLast? = some "" then pieces.dropLast.map (· ++ "\n")
          else pieces.dropLast.map (· ++ "\n") ++ pieces.getLast?.toList
        call.say (String.join (lines.take (lines.length - count))) (next status)

/-- The line in front of each of several files. -/
def banner (first : Bool) (path : String) : String :=
  (if first then "" else "\n") ++ "==> " ++ (if path = "-" then "standard input" else path) ++ " <==\n"

/-- Copies the fronts of files. -/
def copyFronts (call : Call) (wanted : Wanted) (named : Bool) : Bool → List String → Nat → Plan
  | _, [], status => .done status
  | first, path :: paths, status =>
    let next (status : Nat) : Plan := copyFronts call wanted named false paths status
    let titled (plan : Plan) : Plan := if named then call.say (banner first path) plan else plan
    if path = "-" then titled (copyFront call path 0 next status Plan.blockLimit wanted)
    else .openFile path fun
      | .error errno =>
        call.warn ("cannot open " ++ quote path ++ " for reading: " ++ errno.sentence)
          (copyFronts call wanted named first paths 1)
      | .ok fd =>
        titled (copyFront call path fd (fun status => .close fd (next status)) status Plan.blockLimit wanted)

/-- Arguments in which a number alone, as the first, counts as the value of an option. -/
def withNumber (letter : String) : List String → List String
  | a :: rest => match a.toList with
    | '-' :: c :: cs =>
      if c.isDigit then
        let digits := (c :: cs).takeWhile Char.isDigit
        let behind := (c :: cs).drop digits.length
        letter :: String.ofList digits :: (if behind.isEmpty then rest else String.ofList ('-' :: behind) :: rest)
      else a :: rest
    | _ => a :: rest
  | [] => []

/-- `head` writes the front of files. -/
def head (call : Call) : Plan :=
  let inner : Call := { call with args := withNumber "-n" call.args }
  inner.read { flags := "qvz", valued := "cn", long := [("bytes", 'c'),
    ("lines", 'n'), ("quiet", 'q'), ("silent", 'q'), ("verbose", 'v')] } 1 fun said =>
  let paths := if said.operands.isEmpty then ["-"] else said.operands
  let named := !said.has 'q' && (said.has 'v' || 1 < paths.length)
  let start (wanted : Wanted) : Plan := copyFronts call wanted named true paths 0
  match said.last? ['c', 'n'] with
  | none => start (.lines 10)
  | some letter =>
    let text := (said.value? letter).getD ""
    let butLast := text.startsWith "-"
    match countOf (String.ofList (text.toList.dropWhile fun c => c == '-' || c == '+')) with
    | none =>
      call.fail ("invalid number of " ++ (if letter == 'c' then "bytes" else "lines") ++ ": " ++ quote text) 1
    | some n =>
      start (match letter == 'c', butLast with
        | true, true => .bytesButLast n
        | true, false => .bytes n
        | false, true => .linesButLast n
        | false, false => .lines n)

/-! ## `tee` and `yes` -/

/-- Writes bytes to each of some files, at its end. -/
def appendTo (setting : Setting) (paths : List String) (bytes : ByteArray) (tree : Files.Tree) : Files.Tree :=
  paths.foldl (fun tree path =>
    let old := (Files.readBytes tree setting.cwd (Text.ofOctets path)).toOption.getD .empty
    (Files.writeBytes tree setting.cwd (Text.ofOctets path) (old ++ bytes)).toOption.getD tree) tree

/-- Copies standard input to standard output and to files. -/
def spread (call : Call) (paths : List String) (status : Nat) : Nat → Plan
  | 0 => .done status
  | fuel + 1 => .read 0 Plan.blockSize fun
    | .error _ => .done 1
    | .ok block =>
      if block.isEmpty then .done status
      else .withFiles fun space _ =>
        (appendTo call.setting paths block space.tree, .put call.name block (spread call paths status fuel))

/-- `tee` copies what it reads to standard output and to files. -/
def tee (call : Call) : Plan :=
  call.read { flags := "aip", long := [("append", 'a'), ("ignore-interrupts", 'i')] } 1 fun said =>
  .withFiles fun space mask =>
    let attempt (path : String) : Except Os.Fault Files.Tree :=
      let path := Text.ofOctets path
      let old := if said.has 'a' then (Files.readBytes space.tree space.cwd path).toOption.getD .empty else .empty
      Files.writeBytes space.tree space.cwd path old
    let _ := mask
    let (tree, good, bad) := said.operands.foldl (fun (tree, good, bad) path =>
      match attempt path with
      | .ok _ =>
        let shown := Text.ofOctets path
        let old := if said.has 'a' then (Files.readBytes tree space.cwd shown).toOption.getD .empty else .empty
        ((Files.writeBytes tree space.cwd shown old).toOption.getD tree, good ++ [path], bad)
      | .error fault =>
        let sentence := match fault with
          | .os errno => errno.sentence
          | other => other.message
        (tree, good, bad ++ [clear path ++ ": " ++ sentence])) (space.tree, [], [])
    (tree, bad.foldr (fun text plan => call.warn text plan)
      (spread call good (if bad.isEmpty then 0 else 1) Plan.blockLimit))

/-- `yes` writes a line over and over. -/
def yes (call : Call) : Plan :=
  call.read {} 1 fun said =>
  let line := (if said.operands.isEmpty then "y" else " ".intercalate said.operands) ++ "\n"
  let block := Text.toByteArray (String.join (List.replicate (4096 / line.length + 1) line))
  .forever call.name block Plan.blockLimit

end BatchRunner.Machine.Tool
