import BatchRunner.Machine.Shell.Format
import BatchRunner.Machine.Tool.Stream

/-!
# Programs for lines

`tail`, `wc`, `sort`, `uniq`, `cut`, `nl`, `tac`, `paste`, `fold` and `comm`: they read texts line by line.
-/

namespace BatchRunner.Machine.Tool

/-! ## `tail` and `tac` -/

/-- The lines of a text with their ends. -/
def wholeLines (s : String) : List String :=
  let pieces := s.splitOn "\n"
  let ended := pieces.dropLast.map (· ++ "\n")
  match pieces.getLast? with
  | none => ended
  | some "" => ended
  | some last => ended ++ [last]

/-- The part of a file that `tail` shows: from a place on, or the last so many. -/
def tailOf (bytes fromFront : Bool) (count : Nat) (s : String) : String :=
  if bytes then
    let drop := if fromFront then count - 1 else s.length - count
    String.ofList (s.toList.drop drop)
  else
    let lines := wholeLines s
    let drop := if fromFront then count - 1 else lines.length - count
    String.join (lines.drop drop)

/-- Shows the ends of files. -/
def showEnds (call : Call) (named : Bool) (cut : String → String) : Bool → List String → Nat → Plan
  | _, [], status => .done status
  | first, path :: paths, status =>
    let titled (plan : Plan) : Plan := if named then call.say (banner first path) plan else plan
    .readPath path fun
      | .error errno =>
        if errno = Os.Errno.isDirectory then
          titled (call.warn ("error reading " ++ quote path ++ ": " ++ errno.sentence)
            (showEnds call named cut false paths 1))
        else
          call.warn ("cannot open " ++ quote path ++ " for reading: " ++ errno.sentence)
            (showEnds call named cut first paths 1)
      | .ok bytes =>
        titled (call.say (cut (Text.ofByteArray bytes)) (showEnds call named cut false paths status))

/-- Arguments in which a number alone, as the first, counts as the value of an option; a plus in front of it counts
from the front. -/
def withTailNumber : List String → List String
  | a :: rest => match a.toList with
    | '+' :: c :: cs =>
      if c.isDigit then "-n" :: ("+" ++ String.ofList (c :: cs)) :: rest else a :: rest
    | _ => withNumber "-n" (a :: rest)
  | [] => []

/-- `tail` writes the ends of files. -/
def tail (call : Call) : Plan :=
  let inner : Call := { call with args := withTailNumber call.args }
  inner.read { flags := "fFqvz", valued := "cns", long := [("bytes", 'c'), ("lines", 'n'), ("quiet", 'q'),
    ("silent", 'q'), ("verbose", 'v'), ("follow", 'f')] } 1 fun said =>
  let paths := if said.operands.isEmpty then ["-"] else said.operands
  let named := !said.has 'q' && (said.has 'v' || 1 < paths.length)
  let start (bytes fromFront : Bool) (count : Nat) : Plan :=
    showEnds call named (tailOf bytes fromFront count) true paths 0
  match said.last? ['c', 'n'] with
  | none => start false false 10
  | some letter =>
    let text := (said.value? letter).getD ""
    match countOf (String.ofList (text.toList.dropWhile fun c => c == '-' || c == '+')) with
    | none =>
      call.fail ("invalid number of " ++ (if letter == 'c' then "bytes" else "lines") ++ ": " ++ quote text) 1
    | some n => start (letter == 'c') (text.startsWith "+") n

/-- `tac` writes the lines of files from the last to the first. -/
def tac (call : Call) : Plan :=
  call.read { flags := "br", valued := "s" } 1 fun said =>
  let reading (path : String) (errno : Os.Errno) : String :=
    if errno = Os.Errno.isDirectory then clear path ++ ": read error: " ++ errno.sentence
    else "failed to open " ++ quote path ++ " for reading: " ++ errno.sentence
  allFiles call reading said.operands fun files status =>
    call.answer (String.join (files.map fun f => String.join (wholeLines f.2).reverse)) status

/-! ## `wc` -/

/-- What `wc` counts. -/
structure Counts where
  lines : Nat := 0
  words : Nat := 0
  chars : Nat := 0
  longest : Nat := 0
  deriving Inhabited

/-- Whether a character divides words. -/
def isSpace (c : Char) : Bool := c == ' ' || (9 ≤ c.toNat && c.toNat ≤ 13)

/-- The counts of a text. -/
def Counts.of (s : String) : Counts :=
  let (words, _, longest, column, lines) := s.toList.foldl (fun (words, inWord, longest, column, lines) c =>
    let column' : Nat := if c == '\n' || c == '\r' || c == '\x0c' then 0
      else if c == '\t' then (column / 8 + 1) * 8
      else if isPrintable c then column + 1 else column
    let starts := !inWord && isPrintable c && c != ' '
    (if starts then words + 1 else words, if isSpace c then false else inWord || starts,
      max longest column', column', if c == '\n' then lines + 1 else lines)) (0, false, 0, 0, 0)
  let _ := column
  { lines, words, chars := s.length, longest }

/-- A number filled up with blanks at the front. -/
def padded (width n : Nat) : String :=
  let digits := toString n
  String.ofList (List.replicate (width - digits.length) ' ') ++ digits

/-- What `wc` has learnt of a file. -/
structure Measured where
  path : String
  counts : Counts
  /-- The size of a file, if it is one. -/
  size : Option Nat
  deriving Inhabited

/-- Counts in files one after the other. -/
def countFiles (call : Call) (next : List Measured → Nat → Plan) :
    List String → List Measured → Nat → Plan
  | [], done, status => next done.reverse status
  | path :: paths, done, status =>
    let finish (fd : Fd) (size : Option Nat) (close : Plan → Plan) : Plan := .readAll fd fun
      | .error errno =>
        close (call.warn (clear path ++ ": " ++ errno.sentence)
          (countFiles call next paths (⟨path, {}, none⟩ :: done) 1))
      | .ok bytes =>
        let counts := Counts.of (Text.ofByteArray bytes)
        close (countFiles call next paths (⟨path, counts, size⟩ :: done) status)
    if path = "" || path = "-" then .measure 0 fun size => finish 0 size id
    else .openFile path fun
      | .error errno => call.warn (clear path ++ ": " ++ errno.sentence) (countFiles call next paths done 1)
      | .ok fd => .measure fd fun size => finish fd size (.close fd)

/-- `wc` counts lines, words and bytes. -/
def wc (call : Call) : Plan :=
  call.read { flags := "lwcmL", long := [("lines", 'l'), ("words", 'w'), ("bytes", 'c'), ("chars", 'm'),
    ("max-line-length", 'L')] } 1 fun said =>
  let asked := ['l', 'w', 'm', 'c', 'L'].filter said.has
  let shown := if asked.isEmpty then ['l', 'w', 'c'] else asked
  let paths := if said.operands.isEmpty then [""] else said.operands
  countFiles call (fun files status =>
    let total := (files.filterMap (·.size)).foldl (· + ·) 0
    let width := if paths.length = 1 && shown.length = 1 then 1
      else
        let width := (toString total).length
        if files.any (·.size.isNone) then max width 7 else width
    let line (counts : Counts) (path : String) : String :=
      let numbers := shown.map fun
        | 'l' => counts.lines
        | 'w' => counts.words
        | 'L' => counts.longest
        | _ => counts.chars
      " ".intercalate (numbers.map (padded width)) ++ (if path == "" then "" else " " ++ path) ++ "\n"
    let sum := files.foldl (fun (sum : Counts) f => {
      lines := sum.lines + f.counts.lines, words := sum.words + f.counts.words
      chars := sum.chars + f.counts.chars, longest := max sum.longest f.counts.longest }) {}
    let lines := files.map fun f => line f.counts f.path
    call.answer (String.join lines ++ if 1 < paths.length then line sum "total" else "") status) paths [] 0

/-! ## `sort` and `uniq` -/

/-- How `sort` compares. -/
structure SortManner where
  numeric : Bool := false
  /-- Whether the units behind numbers count first. -/
  units : Bool := false
  /-- Whether digits within texts are compared as numbers. -/
  versions : Bool := false
  anyCase : Bool := false
  skipBlanks : Bool := false
  dictionary : Bool := false
  reversed : Bool := false
  deriving DecidableEq, Repr, Inhabited

/-- A part of a line by which `sort` compares. -/
structure SortKey where
  firstField : Nat
  firstChar : Nat
  /-- The last field and, if not zero, the last character in it. -/
  last : Option (Nat × Nat)
  manner : SortManner
  deriving Inhabited

/-- The manner with that of a letter added, if the letter stands for one. -/
def SortManner.add? (manner : SortManner) : Char → Option SortManner
  | 'n' => some { manner with numeric := true }
  | 'g' => some { manner with numeric := true }
  | 'h' => some { manner with units := true }
  | 'V' => some { manner with versions := true }
  | 'f' => some { manner with anyCase := true }
  | 'b' => some { manner with skipBlanks := true }
  | 'd' => some { manner with dictionary := true }
  | 'r' => some { manner with reversed := true }
  | 'i' => some manner
  | _ => none

/-- A key as it is written. -/
def sortKey? (standard : SortManner) (s : String) : Option SortKey := do
  let part (cs : List Char) : Option (Nat × Nat × List Char) :=
    let (field, rest) := Text.someDigits Text.digitValue? cs
    if field.isEmpty then none
    else match rest with
      | '.' :: rest =>
        let (char, rest) := Text.someDigits Text.digitValue? rest
        some (Text.numeral 10 field, Text.numeral 10 char, rest)
      | rest => some (Text.numeral 10 field, 0, rest)
  let letters (cs : List Char) (manner : SortManner) : Option SortManner :=
    cs.foldl (fun m c => m.bind (·.add? c)) (some manner)
  let (first, firstChar, rest) ← part s.toList
  if first = 0 then none
  let own := rest.takeWhile (· != ',')
  match rest.drop own.length with
  | [] =>
    let manner ← letters own {}
    some ⟨first, firstChar, none, if own.isEmpty then standard else manner⟩
  | _ :: behind =>
    let (last, lastChar, more) ← part behind
    if last = 0 then none
    let manner ← letters (own ++ more) {}
    some ⟨first, firstChar, some (last, lastChar), if own.isEmpty && more.isEmpty then standard else manner⟩

/-- Where each field of a line starts and ends. Without a separator a field starts with the blanks in front of it. The
fuel bounds the number of fields. -/
def fieldRanges (separator : Option Char) : Nat → Nat → List Char → List (Nat × Nat)
  | 0, _, _ => []
  | fuel + 1, start, cs => match separator with
    | some c =>
      let size := (cs.takeWhile (· != c)).length
      match cs.drop size with
      | [] => [(start, start + size)]
      | _ :: rest => (start, start + size) :: fieldRanges separator fuel (start + size + 1) rest
    | none =>
      let blanks := (cs.takeWhile fun c => c == ' ' || c == '\t').length
      let size := blanks + ((cs.drop blanks).takeWhile fun c => c != ' ' && c != '\t').length
      match cs.drop size with
      | [] => [(start, start + size)]
      | rest => (start, start + size) :: fieldRanges separator fuel (start + size) rest

/-- The part of a line that a key names. -/
def SortKey.of (key : SortKey) (separator : Option Char) (line : String) : List Char :=
  let cs := line.toList
  let ranges := fieldRanges separator (cs.length + 1) 0 cs
  let skip (start : Nat) : Nat :=
    if key.manner.skipBlanks then start + ((cs.drop start).takeWhile fun c => c == ' ' || c == '\t').length else start
  let first := match ranges[key.firstField - 1]? with
    | some (start, _) => skip start + (key.firstChar - 1)
    | none => cs.length
  let last := match key.last with
    | none => cs.length
    | some (field, char) => match ranges[field - 1]? with
      | none => cs.length
      | some (start, stop) => if char = 0 then stop else min cs.length (skip start + char)
  (cs.drop first).take (last - first)

/-- The number at the front of a text: its sign, its whole digits and those behind the point. -/
def leadingNumber (cs : List Char) : Bool × Nat × List Nat :=
  let cs := cs.dropWhile fun c => c == ' ' || c == '\t'
  let (negative, cs) := match cs with
    | '-' :: rest => (true, rest)
    | cs => (false, cs)
  let (whole, rest) := Text.someDigits Text.digitValue? cs
  let (part, _) := match rest with
    | '.' :: rest => Text.someDigits Text.digitValue? rest
    | _ => ([], [])
  (negative, Text.numeral 10 whole, part)

/-- Compares numbers at the fronts of texts. -/
def compareNumbers (a b : List Char) : Ordering :=
  let value (cs : List Char) (places : Nat) : Int :=
    let (negative, whole, part) := leadingNumber cs
    let n : Nat := Text.numeral 10 (part ++ List.replicate (places - part.length) 0) + whole * Nat.pow 10 places
    if negative then -(n : Int) else n
  let places := max (leadingNumber a).2.2.length (leadingNumber b).2.2.length
  compare (value a places) (value b places)

/-- Compares texts by the numbers of their characters. -/
def compareChars : List Char → List Char → Ordering
  | [], [] => .eq
  | [], _ => .lt
  | _, [] => .gt
  | a :: as, b :: bs => if a = b then compareChars as bs else compare a.toNat b.toNat

/-- The rank of the unit behind the number at the front of a text; it is turned around for a number below zero. -/
def unitRank (cs : List Char) : Int :=
  let cs := cs.dropWhile fun c => c == ' ' || c == '\t'
  let behind := (cs.dropWhile (· == '-')).dropWhile fun c => c.isDigit || c == '.'
  let rank : Nat := match behind.head? with
    | none => 0
    | some c => ("KMGTPEZY".toList.zipIdx.find? fun (unit, _) => unit == c || (c == 'k' && unit == 'K')).elim 0 (·.2 + 1)
  let (negative, whole, part) := leadingNumber cs
  if whole = 0 && part.all (· == 0) then 0 else if negative then -(rank : Int) else rank

/-- The rank of a character in the name of a version: a tilde comes before the end, then come letters, then others. -/
def versionRank : Option Char → Nat
  | some '~' => 0
  | none => 1
  | some c => if c.isDigit then 1 else if c.isAlpha then c.toNat + 2 else c.toNat + 258

/-- Compares texts in which runs of digits count as numbers. The fuel bounds the number of characters. -/
def compareVersions : Nat → List Char → List Char → Ordering
  | 0, _, _ => .eq
  | fuel + 1, as, bs =>
    if as.head?.any Char.isDigit && bs.head?.any Char.isDigit then
      let value (cs : List Char) : Nat := Text.numeral 10 ((cs.takeWhile Char.isDigit).filterMap Text.digitValue?)
      (compare (value as) (value bs)).then
        (compareVersions fuel (as.dropWhile Char.isDigit) (bs.dropWhile Char.isDigit))
    else if as.isEmpty && bs.isEmpty then .eq
    else
      match compare (versionRank as.head?) (versionRank bs.head?) with
      | .eq =>
        if as.head? == bs.head? then compareVersions fuel as.tail bs.tail
        else compare as.length bs.length
      | order => order

/-- Compares parts of lines. -/
def SortManner.compare (manner : SortManner) (a b : List Char) : Ordering :=
  let result :=
    if manner.numeric then compareNumbers a b
    else if manner.units then (Ord.compare (unitRank a) (unitRank b)).then (compareNumbers a b)
    else if manner.versions then compareVersions (a.length + b.length + 1) a b
    else
      let plain (cs : List Char) : List Char :=
        let cs := if manner.skipBlanks then cs.dropWhile fun c => c == ' ' || c == '\t' else cs
        let cs := if manner.dictionary then cs.filter fun c => c.isAlphanum || c == ' ' || c == '\t' else cs
        if manner.anyCase then cs.map Char.toUpper else cs
      compareChars (plain a) (plain b)
  if manner.reversed then result.swap else result

/-- Compares lines by keys. -/
def compareByKeys (keys : List SortKey) (separator : Option Char) (a b : String) : Ordering :=
  keys.foldl (fun result key => result.then (key.manner.compare (key.of separator a) (key.of separator b))) .eq

/-- Drops lines that are the same as the one in front of them. -/
def dropSame (same : String → String → Bool) : List String → List String
  | [] => []
  | [a] => [a]
  | a :: b :: rest =>
    if same a b then dropSame same (a :: rest) else a :: dropSame same (b :: rest)
termination_by lines => lines.length

/-- `sort` writes the lines of files in order. -/
def sort (call : Call) : Plan :=
  call.read { flags := "nghfbdirusczmMV", valued := "kto", long := [("numeric-sort", 'n'), ("reverse", 'r'),
    ("unique", 'u'), ("ignore-case", 'f'), ("key", 'k'), ("field-separator", 't'), ("output", 'o'), ("stable", 's'),
    ("check", 'c'), ("ignore-leading-blanks", 'b'), ("merge", 'm'), ("dictionary-order", 'd'),
    ("human-numeric-sort", 'h'), ("version-sort", 'V')] } 2 fun said =>
  let standard := said.options.foldl (fun (m : SortManner) o => (m.add? o.1).getD m) {}
  let separator := (said.value? 't').bind fun t => if t == "\\0" then some '\x00' else t.toList.head?
  let written := (said.options.filter (·.1 == 'k')).map (·.2)
  match written.find? fun k => (sortKey? standard k).isNone with
  | some bad => call.fail ("-: invalid field specification " ++ quote bad) 2
  | none =>
    let keys := match written.filterMap (sortKey? standard) with
      | [] => [⟨1, 0, none, standard⟩]
      | keys => keys
    let isPlain := written.isEmpty && standard == { reversed := standard.reversed }
    let byKeys := compareByKeys keys separator
    let order (a b : String) : Ordering :=
      let first := if isPlain then
          let result := compareChars a.toList b.toList
          if standard.reversed then result.swap else result
        else byKeys a b
      if said.has 'u' || said.has 's' then first
      else
        let rest := compareChars a.toList b.toList
        first.then (if standard.reversed then rest.swap else rest)
    let reading (path : String) (errno : Os.Errno) : String :=
      if errno = Os.Errno.isDirectory then "read failed: " ++ clear path ++ ": " ++ errno.sentence
      else "cannot read: " ++ clear path ++ ": " ++ errno.sentence
    let paths := if said.operands.isEmpty then ["-"] else said.operands
    allFiles call reading paths fun files status =>
      if status != 0 then .done 2
      else
        let lines := files.flatMap fun f => linesOf f.2
        if said.has 'c' then
          let pairs := (lines.zip lines.tail).zipIdx
          match pairs.find? fun p => order p.1.1 p.1.2 == .gt || (said.has 'u' && order p.1.1 p.1.2 == .eq) with
          | some ((_, line), i) =>
            let path := paths.headD "-"
            call.fail (path ++ ":" ++ toString (i + 2) ++ ": disorder: " ++ line) 1
          | none => .done 0
        else
          let sorted := lines.mergeSort fun a b => order a b != .gt
          let text := unlines (if said.has 'u' then dropSame (fun a b => order a b == .eq) sorted else sorted)
          match said.value? 'o' with
          | none => call.answer text 0
          | some path => .withFiles fun space _ =>
            match Files.writeBytes space.tree space.cwd (Text.ofOctets path) (Text.toByteArray text) with
            | .ok tree => (tree, .done 0)
            | .error fault => (space.tree, call.fail ("open failed: " ++ clear path ++ ": " ++ match fault with
              | .os errno => errno.sentence
              | other => other.message) 2)

/-- Runs of lines that are the same, each with its first line and its length. -/
def runsOf (key : String → String) : List String → List (String × Nat)
  | [] => []
  | line :: rest => match runsOf key rest with
    | (next, count) :: more => if key line == key next then (line, count + 1) :: more else (line, 1) :: (next, count) :: more
    | [] => [(line, 1)]

/-- `uniq` writes one line of each run of lines that are the same. -/
def uniq (call : Call) : Plan :=
  call.read { flags := "cduiz", valued := "fsw", long := [("count", 'c'), ("repeated", 'd'), ("unique", 'u'),
    ("ignore-case", 'i'), ("skip-fields", 'f'), ("skip-chars", 's'), ("check-chars", 'w')] } 1 fun said =>
  match said.operands with
  | _ :: _ :: extra :: _ => call.extraOperand extra 1
  | operands =>
    let number (letter : Char) : Option Nat := (said.value? letter).bind decimal?
    let key (line : String) : String :=
      let cs := line.toList
      let cs := (List.range ((number 'f').getD 0)).foldl (fun cs _ =>
        (cs.dropWhile fun c => c == ' ' || c == '\t').dropWhile fun c => c != ' ' && c != '\t') cs
      let cs := cs.drop ((number 's').getD 0)
      let cs := match number 'w' with
        | some n => cs.take n
        | none => cs
      String.ofList (if said.has 'i' then cs.map Char.toLower else cs)
    let shows (count : Nat) : Bool := (!said.has 'd' || 1 < count) && (!said.has 'u' || count = 1)
    .readPath (operands.headD "-") fun
      | .error errno => call.fail (clear (operands.headD "-") ++ ": " ++ errno.sentence) 1
      | .ok bytes =>
        let lines := (runsOf key (linesOf (Text.ofByteArray bytes))).filter fun r => shows r.2
        let text := unlines (lines.map fun r => if said.has 'c' then padded 7 r.2 ++ " " ++ r.1 else r.1)
        match operands with
        | _ :: path :: _ => .withFiles fun space _ =>
          match Files.writeBytes space.tree space.cwd (Text.ofOctets path) (Text.toByteArray text) with
          | .ok tree => (tree, .done 0)
          | .error fault => (space.tree, call.fail (clear path ++ ": " ++ match fault with
            | .os errno => errno.sentence
            | other => other.message) 1)
        | _ => call.answer text 0

/-! ## `cut` and `paste` -/

/-- The ranges of positions that a list names. -/
def rangesOf (s : String) : Option (List (Nat × Option Nat)) :=
  (s.toList.splitBy fun a b => (a == ',' || a == ' ') == (b == ',' || b == ' ')).filterMap (fun piece =>
    if piece.any fun c => c == ',' || c == ' ' then none else some piece) |>.mapM fun piece =>
    let (low, rest) := Text.someDigits Text.digitValue? piece
    match rest with
    | [] => if low.isEmpty then none else some (Text.numeral 10 low, some (Text.numeral 10 low))
    | '-' :: rest =>
      let (high, rest) := Text.someDigits Text.digitValue? rest
      if !rest.isEmpty || (low.isEmpty && high.isEmpty) then none
      else some (if low.isEmpty then 1 else Text.numeral 10 low,
        if high.isEmpty then none else some (Text.numeral 10 high))
    | _ => none

/-- Whether a position is in a range. -/
def inRange (ranges : List (Nat × Option Nat)) (n : Nat) : Bool :=
  ranges.any fun (low, high) => low ≤ n && high.all (n ≤ ·)

/-- `cut` writes parts of lines. -/
def cut (call : Call) : Plan :=
  call.read { flags := "snz!", valued := "bcfd@", long := [("bytes", 'b'), ("characters", 'c'), ("fields", 'f'),
    ("delimiter", 'd'), ("only-delimited", 's'), ("complement", '!'), ("output-delimiter", '@')] } 1 fun said =>
  match said.options.filter fun o => o.1 == 'b' || o.1 == 'c' || o.1 == 'f' with
  | [] => call.misuse "you must specify a list of bytes, characters, or fields" 1
  | _ :: _ :: _ => call.misuse "only one list may be specified" 1
  | [(letter, list)] =>
    let isFields := letter == 'f'
    let positions := if isFields then "fields are numbered from 1" else "byte/character positions are numbered from 1"
    match rangesOf list with
    | none =>
      call.misuse (if isFields then "invalid field value " ++ quote list
        else "invalid byte/character position " ++ quote list) 1
    | some ranges =>
      if ranges.any fun r => r.1 = 0 || r.2 == some 0 then call.misuse positions 1
      else if ranges.any fun r => r.2.any (· < r.1) then call.misuse "invalid decreasing range" 1
      else
        let delimiter := (said.value? 'd').getD "\t"
        if !isFields && said.has 'd' then
          call.misuse "an input delimiter may be specified only when operating on fields" 1
        else if 1 < delimiter.length then call.misuse "the delimiter must be a single character" 1
        else
          let wanted (i : Nat) : Bool := inRange ranges (i + 1) != said.has '!'
          let part (line : String) : Option String :=
            if isFields then
              let pieces := line.splitOn delimiter
              if pieces.length = 1 then (if said.has 's' then none else some line)
              else some (((said.value? '@').getD delimiter).intercalate
                ((pieces.zipIdx.filter fun p => wanted p.2).map (·.1)))
            else some (String.ofList ((line.toList.zipIdx.filter fun p => wanted p.2).map (·.1)))
          allFiles call plainReading said.operands fun files status =>
            call.answer (unlines (files.flatMap fun f => (linesOf f.2).filterMap part)) status

/-- The lines of several texts side by side. The fuel bounds their number. -/
def sideBySide (delimiters : List Char) : Nat → List (List String) → List String
  | 0, _ => []
  | fuel + 1, texts =>
    if texts.all (·.isEmpty) then []
    else
      let heads := texts.map fun t => t.headD ""
      joined heads :: sideBySide delimiters fuel (texts.map List.tail)
where
  /-- Texts with delimiters between them, in turn. -/
  joined (pieces : List String) : String :=
    String.join (pieces.zipIdx.map fun (piece, i) =>
      if i = 0 then piece
      else match delimiters[(i - 1) % max 1 delimiters.length]? with
        | some c => c.toString ++ piece
        | none => piece)

/-- `paste` joins lines of files side by side, or those of one file with one another. -/
def paste (call : Call) : Plan :=
  call.read { flags := "sz", valued := "d", long := [("serial", 's'), ("delimiters", 'd')] } 1 fun said =>
  let delimiters := ((said.value? 'd').map fun d => (Shell.Format.withEscapes true d).1.toList).getD ['\t']
  let paths := if said.operands.isEmpty then ["-"] else said.operands
  let shared := (paths.filter (· == "-")).length
  allFiles call plainReading paths fun files status =>
    let inputs := files.filter (·.1 == "-") |>.flatMap fun f => linesOf f.2
    let (texts, _) := files.foldl (fun ((texts, i) : List (List String) × Nat) f =>
      if f.1 == "-" && !said.has 's' && 1 < shared then
        (texts ++ [(inputs.zipIdx.filter fun l => l.2 % shared == i).map (·.1)], i + 1)
      else (texts ++ [linesOf f.2], i)) ([], 0)
    let lines := if said.has 's' then texts.map (sideBySide.joined delimiters)
      else sideBySide delimiters ((texts.map List.length).foldl max 0 + 1) texts
    call.answer (unlines lines) status

/-! ## `nl`, `fold` and `comm` -/

/-- `nl` numbers lines. -/
def nl (call : Call) : Plan :=
  call.read { flags := "p", valued := "bhfnswvil" } 1 fun said =>
  let width := ((said.value? 'w').bind decimal?).getD 6
  let separator := (said.value? 's').getD "\t"
  let start := ((said.value? 'v').bind decimal?).getD 1
  let step := ((said.value? 'i').bind decimal?).getD 1
  let style := (said.value? 'b').getD "t"
  let shown (n : Nat) : String := match said.value? 'n' with
    | some "ln" =>
      let digits := toString n
      digits ++ String.ofList (List.replicate (width - digits.length) ' ')
    | some "rz" =>
      let digits := toString n
      String.ofList (List.replicate (width - digits.length) '0') ++ digits
    | _ => padded width n
  allFiles call plainReading said.operands fun files status =>
    let (lines, _) := (files.flatMap fun f => linesOf f.2).foldl (fun (done, n) line =>
      if style == "a" || (style == "t" && line != "") then
        ((shown n ++ separator ++ line) :: done, n + step)
      else ((String.ofList (List.replicate (width + separator.length) ' ') ++ line) :: done, n)) ([], start)
    call.answer (unlines lines.reverse) status

/-- A line in pieces that are not longer than a width; at blanks, if there are any and it is wished. The fuel bounds
the number of pieces. -/
def folded (width : Nat) (atBlanks : Bool) : Nat → List Char → List String
  | 0, cs => [String.ofList cs]
  | fuel + 1, cs =>
    if cs.length ≤ width then [String.ofList cs]
    else
      let front := cs.take width
      let kept := if !atBlanks then front
        else match (front.reverse.dropWhile fun c => c != ' ' && c != '\t').reverse with
          | [] => front
          | kept => kept
      String.ofList kept :: folded width atBlanks fuel (cs.drop kept.length)

/-- `fold` breaks long lines. -/
def fold (call : Call) : Plan :=
  let inner : Call := { call with args := withNumber "-w" call.args }
  inner.read { flags := "bs", valued := "w", long := [("width", 'w'), ("spaces", 's'), ("bytes", 'b')] } 1 fun said =>
  match ((said.value? 'w').map decimal?).getD (some 80) with
  | none => call.fail ("invalid number of columns: " ++ quote ((said.value? 'w').getD "")) 1
  | some 0 => call.fail ("invalid number of columns: " ++ quote ((said.value? 'w').getD "")) 1
  | some width =>
    allFiles call plainReading said.operands fun files status =>
      let lines := files.flatMap fun f => wholeLines f.2
      call.answer (String.join (lines.map fun line =>
        let body := line.toList.filter (· != '\n')
        "\n".intercalate (folded width (said.has 's') body.length body) ++ if line.endsWith "\n" then "\n" else ""))
        status

/-- The lines of two sorted lists, each with the column that it belongs to. The fuel bounds their number. -/
def merged : Nat → List String → List String → List (Nat × String)
  | 0, _, _ => []
  | _ + 1, [], bs => bs.map (2, ·)
  | _ + 1, as, [] => as.map (1, ·)
  | fuel + 1, a :: as, b :: bs =>
    match compareChars a.toList b.toList with
    | .eq => (3, a) :: merged fuel as bs
    | .lt => (1, a) :: merged fuel as (b :: bs)
    | .gt => (2, b) :: merged fuel (a :: as) bs

/-- `comm` compares two sorted files. -/
def comm (call : Call) : Plan :=
  call.read { flags := "123z" } 1 fun said =>
  match said.operands with
  | [] => call.misuse "missing operand" 1
  | [a] => call.misuse ("missing operand after " ++ quote a) 1
  | _ :: _ :: extra :: _ => call.extraOperand extra 1
  | [a, b] =>
    .readPath a fun
    | .error errno => call.fail (clear a ++ ": " ++ errno.sentence) 1
    | .ok left => .readPath b fun
      | .error errno => call.fail (clear b ++ ": " ++ errno.sentence) 1
      | .ok right =>
        let left := linesOf (Text.ofByteArray left)
        let right := linesOf (Text.ofByteArray right)
        let hidden (column : Nat) : Bool := said.has (Char.ofNat (48 + column))
        let lines := (merged (left.length + right.length + 1) left right).filter fun l => !hidden l.1
        call.answer (String.join (lines.map fun (column, line) =>
          let tabs := (List.range (column - 1)).countP fun i => !hidden (i + 1)
          String.ofList (List.replicate tabs '\t') ++ line ++ "\n")) 0

end BatchRunner.Machine.Tool
