import BatchRunner.Machine.Tool.Folder
import BatchRunner.Machine.Tool.Lines

/-!
# Programs for lists and pieces

`join` brings lines with the same key together, `tsort` puts names in an order, `split` cuts a text into files, `expand`
replaces tabs, and `factor` takes numbers apart.
-/

namespace BatchRunner.Machine.Tool

/-! ## `join` -/

/-- How `join` reads and writes lines. -/
structure JoinManner where
  separator : Option Char
  firstKey : Nat
  secondKey : Nat
  /-- The files of which lines without a partner are written. -/
  unpaired : List Nat
  paired : Bool
  /-- The fields that are written: of which file, or the key. -/
  format : Option (List (Nat × Nat))
  missing : String
  anyCase : Bool
  deriving Inhabited

namespace JoinManner

/-- The fields of a line. -/
def fields (m : JoinManner) (line : String) : List String :=
  match m.separator with
  | some c => line.splitOn c.toString
  | none => ((line.map fun c => if c == '\t' then ' ' else c).splitOn " ").filter (· != "")

/-- A field by its number. -/
def field (m : JoinManner) (line : String) (n : Nat) : String := ((m.fields line)[n - 1]?).getD ""

/-- The key of a line. -/
def key (m : JoinManner) (isFirst : Bool) (line : String) : String :=
  let key := m.field line (if isFirst then m.firstKey else m.secondKey)
  if m.anyCase then key.toLower else key

/-- The fields of a line but for its key. -/
def others (m : JoinManner) (line : String) (key : Nat) : List String :=
  ((m.fields line).zipIdx.filter fun (_, i) => i + 1 != key).map (·.1)

/-- A line that is written for lines of both files, or of one of them. -/
def row (m : JoinManner) (first second : Option String) : String :=
  let mark := (m.separator.getD ' ').toString
  match m.format with
  | some fields => mark.intercalate (fields.map fun (file, n) =>
      let source := if file = 1 then first else if file = 2 then second else none
      let shown := if file = 0 then (first.map fun l => m.field l m.firstKey).getD
          ((second.map fun l => m.field l m.secondKey).getD "")
        else (source.map fun l => m.field l n).getD ""
      if shown.isEmpty then m.missing else shown)
  | none =>
    let key := (first.map fun l => m.field l m.firstKey).getD ((second.map fun l => m.field l m.secondKey).getD "")
    mark.intercalate (key :: (first.map fun l => m.others l m.firstKey).getD [] ++
      (second.map fun l => m.others l m.secondKey).getD [])

/-- The lines that are written. The fuel bounds the number of lines of both files. -/
def rows (m : JoinManner) : Nat → List String → List String → List String
  | 0, _, _ => []
  | _ + 1, [], [] => []
  | fuel + 1, x :: xs, [] => (if m.unpaired.contains 1 then [m.row (some x) none] else []) ++ rows m fuel xs []
  | fuel + 1, [], y :: ys => (if m.unpaired.contains 2 then [m.row none (some y)] else []) ++ rows m fuel [] ys
  | fuel + 1, x :: xs, y :: ys =>
    let a := m.key true x
    let b := m.key false y
    if a = b then
      let left := (x :: xs).takeWhile fun l => m.key true l == a
      let right := (y :: ys).takeWhile fun l => m.key false l == a
      (if m.paired then left.flatMap fun l => right.map fun r => m.row (some l) (some r) else []) ++
        rows m fuel ((x :: xs).drop left.length) ((y :: ys).drop right.length)
    else if a < b then (if m.unpaired.contains 1 then [m.row (some x) none] else []) ++ rows m fuel xs (y :: ys)
    else (if m.unpaired.contains 2 then [m.row none (some y)] else []) ++ rows m fuel (x :: xs) ys

end JoinManner

/-- A field of a format of `join`. -/
def joinField? (s : String) : Option (Nat × Nat) :=
  match s.splitOn "." with
  | ["0"] => some (0, 0)
  | [file, n] => match decimal? file, decimal? n with
    | some file, some n => if 0 < n && (file = 1 || file = 2) then some (file, n) else none
    | _, _ => none
  | _ => none

/-- `join` brings together the lines of two files that have the same key. -/
def join (call : Call) : Plan :=
  call.read { flags := "iz", valued := "12aejotv", long := [("ignore-case", 'i')] } 1 fun said =>
  let valuesOf (letter : Char) : List Nat :=
    (said.options.filter (·.1 == letter)).filterMap fun o => decimal? o.2
  let keyOf (letter : Char) : Nat := (((said.value? letter).orElse fun _ => said.value? 'j').bind decimal?).getD 1
  let m : JoinManner := {
    separator := (said.value? 't').bind (·.toList.head?), firstKey := keyOf '1', secondKey := keyOf '2'
    unpaired := valuesOf 'a' ++ valuesOf 'v', paired := !said.has 'v'
    format := (said.value? 'o').map fun f =>
      ((String.ofList (f.toList.map fun c => if c == ' ' then ',' else c)).splitOn ",").filterMap joinField?
    missing := (said.value? 'e').getD "", anyCase := said.has 'i' }
  match said.operands with
  | [first, second] => .readPath first fun
    | .error errno => call.fail (clear first ++ ": " ++ errno.sentence) 1
    | .ok one => .readPath second fun
      | .error errno => call.fail (clear second ++ ": " ++ errno.sentence) 1
      | .ok two =>
        let xs := linesOf (Text.ofByteArray one)
        let ys := linesOf (Text.ofByteArray two)
        call.answer (unlines (m.rows (xs.length + ys.length + 1) xs ys)) 0
  | _ :: _ :: extra :: _ => call.extraOperand extra 1
  | _ => call.missingOperand 1

/-! ## `tsort` -/

/-- Puts names in an order in which each stands in front of those that are to follow it, from those on that nothing is
left to stand in front of. The fuel bounds the number of names. -/
def inOrder : Nat → List String → List (String × String) → List String
  | 0, _, _ => []
  | _ + 1, [], _ => []
  | fuel + 1, name :: ready, pairs =>
    let rest := pairs.filter (·.1 != name)
    let followers := ((pairs.filter (·.1 == name)).map (·.2)).reverse
    let free := followers.filter fun n => !rest.any fun p => p.2 == n
    name :: inOrder fuel (ready ++ free) rest

/-- The pairs in a list of words. -/
def pairsOf : List String → List (String × String)
  | a :: b :: rest => (a, b) :: pairsOf rest
  | _ => []

/-- `tsort` puts names in order. -/
def tsort (call : Call) : Plan :=
  call.read {} 1 fun said =>
  let path := said.operands.head?.getD "-"
  .readPath path fun
    | .error errno => call.fail (clear path ++ ": " ++ errno.sentence) 1
    | .ok bytes =>
      let words := ((Text.ofByteArray bytes).map fun c => if isSpace c then ' ' else c).splitOn " " |>.filter (· != "")
      if words.length % 2 = 1 then call.fail (path ++ ": input contains an odd number of tokens") 1
      else
        let pairs := (pairsOf words).filter fun p => p.1 != p.2
        let names := words.eraseDups
        let pairs := pairs.eraseDups
        let first := (names.filter fun n => !pairs.any fun p => p.2 == n).mergeSort
        let ordered := inOrder (names.length + 1) first pairs
        let left := names.filter fun n => !ordered.contains n
        if left.isEmpty then call.answer (unlines ordered) 0
        else call.say (unlines ordered) (call.warn (path ++ ": input contains a loop:")
          (left.foldr (fun n plan => call.warn n plan) (call.answer (unlines left) 1)))

/-! ## `split` -/

/-- The number of a piece in letters or digits. -/
def pieceName (digits : List Char) (width n : Nat) : String :=
  let base := max 1 digits.length
  String.ofList (((List.range width).map fun i => (digits[n / Nat.pow base i % base]?).getD 'a').reverse)

/-- Lists of at most so many in a row. The fuel bounds their number. -/
def piecesOf {α : Type} (size : Nat) : Nat → List α → List (List α)
  | 0, _ => []
  | _ + 1, [] => []
  | fuel + 1, xs => xs.take size :: piecesOf size fuel (xs.drop size)

/-- `split` cuts a text into files. -/
def split (call : Call) : Plan :=
  call.read { flags := "dx", valued := "abln", long := [("lines", 'l'), ("bytes", 'b'), ("suffix-length", 'a'),
    ("numeric-suffixes", 'd'), ("number", 'n')] } 1 fun said =>
  let path := said.operands.head?.getD "-"
  let front := ((said.operands.drop 1).head?).getD "x"
  .readPath path fun
    | .error errno => call.fail ("cannot open " ++ quote path ++ " for reading: " ++ errno.sentence) 1
    | .ok bytes =>
      let text := Text.ofByteArray bytes
      let cutBytes (size : Nat) : List String :=
        (piecesOf (max 1 size) (text.length + 1) text.toList).map String.ofList
      let cutLines (size : Nat) : List String :=
        let lines := wholeLines text
        (piecesOf (max 1 size) (lines.length + 1) lines).map String.join
      let pieces := match said.last? ['b', 'l', 'n'] with
        | some 'b' => cutBytes (((said.value? 'b').bind countOf).getD 1)
        | some 'n' =>
          let count := max 1 (((said.value? 'n').bind decimal?).getD 1)
          (List.range count).map fun i =>
            let start (k : Nat) : Nat := k * text.length / count
            String.ofList ((text.toList.drop (start i)).take (start (i + 1) - start i))
        | _ => cutLines (((said.value? 'l').bind countOf).getD 1000)
      let digits := if said.has 'd' then "0123456789".toList else if said.has 'x' then "0123456789abcdef".toList
        else "abcdefghijklmnopqrstuvwxyz".toList
      let width := ((said.value? 'a').bind decimal?).getD 2
      .withFiles fun space _ =>
        (pieces.zipIdx.foldl (fun tree (piece, i) =>
          (Files.writeBytes tree space.cwd (Text.ofOctets (front ++ pieceName digits width i))
            (Text.toByteArray piece)).toOption.getD tree) space.tree, .done 0)

/-! ## `expand` and `factor` -/

/-- A text without tabs; it is known in which column it starts. -/
def withoutTabs (width : Nat) : Nat → List Char → List Char
  | _, [] => []
  | column, '\t' :: rest =>
    let gap := width - column % width
    List.replicate gap ' ' ++ withoutTabs width (column + gap) rest
  | _, '\n' :: rest => '\n' :: withoutTabs width 0 rest
  | column, c :: rest => c :: withoutTabs width (column + 1) rest

/-- `expand` replaces tabs by blanks. -/
def expand (call : Call) : Plan :=
  call.read { flags := "i", valued := "t", long := [("tabs", 't'), ("initial", 'i')] } 1 fun said =>
  let width := max 1 (((said.value? 't').bind decimal?).getD 8)
  allFiles call plainReading said.operands fun files status =>
    call.answer (String.join (files.map fun f => String.ofList (withoutTabs width 0 f.2.toList))) status

/-- The prime factors of a number, from a candidate on; the fuel bounds the number of candidates. -/
def factorsFrom : Nat → Nat → Nat → List Nat
  | 0, _, n => if n < 2 then [] else [n]
  | fuel + 1, candidate, n =>
    if n < 2 then []
    else if n < candidate * candidate then [n]
    else if n % candidate = 0 then candidate :: factorsFrom fuel candidate (n / candidate)
    else factorsFrom fuel (if candidate = 2 then 3 else candidate + 2) n

/-- How many candidates are tried. -/
def factorLimit : Nat := 3000000

/-- Writes the factors of numbers. -/
def factorEach (call : Call) : List String → Nat → Plan
  | [], status => .done status
  | word :: words, status => match decimal? word with
    | some n => call.say (toString n ++ ":" ++ String.join ((factorsFrom factorLimit 2 n).map fun p => " " ++ toString p) ++ "\n")
        (factorEach call words status)
    | none => call.warn (quote word ++ " is not a valid positive integer") (factorEach call words 1)

/-- `factor` takes numbers apart into primes. -/
def factor (call : Call) : Plan :=
  call.read { flags := "h" } 1 fun said =>
  if !said.operands.isEmpty then factorEach call said.operands 0
  else .readAll 0 fun
    | .error _ => .done 1
    | .ok bytes =>
      factorEach call (((Text.ofByteArray bytes).map fun c => if isSpace c then ' ' else c).splitOn " " |>.filter (· != "")) 0

/-- `link` gives a file another name. -/
def link (call : Call) : Plan :=
  call.read {} 1 fun said =>
  match said.operands with
  | [_, _] => ln { call with args := "-T" :: said.operands }
  | _ :: _ :: extra :: _ => call.extraOperand extra 1
  | _ => call.missingOperand 1

end BatchRunner.Machine.Tool
