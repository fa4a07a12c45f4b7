import BatchRunner.Machine.Tool.Lines

/-!
# Comparing files

`cmp` finds the first byte in which two files differ, and `diff` the fewest lines that have to be taken away and added
to turn one into the other.
-/

namespace BatchRunner.Machine.Tool

/-- Goes on with the contents of two files; or with what is wrong with them, for each that cannot be read. -/
def readBoth (call : Call) (first second : String) (next : String → String → Plan) : Plan :=
  .readPath first fun
    | .error errno => .readPath second fun
      | .error other => call.warn (first ++ ": " ++ errno.sentence) (call.fail (second ++ ": " ++ other.sentence) 2)
      | .ok _ => call.fail (first ++ ": " ++ errno.sentence) 2
    | .ok one => .readPath second fun
      | .error errno => call.fail (second ++ ": " ++ errno.sentence) 2
      | .ok two => next (Text.ofByteArray one) (Text.ofByteArray two)

/-- What is said of wrong arguments. -/
def Call.misuseComparison (call : Call) (text : String) : Plan :=
  call.warn text (call.fail ("Try '" ++ call.name ++ " --help' for more information.") 2)

/-- Goes on with what the arguments of a comparison say. -/
def Call.readComparison (call : Call) (options : Options) (next : Said → Plan) : Plan :=
  match readArguments options call.args {} with
  | .ok said => next said
  | .error text => call.misuseComparison text

/-- What is said if a file to compare is missing. -/
def Call.missingFile (call : Call) : Plan :=
  call.misuseComparison ("missing operand after '" ++ (call.args.getLast?).getD call.name ++ "'")

/-! ## `cmp` -/

/-- The places where two texts differ, as far as both go, with the characters there. -/
def differences (first second : List Char) : List (Nat × Char × Char) :=
  ((first.zip second).zipIdx.filter fun ((a, b), _) => a != b).map fun ((a, b), i) => (i, a, b)

/-- A number in octal, in a column of its own. -/
def octalColumn (c : Char) : String :=
  let digits := Nat.toDigits 8 c.toNat
  String.ofList (List.replicate (3 - digits.length) ' ' ++ digits)

/-- `cmp` compares two files byte by byte. -/
def cmp (call : Call) : Plan :=
  call.readComparison { flags := "sl", valued := "n", long := [("silent", 's'), ("quiet", 's'), ("verbose", 'l'),
    ("bytes", 'n')] } fun said =>
  match said.operands with
  | [] => call.missingFile
  | first :: rest =>
    let second := rest.head?.getD "-"
    readBoth call first second fun one two =>
      let count := (said.value? 'n').bind decimal?
      let a := (count.elim one.toList one.toList.take)
      let b := (count.elim two.toList two.toList.take)
      let found := differences a b
      let shorter := min a.length b.length
      let ended : Option String :=
        if a.length = b.length then none
        else
          let name := if a.length < b.length then first else second
          let common := a.take shorter
          let lines := (common.filter (· == '\n')).length
          let inside := if common.getLast? == some '\n' then ", line " ++ toString lines
            else ", in line " ++ toString (lines + 1)
          some ("EOF on " ++ name ++ (if shorter = 0 then " which is empty"
            else " after byte " ++ toString shorter ++ (if said.has 'l' then "" else inside)))
      let finish (plan : Plan) : Plan := match ended with
        | none => plan
        | some text => if said.has 's' then .done 1 else call.fail text 1
      if said.has 'l' then
        let width := (toString shorter).length
        call.say (String.join (found.map fun (i, x, y) =>
          padded width (i + 1) ++ " " ++ octalColumn x ++ " " ++ octalColumn y ++ "\n"))
          (finish (.done (if found.isEmpty then 0 else 1)))
      else match found with
        | [] => finish (.done 0)
        | (i, _, _) :: _ =>
          if said.has 's' then .done 1
          else
            let line := ((a.take i).filter (· == '\n')).length + 1
            call.answer (first ++ " " ++ second ++ " differ: char " ++ toString (i + 1) ++ ", line " ++
              toString line ++ "\n") 1

/-! ## `diff` -/

/-- The lengths of the longest common sequences of a list, behind a first element, and the ends of another; the first
is that with the whole of the other. -/
def commonRow (same : String → String → Bool) (x : String) : List String → List Nat → List Nat
  | [], _ => [0]
  | y :: ys, below =>
    let row := commonRow same x ys below.tail
    let here := if same x y then below.tail.headD 0 + 1 else max (below.headD 0) (row.headD 0)
    here :: row

/-- The lengths of the longest common sequences of the ends of two lists. -/
def commonTable (same : String → String → Bool) (ys : List String) : List String → List (List Nat)
  | [] => [List.replicate (ys.length + 1) 0]
  | x :: xs =>
    let below := commonTable same ys xs
    commonRow same x ys (below.headD []) :: below

/-- A step from one list of lines to another. -/
inductive Step where
  | keep
  | remove
  | insert
  deriving DecidableEq, Repr, Inhabited

/-- The fewest steps from one list to another. -/
def stepsBetween (same : String → String → Bool) : List String → List String → List (List Nat) → List Step
  | [], ys, _ => ys.map fun _ => .insert
  | xs, [], _ => xs.map fun _ => .remove
  | x :: xs, y :: ys, table =>
    if same x y then .keep :: stepsBetween same xs ys (table.tail.map List.tail)
    else
      let lower := ((table.tail.headD []).headD 0)
      let right := ((table.headD []).tail.headD 0)
      if right ≤ lower then .remove :: stepsBetween same xs (y :: ys) table.tail
      else .insert :: stepsBetween same (x :: xs) ys (table.map List.tail)
  termination_by xs ys => xs.length + ys.length

/-- A change: the lines in front of it in both files, and those that are taken away and added. -/
structure Change where
  before : Nat
  beforeNew : Nat
  removed : List String
  added : List String
  deriving Inhabited

/-- The changes that steps make. -/
def changesOf : List Step → List String → List String → Nat → Nat → Option Change → List Change
  | [], _, _, _, _, current => current.toList
  | .keep :: steps, xs, ys, i, j, current => current.toList ++ changesOf steps xs.tail ys.tail (i + 1) (j + 1) none
  | .remove :: steps, xs, ys, i, j, current =>
    let c := current.getD ⟨i, j, [], []⟩
    changesOf steps xs.tail ys (i + 1) j (some { c with removed := c.removed ++ xs.head?.toList })
  | .insert :: steps, xs, ys, i, j, current =>
    let c := current.getD ⟨i, j, [], []⟩
    changesOf steps xs ys.tail i (j + 1) (some { c with added := c.added ++ ys.head?.toList })

/-- The numbers of lines, behind those in front of them. -/
def lineNumbers (before count : Nat) : String :=
  if count = 0 then toString before
  else if count = 1 then toString (before + 1)
  else toString (before + 1) ++ "," ++ toString (before + count)

/-- A line behind a mark; one without an end is said to have none. -/
def markedLine (mark : String) (line : String) : String :=
  mark ++ line ++ (if line.endsWith "\n" then "" else "\n\\ No newline at end of file\n")

/-- A change, as it is shown. -/
def Change.render (c : Change) : String :=
  let letter := if c.removed.isEmpty then "a" else if c.added.isEmpty then "d" else "c"
  lineNumbers c.before c.removed.length ++ letter ++ lineNumbers c.beforeNew c.added.length ++ "\n" ++
    String.join (c.removed.map (markedLine "< ")) ++
    (if !c.removed.isEmpty && !c.added.isEmpty then "---\n" else "") ++
    String.join (c.added.map (markedLine "> "))

/-- How many lines two lists have in common at their front. -/
def commonFront (same : String → String → Bool) : List String → List String → Nat
  | x :: xs, y :: ys => if same x y then commonFront same xs ys + 1 else 0
  | _, _ => 0

/-- The changes from one text to another. -/
def changesBetween (same : String → String → Bool) (one two : String) : List Change :=
  let xs := wholeLines one
  let ys := wholeLines two
  let front := commonFront same xs ys
  let xs' := xs.drop front
  let ys' := ys.drop front
  let back := commonFront same xs'.reverse ys'.reverse
  let a := xs'.take (xs'.length - back)
  let b := ys'.take (ys'.length - back)
  changesOf (stepsBetween same a b (commonTable same b a)) a b front front none

/-- A line as it counts in a comparison. -/
def comparedLine (anyCase noSpace anySpace : Bool) (line : String) : String :=
  let line := if anyCase then line.toLower else line
  if noSpace then String.ofList (line.toList.filter fun c => !isSpace c)
  else if anySpace then
    " ".intercalate ((String.ofList (line.toList.map fun c => if isSpace c then ' ' else c)).splitOn " " |>.filter (· != ""))
  else line

/-- `diff` shows which lines of two files differ. -/
def diff (call : Call) : Plan :=
  call.readComparison { flags := "qsiwbaN", long := [("brief", 'q'), ("report-identical-files", 's'), ("ignore-case", 'i'),
    ("ignore-all-space", 'w'), ("ignore-space-change", 'b'), ("text", 'a'), ("new-file", 'N')] } fun said =>
  match said.operands with
  | [first, second] => readBoth call first second fun one two =>
    let compared := comparedLine (said.has 'i') (said.has 'w') (said.has 'b')
    let changes := changesBetween (fun a b => a == b || compared a == compared b) one two
    if changes.isEmpty then
      if said.has 's' then call.answer ("Files " ++ first ++ " and " ++ second ++ " are identical\n") 0 else .done 0
    else if said.has 'q' then call.answer ("Files " ++ first ++ " and " ++ second ++ " differ\n") 1
    else call.answer (String.join (changes.map Change.render)) 1
  | _ :: _ :: extra :: _ => call.misuseComparison ("extra operand '" ++ extra ++ "'")
  | _ => call.missingFile

end BatchRunner.Machine.Tool
