import BatchRunner.Files.Lookup
import BatchRunner.Machine.Tool.Folder

/-!
# Programs that list files

`ls` and `which`.
-/

namespace BatchRunner.Machine.Tool

/-! ## `ls` -/

/-- How `ls` lists. -/
structure ListManner where
  all : Bool
  almostAll : Bool
  long : Bool
  deep : Bool
  reversed : Bool
  bySize : Bool
  unsorted : Bool
  /-- Shows kinds behind names: of all things, or only of directories. -/
  classify : Bool
  slashes : Bool
  columns : Bool
  commas : Bool
  quoted : Bool

/-- Something that is listed. -/
structure Listed where
  name : String
  entry : Files.Entry
  deriving Inhabited

/-- A name as it is listed. -/
def ListManner.show (manner : ListManner) (listed : Listed) : String :=
  let name := if manner.quoted then "\"" ++ listed.name ++ "\"" else listed.name
  let mark := match listed.entry with
    | .directory => if manner.classify || manner.slashes then "/" else ""
    | .link _ => if manner.classify && !manner.long then "@" else ""
    | entry => if manner.classify && entry.isExecutable then "*" else ""
  name ++ mark

/-- Puts what is listed in order. -/
def ListManner.sort (manner : ListManner) (items : List Listed) : List Listed :=
  let byName (a b : Listed) : Bool := a.name ≤ b.name
  let bySize (a b : Listed) : Bool := sizeOf b.entry < sizeOf a.entry || (sizeOf a.entry = sizeOf b.entry && byName a b)
  let sorted := if manner.unsorted then items else items.mergeSort (if manner.bySize then bySize else byName)
  if manner.reversed then sorted.reverse else sorted

/-- Names in columns on lines of a width. -/
def inColumns (names : List String) : String :=
  let width : Nat := 80
  let count := names.length
  let columnsFor (rows : Nat) : List (List String) :=
    (List.range ((count + rows - 1) / max 1 rows)).map fun i => (names.drop (i * rows)).take rows
  let widthOf (columns : List (List String)) : Nat :=
    (columns.map fun c => (c.map String.length).foldl max 0 + 2).foldl (· + ·) 0
  let rows := ((List.range count).map (· + 1)).find? (fun r => widthOf (columnsFor r) ≤ width + 2) |>.getD count
  let columns := columnsFor rows
  let widths := columns.map fun c => (c.map String.length).foldl max 0 + 2
  String.join ((List.range rows).map fun r =>
    let cells := (columns.zip widths).filterMap fun (column, w) => (column[r]?).map (·, w)
    let last := cells.length - 1
    String.join (cells.zipIdx.map fun ((name, w), i) =>
      if i = last then name else name ++ String.ofList (List.replicate (w - name.length) ' ')) ++ "\n")

/-- What is listed, as text. -/
def ListManner.render (manner : ListManner) (items : List Listed) : String :=
  let names := items.map manner.show
  if manner.long then
    let width := (items.map fun i => (toString (sizeOf i.entry)).length).foldl max 1
    String.join (items.map fun i =>
      let target := match i.entry with
        | .link target => " -> " ++ Text.octets target
        | _ => ""
      (kindLetter i.entry).toString ++ modeLetters (modeOf i.entry) ++ " 1 root root " ++
        (String.ofList (List.replicate (width - (toString (sizeOf i.entry)).length) ' ') ++
          toString (sizeOf i.entry)) ++ " Jan  1 00:00 " ++ manner.show i ++ target ++ "\n")
  else if manner.commas then (if names.isEmpty then "" else ", ".intercalate names ++ "\n")
  else if manner.columns then inColumns names
  else String.join (names.map (· ++ "\n"))

/-- What is in a directory and is to be listed. -/
def ListManner.contents (manner : ListManner) (tree : Files.Tree) (place : Files.Path) : List Listed :=
  let found := (tree.children place).map fun (name, entry) => Listed.mk (Text.octets name) entry
  let shown := found.filter fun l => manner.all || manner.almostAll || !l.name.startsWith "."
  let points := if manner.all then [Listed.mk "." .directory, Listed.mk ".." .directory] else []
  manner.sort (points ++ shown)

/-- The lines in front of what a long list of a directory shows. -/
def ListManner.total (manner : ListManner) (items : List Listed) : String :=
  if !manner.long then ""
  else "total " ++ toString ((items.map fun i => (sizeOf i.entry + 4095) / 4096 * 4).foldl (· + ·) 0) ++ "\n"

/-- Lists a directory, and those below it if it is asked for: a text for each. The fuel bounds the depth. -/
def ListManner.walk (manner : ListManner) (tree : Files.Tree) : Nat → String → Files.Path → List (String × String)
  | 0, _, _ => []
  | depth + 1, path, place =>
    let items := manner.contents tree place
    let here := (path, manner.total items ++ manner.render items)
    let inner := items.filter fun i => i.entry.isDirectory && i.name != "." && i.name != ".."
    if !manner.deep then [here]
    else here :: inner.flatMap fun i =>
      walk manner tree depth (Files.join path i.name) (place ++ [Text.ofOctets i.name])

/-- `ls` lists files and directories. -/
def ls (call : Call) : Plan :=
  call.read { flags := "aA1dFpRrStlhCxmfgGiknNoqQsuUvXZcbBH", valued := "ITw", long := [("all", 'a'),
    ("almost-all", 'A'), ("directory", 'd'), ("classify", 'F'), ("recursive", 'R'), ("reverse", 'r'),
    ("human-readable", 'h'), ("quote-name", 'Q'), ("color", 'q')] } 2 fun said =>
  let layout := said.last? ['1', 'C', 'x', 'm', 'l']
  let manner : ListManner := {
    all := said.has 'a' || said.has 'f', almostAll := said.has 'A'
    long := layout == some 'l' || said.has 'g' || said.has 'o' || said.has 'n', deep := said.has 'R'
    reversed := said.has 'r', bySize := said.has 'S', unsorted := said.has 'U' || said.has 'f'
    classify := said.has 'F', slashes := said.has 'p', columns := layout == some 'C' || layout == some 'x'
    commas := layout == some 'm', quoted := said.has 'Q' }
  .withFiles fun space _ =>
    let operands := if said.operands.isEmpty then ["."] else said.operands
    let keepLinks := said.has 'd' || manner.long || manner.classify
    let look (path : String) : Except Os.Errno (Files.Path × Files.Entry) := do
      let (place, entry) ← placeAt space.tree space.cwd path
      match entry with
      | none => throw Os.Errno.noEntry
      | some (.link target) =>
        match if keepLinks then .error Os.Errno.noEntry else Files.resolve space.tree space.cwd (Text.ofOctets path) with
        | .ok behind => match space.tree.at? behind with
          | some entry => return (behind, entry)
          | none => return (place, .link target)
        | .error _ => return (place, .link target)
      | some entry => return (place, entry)
    let looked := operands.map fun path => (path, look path)
    let missing := looked.filterMap fun (path, found) => match found with
      | .error errno => some ("cannot access " ++ quote path ++ ": " ++ errno.sentence)
      | .ok _ => none
    let found := looked.filterMap fun (path, found) => match found with
      | .ok (place, entry) => some (Listed.mk path entry, place)
      | .error _ => none
    let isOpened (l : Listed × Files.Path) : Bool := l.1.entry.isDirectory && !said.has 'd'
    let files := manner.sort ((found.filter fun l => !isOpened l).map (·.1))
    let directories := manner.sort ((found.filter isOpened).map (·.1))
    let texts := directories.flatMap fun d =>
      let place := ((found.find? fun l => l.1.name == d.name).map (·.2)).getD []
      manner.walk space.tree depthLimit d.name place
    let titled := 1 < operands.length || manner.deep
    let parts := (if files.isEmpty then [] else [manner.render files]) ++
      texts.map fun (path, text) => if titled then path ++ ":\n" ++ text else text
    (space.tree, missing.foldr (fun text plan => call.warn text plan)
      (call.answer ("\n".intercalate parts) (if missing.isEmpty then 0 else 2)))

/-! ## `which` -/

/-- `which` tells where programs are. -/
def which (call : Call) : Plan :=
  let all := call.args.contains "-a"
  let names := call.args.filter fun a => !a.startsWith "-"
  .withFiles fun space _ =>
    let places (name : String) : List String :=
      let tries := if name.toList.contains '/' then [name]
        else (((call.setting.vars.lookup "PATH").getD "").splitOn ":").map fun d =>
          Files.join (if d == "" then "." else d) name
      let hits := tries.filter fun path => Files.isProgram space.tree space.cwd (Text.ofOctets path)
      if all then hits else hits.take 1
    let told := names.map places
    (space.tree, call.answer (unlines told.flatten) (if names.isEmpty || told.any (·.isEmpty) then 1 else 0))

end BatchRunner.Machine.Tool
