import BatchRunner.Machine.Shell.Pattern
import BatchRunner.Machine.Tool.Feed
import BatchRunner.Machine.Tool.Folder
import BatchRunner.Text.Regex

/-!
# Searching in files

`grep` selects the lines in which one of some regular expressions matches, and shows them, counts them, or names the
files that have such lines.
-/

namespace BatchRunner.Machine.Tool

/-- What is searched for, and what is shown of it. -/
structure Search where
  regexes : List Text.Regex
  anyCase : Bool
  /-- Whether only whole words count as matches. -/
  words : Bool
  /-- Whether only whole lines count as matches. -/
  whole : Bool
  inverted : Bool
  counted : Bool
  /-- Whether the names of files are shown: of those with a selected line, or of those without. -/
  listed : Option Bool
  quiet : Bool
  silent : Bool
  numbered : Bool
  located : Bool
  matchesOnly : Bool
  named : Bool
  most : Option Nat
  before : Nat
  after : Nat
  lineEnd : Char
  asText : Bool
  deriving Inhabited

namespace Search

/-- Whether a match may start and end at these places. -/
def allows (search : Search) (subject : Text.Regex.Subject) (first last : Nat) : Bool :=
  (!search.whole || (first == 0 && last == subject.chars.size)) &&
    (!search.words || !(Text.Regex.Subject.isWord (subject.before? first) ||
      Text.Regex.Subject.isWord (subject.char? last)))

/-- The first match from a place on; of several that start there, the longest. -/
def find (search : Search) (subject : Text.Regex.Subject) (start : Nat) : Option Text.Regex.Match :=
  search.regexes.foldl (fun best regex =>
    match best, regex.findWhere subject (search.allows subject) start with
    | none, found => found
    | some b, some m => if m.first < b.first || (m.first == b.first && b.last < m.last) then some m else some b
    | best, none => best) none

/-- A line as the text in which matches are sought. -/
def subjectOf (search : Search) (line : String) : Text.Regex.Subject :=
  { chars := line.toList.toArray, anyCase := search.anyCase, manyLines := search.lineEnd != '\n' }

/-- Whether a line is selected. -/
def selects (search : Search) (line : String) : Bool :=
  (search.find (search.subjectOf line) 0).isSome != search.inverted

/-- The matches in a line that are not empty, from a place on. The fuel bounds their number. -/
def allMatches (search : Search) (subject : Text.Regex.Subject) : Nat → Nat → List Text.Regex.Match
  | 0, _ => []
  | fuel + 1, start => match search.find subject start with
    | none => []
    | some m =>
      if m.first = m.last then
        if m.last < subject.chars.size then allMatches search subject fuel (m.last + 1) else []
      else m :: allMatches search subject fuel m.last

/-- What has come of the search in a file so far. -/
structure Progress where
  /-- The number of the last line. -/
  line : Nat := 0
  /-- Where the next line starts. -/
  offset : Nat := 0
  selected : Nat := 0
  /-- The last lines in front that were not shown, the last one first, with their numbers and places. -/
  recent : List (Nat × Nat × String) := []
  /-- How many lines behind a selected one are still to be shown. -/
  owed : Nat := 0
  /-- The number of the last line that was shown. -/
  shown : Option Nat := none
  isBinary : Bool := false
  deriving Inhabited

/-- What stands in front of a line that is shown. -/
def lead (search : Search) (path : String) (mark : Char) (line offset : Nat) : String :=
  (if search.named then path ++ mark.toString else "") ++
    (if search.numbered then toString line ++ mark.toString else "") ++
    (if search.located then toString offset ++ mark.toString else "")

/-- The line that marks a gap in front of a line that is shown. -/
def gap (search : Search) (last : Option Nat) (isFirst : Bool) (line : Nat) : String :=
  if (0 < search.before || 0 < search.after) && !isFirst && last != some (line - 1) then "--\n" else ""

/-- A line around the selected ones, as it is shown. -/
def contextLine (search : Search) (path : String) (line offset : Nat) (text : String) : String :=
  if search.matchesOnly then "" else search.lead path '-' line offset ++ text ++ search.lineEnd.toString

/-- The matches of a line, each on a line of its own. -/
def matchLines (search : Search) (path : String) (line offset : Nat) (text : String) : String :=
  if search.inverted then ""
  else
    let subject := search.subjectOf text
    String.join ((search.allMatches subject (text.length + 1) 0).map fun m =>
      search.lead path ':' line (offset + m.first) ++
        String.ofList (subject.chars.extract m.first m.last).toList ++ search.lineEnd.toString)

/-- What is written for a selected line, with the lines in front that go with it. -/
def selection (search : Search) (path : String) (p : Progress) (isFirst : Bool) (text : String) : String :=
  let front := p.recent.reverse
  let first := (front.head?.map (·.1)).getD p.line
  search.gap p.shown isFirst first ++
    String.join (front.map fun (line, offset, text) => search.contextLine path line offset text) ++
    (if search.matchesOnly then search.matchLines path p.line p.offset text
    else search.lead path ':' p.line p.offset ++ text ++ search.lineEnd.toString)

/-- Whether lines are shown at all. -/
def showsLines (search : Search) : Bool := !search.counted && search.listed.isNone && !search.quiet

/-- Whether the search in a file is over once a line is selected. -/
def isDone (search : Search) (p : Progress) : Bool :=
  0 < p.selected && (search.quiet || search.listed.isSome || (p.isBinary && !search.counted)) ||
    search.most.any (· ≤ p.selected)

/-- Takes up a line: what has come of the search, and what is written. Whether nothing was shown yet matters for the
gaps between lines. -/
def step (search : Search) (path : String) (isFirst : Bool) (p : Progress) (text : String) : Progress × String :=
  let p := { p with line := p.line + 1 }
  let offset := p.offset + text.length + 1
  let shows := search.showsLines && !p.isBinary
  if search.selects text then
    ({ p with selected := p.selected + 1, offset, recent := [], owed := search.after
              shown := if shows then some p.line else p.shown },
      if shows then search.selection path p isFirst text else "")
  else if 0 < p.owed && shows then
    ({ p with owed := p.owed - 1, offset, shown := some p.line }, search.contextLine path p.line p.offset text)
  else ({ p with offset, recent := ((p.line, p.offset, text) :: p.recent).take search.before }, "")

/-- Takes up a line behind the last one that may be selected: it can only be shown for that one. -/
def followUp (search : Search) (path : String) (p : Progress) (text : String) : Progress × String :=
  let p := { p with line := p.line + 1 }
  ({ p with owed := p.owed - 1, offset := p.offset + text.length + 1, shown := some p.line },
    search.contextLine path p.line p.offset text)

/-- What is said of a file when the search in it is over. -/
def summary (search : Search) (path : String) (p : Progress) : String :=
  if search.counted && search.listed.isNone && !search.quiet then
    (if search.named then path ++ ":" else "") ++ toString p.selected ++ "\n"
  else if search.listed = some (0 < p.selected : Bool) && !search.quiet then path ++ "\n"
  else ""

end Search

/-! ## Files -/

/-- A file in which is searched: how it is named, and whether it may be that it is a directory that is passed over. -/
structure Place where
  path : String
  shown : String
  deriving Inhabited

/-- What has come of the search in all files: whether a line was selected, whether something went wrong, and whether
something was shown. -/
structure Search.Outcome where
  found : Bool := false
  failed : Bool := false
  wrote : Bool := false

/-- The status with which a search ends. -/
def Search.Outcome.status (o : Search.Outcome) : Nat := if o.failed then 2 else if o.found then 0 else 1

/-- Leaves a descriptor in which nothing more is sought: of standard input, what is behind the last line that was
selected is given back if only so many lines are wanted, and passed over if not. -/
def leaveFeed (search : Search) (p : Search.Progress) (feed : Feed) (behind : Nat) (next : Plan) : Plan :=
  if feed.fd != 0 || search.quiet then next
  else if search.most.any (· ≤ p.selected) then
    if 0 < feed.kept + behind then .unread feed.fd (feed.kept + behind) next else next
  else .readAll feed.fd fun _ => next

/-- Searches in a descriptor, and goes on with what has come of it. The fuel bounds the number of lines. -/
def searchLines (call : Call) (search : Search) (place : Place)
    (next : Search.Progress → Bool → Bool → Gathered → Plan) :
    Nat → Feed → Search.Progress → Bool → Nat → Gathered → Plan
  | 0, _, p, wrote, _, out => next p false wrote out
  | fuel + 1, feed, p, wrote, behind, out =>
    if search.isDone p && (p.owed = 0 || !search.showsLines || p.isBinary) then
      leaveFeed search p feed behind (next p false wrote out)
    else feed.next
      (fun line _ feed =>
        let isFollowUp := search.isDone p
        let p := { p with isBinary := p.isBinary || (feed.endsAtZero && feed.hasZero) }
        let (p, written) := if isFollowUp then search.followUp place.shown p line
          else search.step place.shown (!wrote) p line
        call.pour (out.add written) fun out =>
          searchLines call search place next fuel feed p (wrote || !written.isEmpty)
            (if isFollowUp then behind + line.length + 1 else 0) out)
      (fun
        | none => leaveFeed search p feed behind (next p false wrote out)
        | some errno =>
          if search.silent then next p true wrote out
          else call.flush out (call.warn (place.shown ++ ": " ++ errno.sentence) (next p true wrote {})))

/-- Searches in files one after the other. -/
def searchFiles (call : Call) (search : Search) : List Place → Search.Outcome → Gathered → Plan
  | [], outcome, out => call.flush out (.done outcome.status)
  | place :: places, outcome, out =>
    let scan (fd : Fd) (close : Plan → Plan) : Plan :=
      searchLines call search place (fun p failed wrote out =>
        let outcome : Search.Outcome := { found := outcome.found || 0 < p.selected, failed := outcome.failed || failed, wrote }
        if search.quiet && 0 < p.selected then .done 0
        else
          let out := if failed then out else out.add (search.summary place.shown p)
          let goOn (out : Gathered) : Plan := close (searchFiles call search places outcome out)
          if p.isBinary && 0 < p.selected && search.showsLines then
            call.flush out (call.warn (place.shown ++ ": binary file matches") (goOn {}))
          else goOn out)
        Plan.blockLimit
        { fd, lineEnd := search.lineEnd, endsAtZero := !search.asText && search.lineEnd != '\x00' } {}
        outcome.wrote 0 out
    if place.path = "-" then scan 0 fun plan => plan
    else .openFile place.path fun
      | .error errno =>
        let outcome := { outcome with failed := true }
        if search.silent then searchFiles call search places outcome out
        else call.flush out (call.warn (place.shown ++ ": " ++ errno.sentence)
          (searchFiles call search places outcome {}))
      | .ok fd => scan fd (.close fd)

/-- The files below a directory whose names are wanted. The fuel bounds the depth. -/
def filesBelow (tree : Files.Tree) (wanted : String → Bool) : Nat → String → Files.Path → List String
  | 0, _, _ => []
  | depth + 1, path, place => (tree.children place).flatMap fun (name, entry) =>
    let inner := if path.isEmpty then Text.octets name else Files.join path (Text.octets name)
    match entry with
    | .directory => filesBelow tree wanted depth inner (place ++ [name])
    | .link _ => []
    | _ => if wanted (Text.octets name) then [inner] else []

/-! ## The command line -/

/-- The options of `grep`. -/
def searchOptions : Options where
  flags := "ivwxcnbqslLoHhrREFGPaUzyITZ<>"
  valued := "efmABC+,dD"
  long := [("ignore-case", 'i'), ("invert-match", 'v'), ("word-regexp", 'w'), ("line-regexp", 'x'), ("count", 'c'),
    ("line-number", 'n'), ("byte-offset", 'b'), ("quiet", 'q'), ("silent", 'q'), ("no-messages", 's'),
    ("files-with-matches", 'l'), ("files-without-match", 'L'), ("only-matching", 'o'), ("with-filename", 'H'),
    ("no-filename", 'h'), ("recursive", 'r'), ("dereference-recursive", 'R'), ("extended-regexp", 'E'),
    ("fixed-strings", 'F'), ("basic-regexp", 'G'), ("perl-regexp", 'P'), ("text", 'a'), ("null-data", 'z'),
    ("regexp", 'e'), ("file", 'f'), ("max-count", 'm'), ("after-context", 'A'), ("before-context", 'B'),
    ("context", 'C'), ("color", '<'), ("colour", '<'), ("line-buffered", '>'), ("include", '+'), ("exclude", ','),
    ("directories", 'd'), ("devices", 'D')]

/-- Whether an argument holds options of which the last one has its value in the next argument. -/
def wantsValue (options : Options) (cs : List Char) : Bool :=
  match cs with
  | '-' :: letters => letters.head? != some '-' &&
    (letters.dropWhile fun c => !options.valued.toList.contains c).length == 1
  | _ => false

/-- Arguments in which a number with a hyphen counts as a number of lines around the selected ones. -/
def withContextNumber : Bool → List String → List String
  | _, [] => []
  | true, a :: rest => a :: withContextNumber false rest
  | false, "--" :: rest => "--" :: rest
  | false, a :: rest => match a.toList with
    | '-' :: c :: cs =>
      if (c :: cs).all Char.isDigit then "-C" :: String.ofList (c :: cs) :: withContextNumber false rest
      else a :: withContextNumber (wantsValue searchOptions a.toList) rest
    | _ => a :: withContextNumber false rest

/-- The status of a search that went wrong. -/
def searchTrouble : Nat := 2

/-- What is said of wrong arguments. -/
def Call.misuseSearch (call : Call) (text : Option String) : Plan :=
  let rest : Plan := .complain ("Usage: grep [OPTION]... PATTERNS [FILE]...\n" ++ call.advice) (.done searchTrouble)
  match text with
  | none => rest
  | some text => call.warn text rest

/-- Goes on with the number that an option gives. -/
def Call.withCount (call : Call) (said : Said) (letters : List Char) (fault : String → String)
    (next : Option Nat → Plan) : Plan :=
  match said.options.reverse.find? fun o => letters.contains o.1 with
  | none => next none
  | some (_, text) => match decimal? text with
    | some n => next (some n)
    | none => call.fail (fault text) searchTrouble

/-- Goes on with the patterns that the files of an option hold, line by line. -/
def patternsFrom (call : Call) (next : List String → Plan) : List String → List String → Plan
  | [], done => next done
  | path :: paths, done => .readPath path fun
    | .error errno => call.fail (path ++ ": " ++ errno.sentence) searchTrouble
    | .ok bytes => patternsFrom call next paths (done ++ linesOf (Text.ofByteArray bytes))

/-- What an expression starts with that repeats nothing. -/
def warningOf (sign : Char) : String :=
  "warning: " ++ (if sign == '\x7b' then "\x7b...\x7d" else sign.toString) ++ " at start of expression"

/-- Reads the patterns, with a warning for what is read but makes no sense. -/
def readPatterns (call : Call) (form : Text.Regex.Form) (next : List Text.Regex → Plan) :
    List String → List Text.Regex → Plan
  | [], done => next done.reverse
  | pattern :: patterns, done => match Text.Regex.ofText ⟨form, false⟩ pattern with
    | .error fault => call.fail fault.message searchTrouble
    | .ok regex =>
      let rest := readPatterns call form next patterns (regex :: done)
      match form, Text.Regex.ofText ⟨form, true⟩ pattern with
      | .extended, .error (.nothingRepeated sign) => call.warn (warningOf sign) rest
      | _, _ => rest

/-- The files in which is searched, and whether their names are shown. -/
def searchPlaces (call : Call) (said : Said) (operands : List String) (tree : Files.Tree) : List Place × Bool :=
  let isDeep := said.has 'r' || said.has 'R'
  let fits (name pattern : String) : Bool :=
    Shell.patternMatches (Shell.pattern (pattern.toList.map (·, false))) name.toList
  let valuesOf (letter : Char) : List String := (said.options.filter (·.1 == letter)).map (·.2)
  let wanted (name : String) : Bool :=
    ((valuesOf '+').isEmpty || (valuesOf '+').any (fits name)) && !(valuesOf ',').any (fits name)
  let cwd := call.setting.cwd
  let isDirectory (path : String) : Bool := match entryAt tree cwd path with
    | .ok entry => entry.isDirectory
    | .error _ => false
  let below (path : String) : List Place := match Files.resolve tree cwd (Text.ofOctets path) with
    | .ok place => (filesBelow tree wanted depthLimit path place).map fun p => ⟨p, p⟩
    | .error _ => []
  let shownOf (path : String) : Place := ⟨path, if path = "-" then "(standard input)" else path⟩
  let operands' := if operands.isEmpty then (if isDeep then [""] else ["-"]) else operands
  let places := operands'.flatMap fun path =>
    if path.isEmpty && operands.isEmpty then
      (filesBelow tree wanted depthLimit "" cwd).map fun p => ⟨p, p⟩
    else if path != "-" && isDirectory path then
      (if isDeep then below path
      else if said.value? 'd' == some "skip" then [] else [shownOf path])
    else [shownOf path]
  let many := 1 < operands'.length || (isDeep && operands'.any fun p => p.isEmpty || isDirectory p)
  let named := match said.last? ['H', 'h'] with
    | some 'H' => true
    | some _ => false
    | none => many
  (places, named)

/-- `grep` selects lines in which an expression matches. -/
def grepAs (form : Text.Regex.Form) (caller : Call) : Plan :=
  let call : Call := { caller with name := "grep" }
  match readArguments searchOptions (withContextNumber false call.args) {} with
  | .error text => call.misuseSearch (some text)
  | .ok said =>
    let given := (said.options.filter (·.1 == 'e')).map (·.2)
    let files := (said.options.filter (·.1 == 'f')).map (·.2)
    let (given, operands, complete) := match given, files, said.operands with
      | [], [], [] => ([], [], false)
      | [], [], pattern :: operands => ([pattern], operands, true)
      | given, _, operands => (given, operands, true)
    if !complete then call.misuseSearch none
    else
      let contextFault (text : String) : String := text ++ ": invalid context length argument"
      call.withCount said ['m'] (fun _ => "invalid max count") fun most =>
      call.withCount said ['A'] contextFault fun after =>
      call.withCount said ['B'] contextFault fun before =>
      call.withCount said ['C'] contextFault fun around =>
      patternsFrom call (fun patterns =>
        let form : Text.Regex.Form := match said.last? ['E', 'F', 'G', 'P'] with
          | some 'E' => .extended
          | some 'P' => .extended
          | some 'F' => .fixed
          | some 'G' => .basic
          | _ => form
        readPatterns call form (fun regexes =>
          .withFiles fun space _ =>
            let (places, named) := searchPlaces call said operands space.tree
            let search : Search := {
              regexes, named, most, anyCase := said.has 'i' || said.has 'y', words := said.has 'w'
              whole := said.has 'x', inverted := said.has 'v', counted := said.has 'c'
              listed := (said.last? ['l', 'L']).map (· == 'l'), quiet := said.has 'q', silent := said.has 's'
              numbered := said.has 'n', located := said.has 'b', matchesOnly := said.has 'o'
              before := (before.orElse fun _ => around).getD 0
              after := (after.orElse fun _ => around).getD 0
              lineEnd := if said.has 'z' then '\x00' else '\n', asText := said.has 'a' }
            (space.tree, if most = some 0 then .done 1 else searchFiles call search places {} {})) patterns [])
        files (given.flatMap (·.splitOn "\n"))

/-- `grep` with expressions in the basic form. -/
def grep (call : Call) : Plan := grepAs .basic call

end BatchRunner.Machine.Tool
