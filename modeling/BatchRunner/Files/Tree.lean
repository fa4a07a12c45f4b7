import BatchRunner.Os.Fault
import BatchRunner.Text.Blank

/-!
# File trees

The files of a host: directories, files with their bytes and permissions, links, devices, and the programs that
come with the host. A path is taken apart at its slashes and followed from the root or from the working
directory; a link on the way is replaced by the path that it holds.
-/

namespace BatchRunner.Files

/-- The way to a place from the root, name by name. -/
abbrev Path := List String

/-- The devices of a host. -/
inductive Device where
  /-- Takes everything, gives nothing. -/
  | null
  /-- Takes everything, gives zeros without end. -/
  | zero
  /-- Takes nothing, gives zeros without end. -/
  | full
  /-- The terminal of a program, of which there is none. -/
  | terminal
  /-- An open descriptor of the program that opens it. -/
  | descriptor (fd : Nat)
  deriving DecidableEq, Repr, Inhabited

/-- What is at a place. -/
inductive Entry where
  | directory
  /-- A file with its permission bits. -/
  | file (mode : Nat) (content : ByteArray)
  /-- A program that the host brings along, by its name. -/
  | tool (name : String)
  | device (device : Device)
  /-- A link to the place that a path names. -/
  | link (target : String)
  deriving Inhabited

namespace Entry

/-- Whether there is a directory. -/
def isDirectory : Entry → Bool
  | directory => true
  | _ => false

/-- Whether a place holds a file that may be run as a program. -/
def isExecutable : Entry → Bool
  | file mode _ => mode &&& 0o111 != 0
  | tool _ => true
  | _ => false

/-- Whether the permissions of what is at a place let its owner read it. -/
def isReadable : Entry → Bool
  | file mode _ => mode &&& 0o400 != 0
  | _ => true

/-- Whether the permissions of what is at a place let its owner write to it. What the host brings along is not
the owner's. -/
def isWritable : Entry → Bool
  | file mode _ => mode &&& 0o200 != 0
  | tool _ => false
  | _ => true

end Entry

/-- All places of a host below the root, each with what is there; the first entry for a place counts. They are
seen by the owner of the files. -/
structure Tree where
  entries : List (Path × Entry)
  /-- Whether the owner may read and write what is at a place whatever its permissions are. -/
  privileged : Bool := true
  deriving Inhabited

namespace Tree

/-- No places but the root. -/
def empty : Tree := { entries := [] }

/-- What is at a place. -/
def at? (tree : Tree) : Path → Option Entry
  | [] => some .directory
  | path => tree.entries.lookup path

/-- Puts something at a place. -/
def put (tree : Tree) (path : Path) (entry : Entry) : Tree :=
  { tree with entries := (path, entry) :: tree.entries.filter (·.1 != path) }

/-- Takes away what is at a place. -/
def erase (tree : Tree) (path : Path) : Tree :=
  { tree with entries := tree.entries.filter (·.1 != path) }

/-- Whether what is at a place may be read. -/
def mayRead (tree : Tree) (entry : Entry) : Bool := tree.privileged || entry.isReadable

/-- Whether what is at a place may be written to. -/
def mayWrite (tree : Tree) (entry : Entry) : Bool := tree.privileged || entry.isWritable

/-- Whether there is a directory at a place. -/
def isDirectory (tree : Tree) (path : Path) : Bool := (tree.at? path).any (·.isDirectory)

/-- The names in a directory, each with what is there. -/
def children (tree : Tree) (path : Path) : List (String × Entry) :=
  tree.entries.filterMap fun (place, entry) => match place.getLast? with
    | some name => if place.dropLast == path then some (name, entry) else none
    | none => none

/-- The places below a directory, each with what is there. -/
def below (tree : Tree) (path : Path) : List (Path × Entry) :=
  tree.entries.filter fun (place, _) => path.isPrefixOf place && path.length < place.length

end Tree

/-- The names of a path, without the empty ones between slashes that follow one another. -/
def names (path : String) : List String :=
  (Text.parts '/' path).filter (· != "")

/-- Whether a path starts at the root. -/
def isAbsolute (path : String) : Bool := path.startsWith "/"

/-- A place as it is written. -/
def render (path : Path) : String := "/" ++ "/".intercalate path

/-- The longest name that a place may have. -/
def nameLimit : Nat := 255

/-- The longest path. -/
def pathLimit : Nat := 4096

/-- The most links that one path leads through. -/
def linkLimit : Nat := 40

/-- Follows names from a place. Every place that a name leads out of must be a directory; the last place
need not be there. At a link `jump` goes on from the path that the link holds; a link at the end is left as
it is unless `last` is set. -/
def followWith (tree : Tree) (last : Bool) (jump : Path → List String → Except Os.Errno Path) :
    Path → List String → Except Os.Errno Path
  | place, [] => .ok place
  | place, name :: rest =>
    match tree.at? place with
    | none => .error Os.Errno.noEntry
    | some entry =>
      if !entry.isDirectory then .error Os.Errno.notDirectory
      else if nameLimit < name.utf8ByteSize then .error Os.Errno.nameTooLong
      else if name = "." then followWith tree last jump place rest
      else if name = ".." then followWith tree last jump place.dropLast rest
      else match tree.at? (place ++ [name]) with
        | some (.link target) =>
          if rest.isEmpty && !last then .ok (place ++ [name])
          else jump (if isAbsolute target then [] else place) (names target ++ rest)
        | _ => followWith tree last jump (place ++ [name]) rest

/-- Follows names from a place, through a number of links at most. -/
def follow (tree : Tree) (last : Bool) : Nat → Path → List String → Except Os.Errno Path
  | 0 => fun _ _ => .error Os.Errno.linkLoop
  | links + 1 => followWith tree last (follow tree last links)

/-- The place that a path names, seen from a working directory. -/
def locate (tree : Tree) (last : Bool) (cwd : Path) (path : String) : Except Os.Errno Path :=
  if path = "" then .error Os.Errno.noEntry
  else if pathLimit ≤ path.utf8ByteSize then .error Os.Errno.nameTooLong
  else follow tree last linkLimit (if isAbsolute path then [] else cwd) (names path)

/-- The place that a path names, seen from a working directory, behind all links. -/
def resolve (tree : Tree) (cwd : Path) (path : String) : Except Os.Errno Path := locate tree true cwd path

/-- Whether a path may only name a directory. -/
def demandsDirectory (path : String) : Bool :=
  path.endsWith "/" || path.endsWith "/." || path.endsWith "/.." || path = "." || path = ".."

/-- What is at a path. -/
def find (tree : Tree) (cwd : Path) (path : String) : Except Os.Errno Entry := do
  let place ← resolve tree cwd path
  match tree.at? place with
  | none => .error Os.Errno.noEntry
  | some entry =>
    if demandsDirectory path && !entry.isDirectory then .error Os.Errno.notDirectory else return entry

/-- A path with a NUL in it is no path. -/
def Fault.nulInPath : Os.Fault := .text "file name contained an unexpected NUL byte"

/-- Whether a path holds a NUL. -/
def hasNul (path : String) : Bool := path.toList.contains '\x00'

/-- Whether there is anything at a path. -/
def pathExists (tree : Tree) (cwd : Path) (path : String) : Bool :=
  !hasNul path && (find tree cwd path).toOption.isSome

/-- The bytes of the file at a path. -/
def readBytes (tree : Tree) (cwd : Path) (path : String) : Except Os.Fault ByteArray :=
  if hasNul path then .error Fault.nulInPath
  else match find tree cwd path with
    | .error errno => .error (.os errno)
    | .ok entry =>
      if !tree.mayRead entry then .error (.os Os.Errno.accessDenied)
      else match entry with
        | .directory => .error (.os Os.Errno.isDirectory)
        | .file _ content => .ok content
        | .tool _ => .ok ⟨#[0x7F, 0x45, 0x4C, 0x46]⟩
        | _ => .ok .empty

/-- The text of the file at a path. -/
def readText (tree : Tree) (cwd : Path) (path : String) : Except Os.Fault String := do
  let bytes ← readBytes tree cwd path
  match String.fromUTF8? bytes with
  | some text => return text
  | none => .error Os.Fault.notUtf8

/-- The permissions of a new file. -/
def newFileMode : Nat := 0o644

/-- Writes bytes to the file at a path, which is made if it is not there. -/
def writeBytes (tree : Tree) (cwd : Path) (path : String) (bytes : ByteArray) : Except Os.Fault Tree :=
  if hasNul path then .error Fault.nulInPath
  else match resolve tree cwd path with
    | .error errno => .error (.os errno)
    | .ok place => match tree.at? place with
      | some .directory => .error (.os Os.Errno.isDirectory)
      | some (.link _) => .error (.os Os.Errno.linkLoop)
      | some entry =>
        if demandsDirectory path then .error (.os Os.Errno.isDirectory)
        else if !tree.mayWrite entry then .error (.os Os.Errno.accessDenied)
        else match entry with
          | .file mode _ => .ok (tree.put place (.file mode bytes))
          | .tool _ => .ok (tree.put place (.file 0o755 bytes))
          | _ => .ok tree
      | none =>
        if !tree.isDirectory place.dropLast then
          .error (.os (if (tree.at? place.dropLast).isSome then Os.Errno.notDirectory else Os.Errno.noEntry))
        else if demandsDirectory path then .error (.os Os.Errno.isDirectory)
        else .ok (tree.put place (.file newFileMode bytes))

/-- Writes a text to the file at a path. -/
def writeText (tree : Tree) (cwd : Path) (path text : String) : Except Os.Fault Tree :=
  writeBytes tree cwd path text.toUTF8

/-- Makes every directory that the way to a place lacks. -/
def makeDirectories (tree : Tree) : Path → List String → Except Os.Errno Tree
  | place, [] => if tree.isDirectory place then .ok tree else .error Os.Errno.fileExists
  | place, name :: rest =>
    match tree.at? place with
    | none => makeDirectories (tree.put place .directory) (place ++ [name]) rest
    | some entry =>
      if !entry.isDirectory then .error Os.Errno.notDirectory
      else if nameLimit < name.utf8ByteSize then .error Os.Errno.nameTooLong
      else if name = "." then makeDirectories tree place rest
      else if name = ".." then makeDirectories tree place.dropLast rest
      else
        let next := place ++ [name]
        match tree.at? next with
        | none => makeDirectories (tree.put next .directory) next rest
        | some (.link _) => match follow tree true linkLimit place [name] with
          | .ok behind => makeDirectories tree behind rest
          | .error errno => .error errno
        | some _ => makeDirectories tree next rest

/-- Makes the directory at a path, and all directories above it. -/
def createDirectories (tree : Tree) (cwd : Path) (path : String) : Except Os.Fault Tree :=
  if hasNul path then .error Fault.nulInPath
  else match makeDirectories tree (if isAbsolute path then [] else cwd) (names path) with
    | .ok tree => .ok tree
    | .error errno => .error (.os errno)

/-- A path joined to another. An absolute second path stands alone. -/
def join (base path : String) : String :=
  if isAbsolute path then path
  else if base = "" || base.endsWith "/" then base ++ path
  else base ++ "/" ++ path

end BatchRunner.Files
