import BatchRunner.Files.Tree

/-!
# Looking up programs

Where the program of a task is found: a name of several components is a path of its own, seen from the
working directory; a bare name is looked for in the directories of the search path, in order.
-/

namespace BatchRunner.Files

/-- The components of a path: the root, if the path starts there, and the names on it. A point names no
component, unless the path starts with it. -/
def components (path : String) : List String :=
  let named := (Text.parts '/' path).filter fun name => name != "" && name != "."
  if isAbsolute path then "/" :: named
  else if path = "." || path.startsWith "./" then "." :: named
  else named

/-- The directories of a search path. -/
def searchDirectories (searchPath : String) : List String := Text.parts ':' searchPath

/-- Whether a path names a file that may be run. -/
def isProgram (tree : Tree) (cwd : Path) (path : String) : Bool :=
  !hasNul path && (find tree cwd path).toOption.any (·.isExecutable)

/-- The place of a program as a path of several components: an absolute one as it is, another one below the
working directory. -/
def anchored (cwd : Path) (program : String) : String :=
  if isAbsolute program then program
  else (components program).dropWhile (· == ".") |>.foldl join (render cwd)

/-- The places in which a program is looked for, in order. -/
def candidates (cwd : Path) (program : String) (searchPath : Option String) : List String :=
  if 1 < (components program).length then [anchored cwd program]
  else match searchPath with
    | none => []
    | some dirs => (searchDirectories dirs).map (join · program)

/-- The place of a program, if there is one. -/
def findProgram (tree : Tree) (cwd : Path) (program : String) (searchPath : Option String) : Option String :=
  (candidates cwd program searchPath).find? (isProgram tree cwd)

end BatchRunner.Files
