import BatchRunner.Files.Tree

/-!
# Workspaces
-/

namespace BatchRunner

/-- The files of a host and the directory from which relative paths are seen. -/
structure Workspace where
  tree : Files.Tree
  cwd : Files.Path
  deriving Inhabited

end BatchRunner
