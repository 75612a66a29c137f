/-
MediaSearch/Library/Connection.lean

When a library file is refused before any connection is made.
-/
import MediaSearch.Failure

namespace MediaSearch.Library

/-- Why a library cannot be opened for reading only: there has to be
something at its path. -/
def readRefusal? (tree : FileTree) (path : String) : Option StoreError :=
  if tree.contains path then none
  else some (.custom ("Database does not exist: " ++ path))

/-- Why a library cannot be opened for writing, which makes the directories
above it. -/
def writeRefusal? (tree : FileTree) (path : String) : Option StoreError :=
  match FileTree.parentPath? path with
  | none => none
  | some parent =>
    match (tree.makeDirectories parent).1 with
    | .ok () => none
    | .error e => some (.custom ("Failed to create directory: " ++ e.message))

end MediaSearch.Library
