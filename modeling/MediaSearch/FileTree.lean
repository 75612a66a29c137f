/-
MediaSearch/FileTree.lean

Directories and files, as far as searches, settings and connections look at
them.

A path is followed name by name: every name but the last must lead to a
directory, `.` and empty names stay where they are and `..` goes up.  Each
operation returns what the file system would answer; those that change
something return the tree afterwards.
-/
namespace MediaSearch

/-- Where a path leads: names from the innermost out. -/
abbrev Location := List String

/-- What can be at a location. -/
inductive FileEntry where
  | directory
  | file (content : ByteArray)

/-- Whether an entry is a directory. -/
def FileEntry.isDirectory : FileEntry → Bool
  | directory => true
  | file _ => false

/-- Why a file system refuses. -/
inductive FileError where
  | notFound
  | alreadyExists
  | notADirectory
  | isADirectory
  | nameTooLong
  | nulByte
  | invalidUtf8
  deriving DecidableEq

/-- The wording of a refusal, with the number the system gives it. -/
def FileError.message : FileError → String
  | notFound => "No such file or directory (os error 2)"
  | alreadyExists => "File exists (os error 17)"
  | notADirectory => "Not a directory (os error 20)"
  | isADirectory => "Is a directory (os error 21)"
  | nameTooLong => "File name too long (os error 36)"
  | nulByte => "file name contained an unexpected NUL byte"
  | invalidUtf8 => "stream did not contain valid UTF-8"

/-- The entries below the root, which is a directory, and the directory that
relative paths start from. -/
structure FileTree where
  entries : List (Location × FileEntry)
  current : Location

namespace FileTree

/-- The longest name, in bytes. -/
def maxNameBytes : Nat := 255

/-- The longest path, in bytes. -/
def maxPathBytes : Nat := 4095

/-- What is at a location; at the root there is always a directory. -/
def entry? (tree : FileTree) (location : Location) : Option FileEntry :=
  if location.isEmpty then some .directory else tree.entries.lookup location

/-- Follows names from a location. -/
def follow (tree : FileTree) : Location → List String → Except FileError Location
  | location, [] => .ok location
  | location, name :: names =>
    match tree.entry? location with
    | none => .error .notFound
    | some (.file _) => .error .notADirectory
    | some .directory =>
      if name = "" ∨ name = "." then tree.follow location names
      else if name = ".." then tree.follow location.tail names
      else if maxNameBytes < name.utf8ByteSize then .error .nameTooLong
      else tree.follow (name :: location) names

/-- Follows the names of a path, if it is one that can be followed. -/
def followPath (tree : FileTree) (path : String) (names : List String) :
    Except FileError Location :=
  if '\x00' ∈ path.toList then .error .nulByte
  else if path.isEmpty then .error .notFound
  else if maxPathBytes < path.utf8ByteSize then .error .nameTooLong
  else tree.follow (if path.startsWith "/" then [] else tree.current) names

/-- Where a path leads; the last name need not exist.  With a slash at the
end the last name is empty, and the one before it has to be a directory. -/
def resolve (tree : FileTree) (path : String) : Except FileError Location :=
  tree.followPath path (path.splitOn "/")

/-- Where a path for a new directory leads.  Slashes at its end mean
nothing. -/
def resolveDirectory (tree : FileTree) (path : String) : Except FileError Location :=
  tree.followPath path ((path.splitOn "/").reverse.dropWhile (·.isEmpty)).reverse

/-- The entry a path leads to. -/
def find (tree : FileTree) (path : String) : Except FileError FileEntry := do
  match tree.entry? (← tree.resolve path) with
  | some entry => return entry
  | none => throw .notFound

/-- Whether a path leads anywhere.  One that cannot be followed does not. -/
def contains (tree : FileTree) (path : String) : Bool :=
  (tree.find path).toOption.isSome

/-- Whether a path leads to a directory. -/
def isDirectory (tree : FileTree) (path : String) : Bool :=
  (tree.find path).toOption.any (·.isDirectory)

/-- The text of a file. -/
def readText (tree : FileTree) (path : String) : Except FileError String := do
  match ← tree.find path with
  | .directory => throw .isADirectory
  | .file content =>
    match String.fromUTF8? content with
    | some s => return s
    | none => throw .invalidUtf8

/-- Puts an entry at a location. -/
def put (tree : FileTree) (location : Location) (entry : FileEntry) : FileTree :=
  { tree with entries := (location, entry) :: tree.entries.filter (·.1 ≠ location) }

/-- Writes a file, over an old one if there is one. -/
def writeFile (tree : FileTree) (path : String) (content : ByteArray) :
    Except FileError FileTree := do
  let location ← tree.resolve path
  if (tree.entry? location).any (·.isDirectory) then throw .isADirectory
  return tree.put location (.file content)

/-- Makes one directory. -/
def makeDirectory (tree : FileTree) (path : String) : Except FileError FileTree := do
  let location ← tree.resolveDirectory path
  if (tree.entry? location).isSome then throw .alreadyExists
  return tree.put location .directory

/-! ### Paths as text -/

/-- A path below another one, or the second if it is absolute. -/
def joinPath (base path : String) : String :=
  if path.startsWith "/" then path
  else if base.isEmpty ∨ base.endsWith "/" then base ++ path
  else base ++ "/" ++ path

/-- Whether a name leads nowhere else. -/
def staysInPlace (name : String) : Bool :=
  name == "" || name == "."

/-- The names of a path, without those that stay in place. -/
def pathNames (path : String) : List String :=
  (path.splitOn "/").filter fun name => !staysInPlace name

/-- Names without those at the end that stay in place. -/
def trimNames (names : List String) : List String :=
  (names.reverse.dropWhile staysInPlace).reverse

/-- The path of all but the last name, written as it is in the path itself;
what stays in place is left out at the end only, since it counts towards the
length of a path.  A path without names has no such path. -/
def parentPath? (path : String) : Option String :=
  let (root, names) := match path.splitOn "/" with
    | "" :: names => ("/", names)
    | names => ("", names)
  match trimNames names with
  | [] => none
  | names => some (root ++ "/".intercalate (trimNames names.dropLast))

/-! ### Directories with their parents -/

/-- Makes a directory where there is none yet. -/
def ensureDirectory (tree : FileTree) (path : String) : Except FileError Unit × FileTree :=
  match tree.makeDirectory path with
  | .ok changed => (.ok (), changed)
  | .error e => (if tree.isDirectory path then .ok () else .error e, tree)

/-- Makes a directory and the directories above it that are missing, of
which there can be `depth`.  The empty path needs none. -/
def makeDirectoriesWithin (tree : FileTree) (path : String) : (depth : Nat) →
    Except FileError Unit × FileTree
  | 0 => if path.isEmpty then (.ok (), tree) else tree.ensureDirectory path
  | depth + 1 =>
    if path.isEmpty then (.ok (), tree)
    else match tree.makeDirectory path, parentPath? path with
      -- the one above is made first; whatever else is wrong is the answer
      | .error .notFound, some parent =>
        match tree.makeDirectoriesWithin parent depth with
        | (.ok (), above) => above.ensureDirectory path
        | failed => failed
      | _, _ => tree.ensureDirectory path

/-- Makes a directory and those above it that are missing.  The tree is
returned as it is left: after a failure, with the directories that were made
before it. -/
def makeDirectories (tree : FileTree) (path : String) : Except FileError Unit × FileTree :=
  tree.makeDirectoriesWithin path (pathNames path).length

end FileTree

end MediaSearch
