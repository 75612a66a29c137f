/-
MediaSearch/Settings/File.lean

The settings file of a data directory.
-/
import MediaSearch.Failure
import MediaSearch.Json.Printer
import MediaSearch.Settings.Codec

namespace MediaSearch

namespace Settings

/-- The name of the settings file in its directory. -/
def fileName : String := "search.json"

/-- The text of a settings file. -/
def fileText (settings : Settings) : String :=
  Json.pretty 0 (codec.encode settings)

/-- Writes the settings file of a directory, which is made if it is
missing.  The tree is returned as it is left, also after a failure. -/
def save (settings : Settings) (directory : String) (tree : FileTree) :
    Except Failure Unit × FileTree :=
  match tree.makeDirectories directory with
  | (.error e, tree) => (.error (.io directory e), tree)
  | (.ok (), tree) =>
    let path := FileTree.joinPath directory fileName
    match tree.writeFile path settings.fileText.toUTF8 with
    | .error e => (.error (.io path e), tree)
    | .ok tree => (.ok (), tree)

/-- The settings in the text of a settings file, made usable. -/
def ofFileText (text : String) : Except Failure Settings :=
  match codec.decodeText text with
  | .ok settings => .ok settings.sanitized
  | .error fault => .error (.settings fault)

/-- The settings of a directory.  If it has no settings file, one with the
defaults is written. -/
def load (directory : String) (tree : FileTree) : Except Failure Settings × FileTree :=
  let path := FileTree.joinPath directory fileName
  if tree.contains path then
    match tree.readText path with
    | .error e => (.error (.io path e), tree)
    | .ok text => (ofFileText text, tree)
  else
    let settings : Settings := {}
    let (written, tree) := settings.save directory tree
    (written.map fun _ => settings, tree)

end Settings

end MediaSearch
