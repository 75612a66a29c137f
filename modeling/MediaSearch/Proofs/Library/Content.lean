/-
MediaSearch/Proofs/Library/Content.lean

What a library holds, as rows of its tables.

A row has the columns that searches read, each of the type the schema
declares for it.  The key of a table and the row ids of a full-text index
are unique, whatever is written to them, so they are part of the type; the
constraints between tables and on other columns are not, and are stated as
`Library.Consistent`.  A full-text index is written to by triggers and may
have any entries.

`Library.tables` is how queries see a library.
-/
import MediaSearch.Proofs.Sql.Frame

namespace MediaSearch

open Sql

namespace Library

/-! ### Rows -/

/-- A row of the table of items: what is in a file, wherever it is found. -/
structure Item where
  id : Int64
  sha256 : String
  mimeType : Option String
  size : Option Int64
  deriving DecidableEq

/-- A row of the table of files: a place where an item is found. -/
structure File where
  id : Int64
  itemId : Int64
  path : String
  lastModified : String
  available : Int64
  deriving DecidableEq

/-- A row of the table of setters. -/
structure Setter where
  id : Int64
  name : String
  deriving DecidableEq

/-- A tag as one setter uses it. -/
structure Tag where
  id : Int64
  /-- The namespace of the tag. -/
  space : String
  name : String
  setterId : Int64
  deriving DecidableEq

/-- A tag that an item has been given. -/
structure Assignment where
  itemId : Int64
  tagId : Int64
  confidence : Binary64
  deriving DecidableEq

/-- A row of the table of texts. The text itself is read through the index only. -/
structure ExtractedText where
  id : Int64
  itemId : Int64
  setterId : Int64
  language : Option String
  languageConfidence : Option Binary64
  confidence : Option Binary64
  deriving DecidableEq

/-- An embedding of an item, or of one of its texts. -/
structure Embedding where
  itemId : Int64
  setterId : Int64
  textId : Option Int64
  embedding : List UInt8
  deriving DecidableEq

/-- A row of the table of bookmarks. -/
structure Bookmark where
  /-- The group of the bookmark. -/
  space : String
  user : String
  itemId : Int64
  timeAdded : String
  deriving DecidableEq

/-- An entry of the index of paths. -/
structure PathEntry where
  rowid : Int64
  path : String
  filename : String
  deriving DecidableEq

/-- An entry of the index of extracted text. -/
structure TextEntry where
  rowid : Int64
  text : String
  deriving DecidableEq

end Library

/-- The rows of the tables of a library. -/
structure Library where
  items : List Library.Item := []
  files : List Library.File := []
  setters : List Library.Setter := []
  tags : List Library.Tag := []
  assignments : List Library.Assignment := []
  texts : List Library.ExtractedText := []
  embeddings : List Library.Embedding := []
  bookmarks : List Library.Bookmark := []
  pathEntries : List Library.PathEntry := []
  textEntries : List Library.TextEntry := []
  nodup_items : (items.map (·.id)).Nodup := by decide
  nodup_files : (files.map (·.id)).Nodup := by decide
  nodup_setters : (setters.map (·.id)).Nodup := by decide
  nodup_tags : (tags.map (·.id)).Nodup := by decide
  nodup_texts : (texts.map (·.id)).Nodup := by decide
  nodup_pathEntries : (pathEntries.map (·.rowid)).Nodup := by decide
  nodup_textEntries : (textEntries.map (·.rowid)).Nodup := by decide

namespace Library

/-! ### Constraints -/

/-- Every file belongs to an item. -/
def FilesResolve (lib : Library) : Prop :=
  ∀ file ∈ lib.files, ∃ item ∈ lib.items, item.id = file.itemId

/-- The constraints on tags: names that are unique, and references to rows
that exist. -/
structure Consistent (lib : Library) : Prop where
  setterNames : (lib.setters.map (·.name)).Nodup
  tagNames : (lib.tags.map fun tag => (tag.space, tag.name, tag.setterId)).Nodup
  assignmentPairs : (lib.assignments.map fun given => (given.itemId, given.tagId)).Nodup
  assignmentItem : ∀ given ∈ lib.assignments, ∃ item ∈ lib.items, item.id = given.itemId
  assignmentTag : ∀ given ∈ lib.assignments, ∃ tag ∈ lib.tags, tag.id = given.tagId
  tagSetter : ∀ tag ∈ lib.tags, ∃ setter ∈ lib.setters, setter.id = tag.setterId

/-! ### Tables -/

/-- A cell that may be empty. -/
def optional {α : Type} (value : α → Value) : Option α → Value
  | some a => value a
  | none => .null

/-- The cells of an item in the order of its columns. -/
def Item.row (i : Item) : List Value :=
  [.integer i.id, .text i.sha256, optional .text i.mimeType, optional .integer i.size]

/-- The cells of a file in the order of its columns. -/
def File.row (f : File) : List Value :=
  [.integer f.id, .integer f.itemId, .text f.path, .text f.lastModified, .integer f.available]

/-- The cells of a setter in the order of its columns. -/
def Setter.row (s : Setter) : List Value :=
  [.integer s.id, .text s.name]

/-- The cells of a tag in the order of its columns. -/
def Tag.row (t : Tag) : List Value :=
  [.integer t.id, .text t.space, .text t.name, .integer t.setterId]

/-- The cells of an assignment in the order of its columns. -/
def Assignment.row (a : Assignment) : List Value :=
  [.integer a.itemId, .integer a.tagId, .real a.confidence]

/-- The cells of an extracted text in the order of its columns. -/
def ExtractedText.row (t : ExtractedText) : List Value :=
  [.integer t.id, .integer t.itemId, .integer t.setterId, optional .text t.language,
    optional .real t.languageConfidence, optional .real t.confidence]

/-- The cells of an embedding in the order of its columns. -/
def Embedding.row (e : Embedding) : List Value :=
  [.integer e.itemId, .integer e.setterId, optional .integer e.textId, .blob e.embedding]

/-- The cells of a bookmark in the order of its columns. -/
def Bookmark.row (b : Bookmark) : List Value :=
  [.text b.space, .text b.user, .integer b.itemId, .text b.timeAdded]

/-- The cells of an entry of the index of paths. -/
def PathEntry.row (e : PathEntry) : List Value :=
  [.integer e.rowid, .text e.path, .text e.filename]

/-- The cells of an entry of the index of extracted text. -/
def TextEntry.row (e : TextEntry) : List Value :=
  [.integer e.rowid, .text e.text]

/-- The tables as queries name them. -/
def tables (lib : Library) : Tables :=
  [("items", ⟨["id", "sha256", "mime_type", "size"], lib.items.map Item.row⟩),
    ("files", ⟨["id", "item_id", "path", "last_modified", "available"],
      lib.files.map File.row⟩),
    ("setters", ⟨["id", "name"], lib.setters.map Setter.row⟩),
    ("tags_setters", ⟨["id", "namespace", "name", "setter_id"], lib.tags.map Tag.row⟩),
    ("tags_items", ⟨["item_id", "tag_id", "confidence"],
      lib.assignments.map Assignment.row⟩),
    ("extracted_text", ⟨["id", "item_id", "setter_id", "language", "language_confidence",
      "confidence"], lib.texts.map ExtractedText.row⟩),
    ("embeddings", ⟨["item_id", "setter_id", "text_id", "embedding"],
      lib.embeddings.map Embedding.row⟩),
    ("bookmarks", ⟨["namespace", "user", "item_id", "time_added"],
      lib.bookmarks.map Bookmark.row⟩),
    ("files_path_fts", ⟨["rowid", "path", "filename"], lib.pathEntries.map PathEntry.row⟩),
    ("extracted_text_fts", ⟨["rowid", "text"], lib.textEntries.map TextEntry.row⟩)]

/-- Whether the tables of a library can be seen, none of them hidden by a
stage of the same name. -/
def Shows (lib : Library) (tables : Tables) : Prop :=
  ∀ entry ∈ lib.tables, tables.relation entry.1 = entry.2

/-- The tables of a library show it. -/
theorem shows_tables (lib : Library) : lib.Shows lib.tables := by
  simp [Shows, tables, Tables.relation, List.lookup_cons]

/-- The names of the tables. -/
def tableNames : List String :=
  ["items", "files", "setters", "tags_setters", "tags_items", "extracted_text", "embeddings",
    "bookmarks", "files_path_fts", "extracted_text_fts"]

theorem map_fst_tables (lib : Library) : lib.tables.map (·.1) = tableNames := rfl

/-- A stage of another name hides nothing. -/
theorem Shows.cons {lib : Library} {tables : Tables} (shown : lib.Shows tables) {name : String}
    (fresh : name ∉ tableNames) (r : Relation) : lib.Shows ((name, r) :: tables) := by
  intro entry present
  have other : entry.1 ≠ name := by
    rintro rfl
    exact fresh (map_fst_tables lib ▸ List.mem_map_of_mem present)
  rw [Tables.relation_cons, if_neg other, shown entry present]

namespace Shows

variable {lib : Library} {tables : Tables} (shown : lib.Shows tables)
include shown

/-- What shows a library has the tables of it. -/
theorem agree : tables.Agree tableNames lib.tables := by
  intro name present
  obtain ⟨entry, among, rfl⟩ := List.mem_map.mp (map_fst_tables lib ▸ present)
  rw [shown entry among, lib.shows_tables entry among]

theorem items : tables.relation "items"
    = ⟨["id", "sha256", "mime_type", "size"], lib.items.map Item.row⟩ :=
  shown ("items", _) (by simp [Library.tables])

theorem files : tables.relation "files"
    = ⟨["id", "item_id", "path", "last_modified", "available"], lib.files.map File.row⟩ :=
  shown ("files", _) (by simp [Library.tables])

theorem setters : tables.relation "setters" = ⟨["id", "name"], lib.setters.map Setter.row⟩ :=
  shown ("setters", _) (by simp [Library.tables])

theorem tags : tables.relation "tags_setters"
    = ⟨["id", "namespace", "name", "setter_id"], lib.tags.map Tag.row⟩ :=
  shown ("tags_setters", _) (by simp [Library.tables])

theorem assignments : tables.relation "tags_items"
    = ⟨["item_id", "tag_id", "confidence"], lib.assignments.map Assignment.row⟩ :=
  shown ("tags_items", _) (by simp [Library.tables])

theorem texts : tables.relation "extracted_text"
    = ⟨["id", "item_id", "setter_id", "language", "language_confidence", "confidence"],
      lib.texts.map ExtractedText.row⟩ :=
  shown ("extracted_text", _) (by simp [Library.tables])

theorem embeddings : tables.relation "embeddings"
    = ⟨["item_id", "setter_id", "text_id", "embedding"], lib.embeddings.map Embedding.row⟩ :=
  shown ("embeddings", _) (by simp [Library.tables])

theorem bookmarks : tables.relation "bookmarks"
    = ⟨["namespace", "user", "item_id", "time_added"], lib.bookmarks.map Bookmark.row⟩ :=
  shown ("bookmarks", _) (by simp [Library.tables])

theorem textEntries : tables.relation "extracted_text_fts"
    = ⟨["rowid", "text"], lib.textEntries.map TextEntry.row⟩ :=
  shown ("extracted_text_fts", _) (by simp [Library.tables])

theorem pathEntries : tables.relation "files_path_fts"
    = ⟨["rowid", "path", "filename"], lib.pathEntries.map PathEntry.row⟩ :=
  shown ("files_path_fts", _) (by simp [Library.tables])

end Shows

/-! ### Small libraries -/

/-- Two items with a file each, tagged by two setters. -/
def pets : Library where
  items := [⟨1, "aa", some "image/png", some 10⟩, ⟨2, "bb", none, none⟩]
  files := [⟨1, 1, "/pets/cat.png", "2024-01-01T00:00:00", 1⟩,
    ⟨2, 2, "/pets/dog", "2024-01-02T00:00:00", 0⟩]
  setters := [⟨1, "ann"⟩, ⟨2, "bob"⟩]
  tags := [⟨1, "pets", "cat", 1⟩, ⟨2, "pets", "cat", 2⟩, ⟨3, "pets", "dog", 2⟩]
  assignments := [⟨1, 1, default⟩, ⟨1, 2, default⟩, ⟨2, 1, default⟩, ⟨2, 3, default⟩]
  pathEntries := [⟨1, "/pets/cat.png", "cat.png"⟩, ⟨2, "/pets/dog", "dog"⟩]

/-- One item with two files. -/
def copies : Library where
  items := [⟨1, "aa", some "image/png", none⟩]
  files := [⟨1, 1, "/in/photo.png", "2024-01-01T00:00:00", 1⟩,
    ⟨2, 1, "/in/screenshot.png", "2024-01-02T00:00:00", 1⟩]

/-- All files of the example have items. -/
theorem filesResolve_pets : pets.FilesResolve := by
  unfold FilesResolve
  decide

theorem filesResolve_copies : copies.FilesResolve := by
  unfold FilesResolve
  decide

/-- The example keeps the constraints of the schema. -/
theorem consistent_pets : pets.Consistent where
  setterNames := by decide
  tagNames := by decide
  assignmentPairs := by decide
  assignmentItem := by decide
  assignmentTag := by decide
  tagSetter := by decide

end Library

end MediaSearch
