/-
MediaSearch/Library/Schema.lean

The tables of a library.

Whoever writes to a library makes its tables with the statements of
`schema`, in this order; all of them do nothing to what is there already.

Two full-text indexes hold what can be searched in: the paths of files and
the extracted text.  Triggers on the tables keep them up to date.  A trigger
removes the old entry of a row, adds the new one, or does both, according to
its event (`Trigger.actions`).
-/
import MediaSearch.Failure

namespace MediaSearch.Library

open Sql

/-! ### Statements -/

/-- A full-text index over columns of a table. -/
structure FullTextIndex where
  name : String
  columns : List String
  table : String
  deriving DecidableEq

/-- After what a trigger acts. -/
inductive TriggerEvent where
  | inserted
  | deleted
  /-- An update of one of the indexed columns. -/
  | updated
  deriving DecidableEq

/-- A trigger that keeps an index up to date. -/
structure Trigger where
  index : FullTextIndex
  event : TriggerEvent
  deriving DecidableEq

/-- What a trigger does to its index. -/
inductive IndexAction where
  /-- Adds an entry for the new row. -/
  | add
  /-- Removes the entry of the old row. -/
  | remove
  deriving DecidableEq

/-- What a trigger does with the index; a change is removal of the old entry
and addition of the new one. -/
def Trigger.actions (t : Trigger) : List IndexAction :=
  match t.event with
  | .inserted => [.add]
  | .deleted => [.remove]
  | .updated => [.remove, .add]

/-- A statement that creates a part of the database. -/
inductive SchemaStatement where
  /-- A table with its columns and constraints. -/
  | table (name : String) (parts : List String)
  /-- An index on a column of a table. -/
  | index (name column : String)
  | fullText (i : FullTextIndex)
  | trigger (t : Trigger)
  deriving DecidableEq

/-! ### Text of statements -/

/-- A statement on several lines, each with a tab in front of it. -/
def statementLines (lines : List String) : String :=
  "\n" ++ String.join (lines.map fun line => "\t" ++ line ++ "\n") ++ "\t"

/-- Names with commas between them. -/
def commaList (names : List String) : String :=
  ", ".intercalate names

/-- A statement with a list inside parentheses, a line for each entry. -/
def parenthesized (head : String) (entries : List String) : String :=
  statementLines
    ([head ++ " ("]
      ++ (entries.dropLast.map fun entry => "\t" ++ entry ++ ",")
      ++ (entries.getLast?.toList.map fun entry => "\t" ++ entry)
      ++ [")"])

/-- The columns of a row, by the name of the row. -/
def rowValues (row : String) (i : FullTextIndex) : List String :=
  ("id" :: i.columns).map fun column => row ++ "." ++ column

/-- The lines of an action.  The values of a removal have a line of their
own when there are several columns. -/
def IndexAction.lines (i : FullTextIndex) : IndexAction → List String
  | .add =>
    ["INSERT INTO " ++ i.name ++ "(" ++ commaList ("rowid" :: i.columns) ++ ") VALUES ("
      ++ commaList (rowValues "new" i) ++ ");"]
  | .remove =>
    let into := "INSERT INTO " ++ i.name ++ "(" ++ commaList (i.name :: "rowid" :: i.columns)
      ++ ")"
    let values := "VALUES (" ++ commaList ("'delete'" :: rowValues "old" i) ++ ");"
    if i.columns.length = 1 then [into ++ " " ++ values] else [into, values]

/-- The word for an event in the name of a trigger. -/
def TriggerEvent.word : TriggerEvent → String
  | .inserted => "insert"
  | .deleted => "delete"
  | .updated => "update"

/-- The event as a trigger declares it. -/
def Trigger.eventText (t : Trigger) : String :=
  match t.event with
  | .inserted => "INSERT"
  | .deleted => "DELETE"
  | .updated => "UPDATE OF " ++ commaList t.index.columns

/-- The text of a trigger. -/
def Trigger.text (t : Trigger) : String :=
  statementLines
    (["CREATE TRIGGER IF NOT EXISTS " ++ t.index.name ++ "_" ++ t.event.word ++ " AFTER "
        ++ t.eventText ++ " ON " ++ t.index.table ++ " BEGIN"]
      ++ (t.actions.flatMap (·.lines t.index)).map ("\t" ++ ·)
      ++ ["END"])

/-- The text of a full-text index over a table that keeps the texts themselves. -/
def FullTextIndex.text (i : FullTextIndex) : String :=
  statementLines
    ["CREATE VIRTUAL TABLE IF NOT EXISTS " ++ i.name ++ " USING fts5(",
      "\t" ++ commaList (i.columns ++ ["content='" ++ i.table ++ "'", "content_rowid='id'"]),
      ")"]

/-- The text of a statement. -/
def SchemaStatement.text : SchemaStatement → String
  | .table name parts => parenthesized ("CREATE TABLE IF NOT EXISTS " ++ name) parts
  | .index name column =>
    "CREATE INDEX IF NOT EXISTS idx_" ++ name ++ "_" ++ column ++ " ON " ++ name
      ++ "(" ++ column ++ ")"
  | .fullText i => i.text
  | .trigger t => t.text

/-! ### The schema -/

/-- The index of paths. -/
def pathIndex : FullTextIndex := ⟨"files_path_fts", ["path", "filename"], "files"⟩

/-- The index of extracted text. -/
def textIndex : FullTextIndex := ⟨"extracted_text_fts", ["text"], "extracted_text"⟩

/-- Items: contents of files, each once. -/
def itemsTable : SchemaStatement :=
  .table "items"
    ["id INTEGER PRIMARY KEY",
      "sha256 TEXT NOT NULL UNIQUE",
      "md5 TEXT",
      "mime_type TEXT",
      "width INTEGER",
      "height INTEGER",
      "duration REAL",
      "size INTEGER",
      "time_added TEXT NOT NULL"]

/-- Files: places where items are found. -/
def filesTable : SchemaStatement :=
  .table "files"
    ["id INTEGER PRIMARY KEY",
      "item_id INTEGER NOT NULL REFERENCES items(id) ON DELETE CASCADE",
      "path TEXT NOT NULL UNIQUE",
      "filename TEXT NOT NULL",
      "last_modified TEXT NOT NULL",
      "available INTEGER NOT NULL DEFAULT 1"]

/-- Setters: people and models that set tags or make texts and embeddings. -/
def settersTable : SchemaStatement :=
  .table "setters"
    ["id INTEGER PRIMARY KEY",
      "name TEXT NOT NULL UNIQUE"]

/-- Tags, each by one setter. -/
def tagsTable : SchemaStatement :=
  .table "tags_setters"
    ["id INTEGER PRIMARY KEY",
      "namespace TEXT NOT NULL",
      "name TEXT NOT NULL",
      "setter_id INTEGER NOT NULL REFERENCES setters(id) ON DELETE CASCADE",
      "UNIQUE(namespace, name, setter_id)"]

/-- Which items have which tags, and how sure that is. -/
def tagAssignmentsTable : SchemaStatement :=
  .table "tags_items"
    ["id INTEGER PRIMARY KEY",
      "item_id INTEGER NOT NULL REFERENCES items(id) ON DELETE CASCADE",
      "tag_id INTEGER NOT NULL REFERENCES tags_setters(id) ON DELETE CASCADE",
      "confidence REAL NOT NULL DEFAULT 1.0",
      "UNIQUE(item_id, tag_id)"]

/-- Texts that setters have extracted from items. -/
def extractedTextTable : SchemaStatement :=
  .table "extracted_text"
    ["id INTEGER PRIMARY KEY",
      "item_id INTEGER NOT NULL REFERENCES items(id) ON DELETE CASCADE",
      "setter_id INTEGER NOT NULL REFERENCES setters(id) ON DELETE CASCADE",
      "language TEXT",
      "language_confidence REAL",
      "confidence REAL",
      "text TEXT NOT NULL",
      "text_length INTEGER"]

/-- Vectors for items, or for texts extracted from them. -/
def embeddingsTable : SchemaStatement :=
  .table "embeddings"
    ["id INTEGER PRIMARY KEY",
      "item_id INTEGER NOT NULL REFERENCES items(id) ON DELETE CASCADE",
      "setter_id INTEGER NOT NULL REFERENCES setters(id) ON DELETE CASCADE",
      "text_id INTEGER REFERENCES extracted_text(id) ON DELETE CASCADE",
      "embedding BLOB NOT NULL"]

/-- Items that users have marked. -/
def bookmarksTable : SchemaStatement :=
  .table "bookmarks"
    ["id INTEGER PRIMARY KEY",
      "namespace TEXT NOT NULL DEFAULT 'default'",
      "user TEXT NOT NULL DEFAULT 'user'",
      "item_id INTEGER NOT NULL REFERENCES items(id) ON DELETE CASCADE",
      "time_added TEXT NOT NULL",
      "metadata TEXT",
      "UNIQUE(namespace, user, item_id)"]

/-- The tables, indexes and triggers of a library, in the order in which they
are made. -/
def schema : List SchemaStatement :=
  [itemsTable,
    filesTable,
    .index "files" "item_id",
    .index "files" "last_modified",
    .fullText pathIndex,
    .trigger ⟨pathIndex, .inserted⟩,
    .trigger ⟨pathIndex, .deleted⟩,
    .trigger ⟨pathIndex, .updated⟩,
    settersTable,
    tagsTable,
    .index "tags_setters" "name",
    tagAssignmentsTable,
    .index "tags_items" "tag_id",
    extractedTextTable,
    .index "extracted_text" "item_id",
    .fullText textIndex,
    .trigger ⟨textIndex, .inserted⟩,
    .trigger ⟨textIndex, .deleted⟩,
    embeddingsTable,
    .index "embeddings" "item_id",
    bookmarksTable]

/-- Sends statements until one is refused: the outcome and what was sent.
The store accepts or refuses a statement by its place. -/
def sendAll (accepts : Nat → Except StoreError Unit) :
    (place : Nat) → List SchemaStatement → Except StoreError Unit × List Fragment
  | _, [] => (.ok (), [])
  | place, statement :: statements =>
    match accepts place with
    | .error e => (.error e, [.raw statement.text])
    | .ok () =>
      let (outcome, sent) := sendAll accepts (place + 1) statements
      (outcome, .raw statement.text :: sent)

/-- Makes the tables of a library. -/
def createTables (accepts : Nat → Except StoreError Unit) :
    Except StoreError Unit × List Fragment :=
  sendAll accepts 0 schema

end MediaSearch.Library
