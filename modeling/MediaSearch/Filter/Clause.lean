/-
MediaSearch/Filter/Clause.lean

The query of a filter: a stage that reads another stage and keeps what the
filter lets through.

Every stage has the columns `file_id` and `item_id` of the stage it reads,
which it calls `prev`, and the column of the filter's rank if it gives one.
Where a join can give a file more than one row, the rows are grouped by file
again and the rank is an aggregate over the group.
-/
import MediaSearch.Filter.Basic
import MediaSearch.Library.Lookup
import MediaSearch.Text.Lowercase

namespace MediaSearch

open Sql

namespace Filter

/-! ### Parts of stages -/

/-- The file of a row of the stage that is read. -/
def fileId : Ref := .of "prev" "file_id"

/-- The item of a row of the stage that is read. -/
def itemId : Ref := .of "prev" "item_id"

/-- `file_id` and `item_id` of a table or stage. -/
def idColumns (table : String) : List Column :=
  [⟨.ref (.of table "file_id"), some "file_id"⟩, ⟨.ref (.of table "item_id"), some "item_id"⟩]

/-- `table.column` joined to an expression on the left side. -/
def joinOn (table column : String) (other : Ref) : Join :=
  ⟨table, none, .ref (.of table column), .ref other⟩

/-- The rank column of a stage. -/
def rankColumn (rank : Rank) (e : Expr) : Column :=
  ⟨e, some rank.column⟩

/-- A stage over `upstream`, a row for each row that is let through. -/
def rows (upstream : String) (rank : List Column) (joins : List Join)
    (conditions : List Condition) : Query :=
  .select
    { columns := idColumns "prev" ++ rank
      source := .named upstream (some "prev")
      joins
      conditions }

/-- A stage over `upstream`, a row for each file that is let through. -/
def grouped (upstream : String) (rank : List Column) (joins : List Join)
    (conditions : List Condition) : Query :=
  .select
    { columns := idColumns "prev" ++ rank
      source := .named upstream (some "prev")
      joins
      conditions
      grouping := [.ref fileId, .ref itemId] }

/-- The largest value a signed number of 64 bits can have instead of a
larger one. -/
def saturate (n : UInt64) : Value :=
  .integer (if n.toNat ≤ Int64.maxValue.toInt then n.toInt64 else Int64.maxValue)

/-- The aggregated distance of two expressions. -/
def distance (function : DistanceFunction) (aggregation : DistanceAggregation)
    (left right : Expr) : Expr :=
  let name := match function with
    | .l2 => "vec_distance_l2"
    | .cosine => "vec_distance_cosine"
  let aggregate := match aggregation with
    | .min => Aggregate.min
    | .max => .max
    | .avg => .avg
  .aggregate aggregate (.apply name left right)

/-- A vector as a parameter. -/
def vector (embedding : List Binary32) : Expr :=
  .param (.blob (vectorBytes embedding))

/-- The condition that a column holds the id of the setter with a name. -/
def ofModel (r : Ref) (model : String) : Condition :=
  .inQuery r (Library.setterNamed (Text.trim model))

/-- The conditions on a row of extracted text. -/
def textConditions (setters languages : List String)
    (minConfidence minLanguageConfidence : Option Binary64) : List Condition :=
  Library.setBy (.of "extracted_text" "setter_id") (Text.nonBlank setters)
    ++ Library.oneOfTexts (.of "extracted_text" "language") (Text.nonBlank languages)
    ++ Library.atLeast (.of "extracted_text" "confidence") (minConfidence.map .real)
    ++ Library.atLeast (.of "extracted_text" "language_confidence")
      (minLanguageConfidence.map .real)

/-- The joins from a stage to extracted text and its full-text index. -/
def extractedTextJoins : List Join :=
  [joinOn "extracted_text" "item_id" itemId,
    joinOn "extracted_text_fts" "rowid" (.of "extracted_text" "id")]

/-- The user whose bookmarks everybody sees. -/
def wildcardUser : String := "*"

/-! ### Stages -/

/-- The stage of a filter of files. Each file is joined to its own row and to
that of its item, so no row comes twice. -/
def filesClause (upstream : String) (f : FileFilter) : Query :=
  rows upstream []
    [joinOn "files" "id" fileId, joinOn "items" "id" itemId]
    (Library.startsWithOneOf (.of "items" "mime_type") (Text.nonBlank f.mimeTypes)
      ++ Library.startsWithOneOf (.of "files" "path") (Text.nonBlank f.pathPrefixes)
      ++ Library.atLeast (.of "items" "size") (f.minSize.map saturate)
      ++ Library.atMost (.of "items" "size") (f.maxSize.map saturate)
      ++ if f.availableOnly then [.compare (.ref (.of "files" "available")) .eq (.number 1)]
        else [])

/-- The stage of a search in paths, or in file names alone. A file has one
entry in the index, which gives the rank. -/
def pathTextClause (upstream : String) (f : PathTextFilter) : Query :=
  let target := if f.filenameOnly then Ref.of "files_path_fts" "filename"
    else .bare "files_path_fts"
  rows upstream
    [rankColumn .pathText (.ref (.of "files_path_fts" "rank"))]
    [joinOn "files_path_fts" "rowid" fileId]
    [.fullText target f.expression]

/-- The stage of a search in extracted texts. An item can have several, so the
rank is the best of those that are found. -/
def extractedTextClause (upstream : String) (f : ExtractedTextFilter) : Query :=
  grouped upstream
    [rankColumn .extractedText (.aggregate .min (.ref (.of "extracted_text_fts" "rank")))]
    extractedTextJoins
    (.fullText (.bare "extracted_text_fts") f.expression
      :: textConditions f.setters f.languages f.minConfidence f.minLanguageConfidence)

/-- The stage of a search near to a vector among the embeddings of texts. The
conditions are on the texts that the embeddings are of. -/
def textEmbeddingClause (upstream : String) (f : TextEmbeddingFilter) : Query :=
  grouped upstream
    [rankColumn .textDistance
      (distance f.function f.aggregation (.ref (.of "embeddings" "embedding"))
        (vector f.embedding))]
    [joinOn "embeddings" "item_id" itemId,
      joinOn "extracted_text" "id" (.of "embeddings" "text_id")]
    (ofModel (.of "embeddings" "setter_id") f.model
      :: textConditions f.sourceSetters f.sourceLanguages f.sourceMinConfidence none)

/-- The stage of a search near to a vector among the embeddings of images. -/
def imageEmbeddingClause (upstream : String) (f : ImageEmbeddingFilter) : Query :=
  grouped upstream
    [rankColumn .imageDistance
      (distance f.function f.aggregation (.ref (.of "embeddings" "embedding"))
        (vector f.embedding))]
    -- embeddings of texts belong to items as well, but are none of images
    [joinOn "embeddings" "item_id" itemId]
    [ofModel (.of "embeddings" "setter_id") f.model, .isNull (.of "embeddings" "text_id")]

/-- The stage of a search near to an item. Only embeddings by the same setter
are compared, and the item itself is left out. -/
def similarityClause (upstream : String) (f : SimilarityFilter) : Query :=
  grouped upstream
    [rankColumn .similarityDistance
      (distance f.function f.aggregation (.ref (.of "candidate" "embedding"))
        (.ref (.of "target" "embedding")))]
    [⟨"embeddings", some "candidate", .ref (.of "candidate" "item_id"), .ref itemId⟩,
      ⟨"embeddings", some "target", .ref (.of "target" "setter_id"),
        .ref (.of "candidate" "setter_id")⟩]
    [.equalsQuery (.of "target" "item_id")
        (Library.itemHashed (Text.lower (Text.trim f.target))),
      .compare (.ref itemId) .ne (.ref (.of "target" "item_id")),
      ofModel (.of "candidate" "setter_id") f.model]

/-- The users whose bookmarks count. -/
def bookmarkUsers (f : BookmarkFilter) : List String :=
  let user := Text.trim f.user
  if f.includeWildcard && user != wildcardUser then [user, wildcardUser] else [user]

/-- The stage of a filter of bookmarks. The rank is the time of the latest one. -/
def bookmarkClause (upstream : String) (f : BookmarkFilter) : Query :=
  grouped upstream
    [rankColumn .timeAdded (.aggregate .max (.ref (.of "bookmarks" "time_added")))]
    [joinOn "bookmarks" "item_id" itemId]
    (.oneOf (.of "bookmarks" "user") ((bookmarkUsers f).map .text)
      :: Library.oneOfTexts (.of "bookmarks" "namespace") (Text.nonBlank f.namespaces))

/-- The rows a text search finds, with their ranks: of paths, and of
extracted text. -/
def textHits (upstream : String) (f : AnyTextFilter) : List Query :=
  let ranked (table : String) : List Column := [⟨.ref (.of table "rank"), some "rank"⟩]
  let paths := rows upstream (ranked "files_path_fts")
    [joinOn "files_path_fts" "rowid" fileId]
    [.fullText (.bare "files_path_fts") f.expression]
  let texts := rows upstream (ranked "extracted_text_fts") extractedTextJoins
    (.fullText (.bare "extracted_text_fts") f.expression
      :: Library.setBy (.of "extracted_text" "setter_id") (Text.nonBlank f.textSetters))
  (if f.includePath then [paths] else []) ++ (if f.includeExtractedText then [texts] else [])

/-- The stage of a search in paths and extracted texts at once. The rank is
the best of all hits. -/
def anyTextClause (upstream : String) (f : AnyTextFilter) : Query :=
  .select
    { columns := idColumns "hits"
        ++ [rankColumn .anyText (.aggregate .min (.ref (.of "hits" "rank")))]
      source := .query (.compound .unionAll (textHits upstream f)) (some "hits")
      grouping := [.ref (.of "hits" "file_id"), .ref (.of "hits" "item_id")] }

/-- The stage of a filter over the stage `upstream`. -/
def clause (upstream : String) : Filter → Query
  | files f => filesClause upstream f
  | pathText f => pathTextClause upstream f
  | extractedText f => extractedTextClause upstream f
  | extractedTextEmbeddings f => textEmbeddingClause upstream f
  | imageEmbeddings f => imageEmbeddingClause upstream f
  | itemSimilarity f => similarityClause upstream f
  | bookmarks f => bookmarkClause upstream f
  | anyText f => anyTextClause upstream f

end Filter

end MediaSearch
