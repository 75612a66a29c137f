/-
MediaSearch/Filter/Basic.lean

Filters: what each kind of them asks for, and when it asks for anything.

A filter that asks for nothing, such as a text search for blank text, is not
valid.  It is never part of a query; a request with it means the same as one
without it.
-/
import MediaSearch.Filter.Kind
import MediaSearch.Number.Binary
import MediaSearch.Text.Blank

namespace MediaSearch

/-- How far apart two embeddings are. -/
inductive DistanceFunction where
  | l2
  | cosine
  deriving DecidableEq

/-- How the distances of the embeddings of one item become one. -/
inductive DistanceAggregation where
  | min
  | max
  | avg
  deriving DecidableEq

/-- Files by type, place, size and presence. -/
structure FileFilter where
  /-- Starts of MIME types, any of which will do. -/
  mimeTypes : List String := []
  /-- Starts of paths, any of which will do. -/
  pathPrefixes : List String := []
  minSize : Option UInt64 := none
  maxSize : Option UInt64 := none
  /-- Only files that were there at the last scan. -/
  availableOnly : Bool := false
  deriving DecidableEq

/-- A full-text search in paths, or in file names alone. -/
structure PathTextFilter where
  expression : String := ""
  filenameOnly : Bool := false
  deriving DecidableEq

/-- A full-text search in the text extracted from items. -/
structure ExtractedTextFilter where
  expression : String := ""
  setters : List String := []
  languages : List String := []
  minConfidence : Option Binary64 := none
  minLanguageConfidence : Option Binary64 := none
  deriving DecidableEq

/-- Items near to a vector by the embeddings of their extracted text. -/
structure TextEmbeddingFilter where
  embedding : List Binary32 := []
  /-- The setter whose embeddings are compared. -/
  model : String := ""
  function : DistanceFunction := .l2
  aggregation : DistanceAggregation := .min
  sourceSetters : List String := []
  sourceLanguages : List String := []
  sourceMinConfidence : Option Binary64 := none
  deriving DecidableEq

/-- Items near to a vector by the embeddings of their images. -/
structure ImageEmbeddingFilter where
  embedding : List Binary32 := []
  /-- The setter whose embeddings are compared. -/
  model : String := ""
  function : DistanceFunction := .l2
  aggregation : DistanceAggregation := .min
  deriving DecidableEq

/-- Items whose embeddings are near to those of another item. -/
structure SimilarityFilter where
  /-- The hash of the other item, which is left out itself. -/
  target : String := ""
  /-- The setter whose embeddings are compared. -/
  model : String := ""
  function : DistanceFunction := .l2
  aggregation : DistanceAggregation := .min
  deriving DecidableEq

/-- Bookmarked items. -/
structure BookmarkFilter where
  /-- The bookmark groups that count; all of them if there are none. -/
  namespaces : List String := []
  user : String := "user"
  /-- Whether bookmarks of the user `*` count as well. -/
  includeWildcard : Bool := true
  deriving DecidableEq

/-- One full-text search in paths and in extracted text. -/
structure AnyTextFilter where
  expression : String := ""
  includePath : Bool := true
  includeExtractedText : Bool := true
  textSetters : List String := []
  deriving DecidableEq

/-- A filter of any kind. -/
inductive Filter where
  | files (f : FileFilter)
  | pathText (f : PathTextFilter)
  | extractedText (f : ExtractedTextFilter)
  | extractedTextEmbeddings (f : TextEmbeddingFilter)
  | imageEmbeddings (f : ImageEmbeddingFilter)
  | itemSimilarity (f : SimilarityFilter)
  | bookmarks (f : BookmarkFilter)
  | anyText (f : AnyTextFilter)
  deriving DecidableEq

namespace Filter

/-- The kind that a filter is of. -/
def kind : Filter → FilterKind
  | files _ => .files
  | pathText _ => .pathText
  | extractedText _ => .extractedText
  | extractedTextEmbeddings _ => .extractedTextEmbeddings
  | imageEmbeddings _ => .imageEmbeddings
  | itemSimilarity _ => .itemSimilarity
  | bookmarks _ => .bookmarks
  | anyText _ => .anyText

/-- Whether the filter asks for anything. -/
def isValid : Filter → Bool
  | files f =>
    !(Text.nonBlank f.mimeTypes).isEmpty || !(Text.nonBlank f.pathPrefixes).isEmpty
      || f.minSize.isSome || f.maxSize.isSome || f.availableOnly
  | pathText f => !Text.isBlankText f.expression
  | extractedText f => !Text.isBlankText f.expression
  | extractedTextEmbeddings f => !f.embedding.isEmpty && !Text.isBlankText f.model
  | imageEmbeddings f => !f.embedding.isEmpty && !Text.isBlankText f.model
  | itemSimilarity f => !Text.isBlankText f.target && !Text.isBlankText f.model
  | bookmarks f => !Text.isBlankText f.user
  | anyText f => !Text.isBlankText f.expression && (f.includePath || f.includeExtractedText)

end Filter

end MediaSearch
