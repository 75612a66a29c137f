/-
MediaSearch/Filter/Codec.lean

Filters in JSON: each kind is a record, and a filter of any kind carries the
name of its kind in the member `kind`.
-/
import MediaSearch.Filter.Basic
import MediaSearch.Tags.Codec

namespace MediaSearch

open Json

/-- The kinds of filters by name. -/
def FilterKind.variants : List (String × FilterKind) :=
  FilterKind.all.map fun kind => (kind.name, kind)

/-- A kind is spelled by its name. -/
def FilterKind.codec : Codec FilterKind := .choice variants name

namespace DistanceFunction

/-- The name of a distance function. -/
def name : DistanceFunction → String
  | l2 => "l2"
  | cosine => "cosine"

/-- A distance function is spelled by its name. -/
def codec : Codec DistanceFunction := .choice [("l2", l2), ("cosine", cosine)] name

end DistanceFunction

namespace DistanceAggregation

/-- The name of a way to make one distance of many. -/
def name : DistanceAggregation → String
  | min => "MIN"
  | max => "MAX"
  | avg => "AVG"

/-- A way to make one distance of many is spelled by its name. -/
def codec : Codec DistanceAggregation :=
  .choice [("MIN", min), ("MAX", max), ("AVG", avg)] name

end DistanceAggregation

/-! ### The records of each kind -/

/-- Filters of files as objects. -/
def FileFilter.record : Record FileFilter where
  title := "MatchFiles"
  fields :=
    [.of "mime_types" strings (·.mimeTypes) ({ · with mimeTypes := · }),
      .of "path_prefixes" strings (·.pathPrefixes) ({ · with pathPrefixes := · }),
      .of "min_size" (.option .u64) (·.minSize) ({ · with minSize := · }),
      .of "max_size" (.option .u64) (·.maxSize) ({ · with maxSize := · }),
      .of "available_only" .bool (·.availableOnly) ({ · with availableOnly := · })]
  initial := {}

/-- Searches in paths as objects. -/
def PathTextFilter.record : Record PathTextFilter where
  title := "PathTextFilter"
  fields :=
    [.of "query" .string (·.expression) ({ · with expression := · }),
      .of "only_match_filename" .bool (·.filenameOnly) ({ · with filenameOnly := · })]
  initial := {}

/-- Searches in extracted texts as objects. -/
def ExtractedTextFilter.record : Record ExtractedTextFilter where
  title := "ExtractedTextFilter"
  fields :=
    [.of "query" .string (·.expression) ({ · with expression := · }),
      .of "setters" strings (·.setters) ({ · with setters := · }),
      .of "languages" strings (·.languages) ({ · with languages := · }),
      .of "min_confidence" (.option .f64) (·.minConfidence) ({ · with minConfidence := · }),
      .of "min_language_confidence" (.option .f64) (·.minLanguageConfidence)
        ({ · with minLanguageConfidence := · })]
  initial := {}

/-- Searches among the embeddings of texts as objects. -/
def TextEmbeddingFilter.record : Record TextEmbeddingFilter where
  title := "TextEmbeddingsFilter"
  fields :=
    [.of "embedding" (.list .f32) (·.embedding) ({ · with embedding := · }),
      .of "model" .string (·.model) ({ · with model := · }),
      .of "distance_function" DistanceFunction.codec (·.function) ({ · with function := · }),
      .of "distance_aggregation" DistanceAggregation.codec (·.aggregation)
        ({ · with aggregation := · }),
      .of "src_setters" strings (·.sourceSetters) ({ · with sourceSetters := · }),
      .of "src_languages" strings (·.sourceLanguages) ({ · with sourceLanguages := · }),
      .of "src_min_confidence" (.option .f64) (·.sourceMinConfidence)
        ({ · with sourceMinConfidence := · })]
  initial := {}

/-- Searches among the embeddings of images as objects. -/
def ImageEmbeddingFilter.record : Record ImageEmbeddingFilter where
  title := "ImageEmbeddingsFilter"
  fields :=
    [.of "embedding" (.list .f32) (·.embedding) ({ · with embedding := · }),
      .of "model" .string (·.model) ({ · with model := · }),
      .of "distance_function" DistanceFunction.codec (·.function) ({ · with function := · }),
      .of "distance_aggregation" DistanceAggregation.codec (·.aggregation)
        ({ · with aggregation := · })]
  initial := {}

/-- Searches near to an item as objects. -/
def SimilarityFilter.record : Record SimilarityFilter where
  title := "ItemSimilarityFilter"
  fields :=
    [.of "target" .string (·.target) ({ · with target := · }),
      .of "model" .string (·.model) ({ · with model := · }),
      .of "distance_function" DistanceFunction.codec (·.function) ({ · with function := · }),
      .of "distance_aggregation" DistanceAggregation.codec (·.aggregation)
        ({ · with aggregation := · })]
  initial := {}

/-- Filters of bookmarks as objects. -/
def BookmarkFilter.record : Record BookmarkFilter where
  title := "BookmarksFilter"
  fields :=
    [.of "namespaces" strings (·.namespaces) ({ · with namespaces := · }),
      .of "user" .string (·.user) ({ · with user := · }),
      .of "include_wildcard" .bool (·.includeWildcard) ({ · with includeWildcard := · })]
  initial := {}

/-- Searches in texts of either kind as objects. -/
def AnyTextFilter.record : Record AnyTextFilter where
  title := "AnyTextFilter"
  fields :=
    [.of "query" .string (·.expression) ({ · with expression := · }),
      .of "include_path" .bool (·.includePath) ({ · with includePath := · }),
      .of "include_extracted_text" .bool (·.includeExtractedText)
        ({ · with includeExtractedText := · }),
      .of "text_setters" strings (·.textSetters) ({ · with textSetters := · })]
  initial := {}

/-! ### Filters of any kind -/

namespace Filter

/-- Decodes the contents of a filter of a kind. -/
def decodeBody (kind : FilterKind) (j : Json) : Except Fault Filter :=
  match kind with
  | .files => (FileFilter.record.decode .stored j).map files
  | .pathText => (PathTextFilter.record.decode .stored j).map pathText
  | .extractedText => (ExtractedTextFilter.record.decode .stored j).map extractedText
  | .extractedTextEmbeddings =>
    (TextEmbeddingFilter.record.decode .stored j).map extractedTextEmbeddings
  | .imageEmbeddings => (ImageEmbeddingFilter.record.decode .stored j).map imageEmbeddings
  | .itemSimilarity => (SimilarityFilter.record.decode .stored j).map itemSimilarity
  | .bookmarks => (BookmarkFilter.record.decode .stored j).map bookmarks
  | .anyText => (AnyTextFilter.record.decode .stored j).map anyText

/-- The contents of a filter. -/
def members : Filter → List (String × Json)
  | files f => FileFilter.record.members f
  | pathText f => PathTextFilter.record.members f
  | extractedText f => ExtractedTextFilter.record.members f
  | extractedTextEmbeddings f => TextEmbeddingFilter.record.members f
  | imageEmbeddings f => ImageEmbeddingFilter.record.members f
  | itemSimilarity f => SimilarityFilter.record.members f
  | bookmarks f => BookmarkFilter.record.members f
  | anyText f => AnyTextFilter.record.members f

/-- A filter is spelled as the object of its kind, with the name of the kind
among its members. -/
def tagged : Tagged FilterKind Filter where
  tag := "kind"
  title := "internally tagged enum Filter"
  tags := FilterKind.variants
  body := decodeBody
  parts f := (f.kind.name, f.members)

/-- Filters of any kind as objects. -/
def codec : Codec Filter := tagged.codec

end Filter

end MediaSearch
