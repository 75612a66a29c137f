/-
MediaSearch/Proofs/Request/Spelling.lean

What requests, filters, rules and settings may be written as in JSON.

For every record there is the list of its fields in their order, each with
its name, what spells its value, and the default it has where it is left out.
A filter is spelled by what spells its contents together with its kind.
-/
import MediaSearch.Proofs.Json.Spelling
import MediaSearch.Request.Codec
import MediaSearch.Settings.Codec

namespace MediaSearch

open Json

/-! ### Tag filters -/

/-- The members of a tag filter, each with its spelling and default. -/
def TagFilter.fieldSpellings : List (FieldSpelling TagFilter) :=
  [.of "pos_match_all" (.list .string) (·.requireAll) [],
    .of "pos_match_any" (.list .string) (·.requireAny) [],
    .of "neg_match_any" (.list .string) (·.rejectAny) [],
    .of "neg_match_all" (.list .string) (·.rejectAll) [],
    .of "all_setters_required" .bool (·.everySetter) false,
    .of "setters" (.list .string) (·.setters) [],
    .of "namespaces" (.list .string) (·.namespaces) [],
    .of "min_confidence" (.option (.number .double)) (·.minConfidence) none]

/-- What spells a tag filter. -/
abbrev TagFilter.spelling : Spelling TagFilter :=
  .record TagFilter.fieldSpellings

/-! ### Filters -/

/-- The members of a filter of files. A size that is absent is no bound. -/
def FileFilter.fieldSpellings : List (FieldSpelling FileFilter) :=
  [.of "mime_types" (.list .string) (·.mimeTypes) [],
    .of "path_prefixes" (.list .string) (·.pathPrefixes) [],
    .of "min_size" (.option .u64) (·.minSize) none,
    .of "max_size" (.option .u64) (·.maxSize) none,
    .of "available_only" .bool (·.availableOnly) false]

/-- What spells a filter of files. -/
abbrev FileFilter.spelling : Spelling FileFilter :=
  .record FileFilter.fieldSpellings

/-- The members of a search in paths. -/
def PathTextFilter.fieldSpellings : List (FieldSpelling PathTextFilter) :=
  [.of "query" .string (·.expression) "",
    .of "only_match_filename" .bool (·.filenameOnly) false]

/-- What spells a search in paths. -/
abbrev PathTextFilter.spelling : Spelling PathTextFilter :=
  .record PathTextFilter.fieldSpellings

/-- The members of a search in extracted texts. -/
def ExtractedTextFilter.fieldSpellings : List (FieldSpelling ExtractedTextFilter) :=
  [.of "query" .string (·.expression) "",
    .of "setters" (.list .string) (·.setters) [],
    .of "languages" (.list .string) (·.languages) [],
    .of "min_confidence" (.option (.number .double)) (·.minConfidence) none,
    .of "min_language_confidence" (.option (.number .double)) (·.minLanguageConfidence) none]

/-- What spells a search in extracted texts. -/
abbrev ExtractedTextFilter.spelling : Spelling ExtractedTextFilter :=
  .record ExtractedTextFilter.fieldSpellings

/-- The members of a search among the embeddings of texts. -/
def TextEmbeddingFilter.fieldSpellings : List (FieldSpelling TextEmbeddingFilter) :=
  [.of "embedding" (.list (.number .single)) (·.embedding) [],
    .of "model" .string (·.model) "",
    .of "distance_function" (.choice DistanceFunction.name) (·.function) .l2,
    .of "distance_aggregation" (.choice DistanceAggregation.name) (·.aggregation) .min,
    .of "src_setters" (.list .string) (·.sourceSetters) [],
    .of "src_languages" (.list .string) (·.sourceLanguages) [],
    .of "src_min_confidence" (.option (.number .double)) (·.sourceMinConfidence) none]

/-- What spells a search among the embeddings of texts. -/
abbrev TextEmbeddingFilter.spelling : Spelling TextEmbeddingFilter :=
  .record TextEmbeddingFilter.fieldSpellings

/-- The members of a search among the embeddings of images. -/
def ImageEmbeddingFilter.fieldSpellings : List (FieldSpelling ImageEmbeddingFilter) :=
  [.of "embedding" (.list (.number .single)) (·.embedding) [],
    .of "model" .string (·.model) "",
    .of "distance_function" (.choice DistanceFunction.name) (·.function) .l2,
    .of "distance_aggregation" (.choice DistanceAggregation.name) (·.aggregation) .min]

/-- What spells a search among the embeddings of images. -/
abbrev ImageEmbeddingFilter.spelling : Spelling ImageEmbeddingFilter :=
  .record ImageEmbeddingFilter.fieldSpellings

/-- The members of a search near to an item. -/
def SimilarityFilter.fieldSpellings : List (FieldSpelling SimilarityFilter) :=
  [.of "target" .string (·.target) "",
    .of "model" .string (·.model) "",
    .of "distance_function" (.choice DistanceFunction.name) (·.function) .l2,
    .of "distance_aggregation" (.choice DistanceAggregation.name) (·.aggregation) .min]

/-- What spells a search near to an item. -/
abbrev SimilarityFilter.spelling : Spelling SimilarityFilter :=
  .record SimilarityFilter.fieldSpellings

/-- The members of a filter of bookmarks. Without a user it is for the default
one, and those of everyone count as well. -/
def BookmarkFilter.fieldSpellings : List (FieldSpelling BookmarkFilter) :=
  [.of "namespaces" (.list .string) (·.namespaces) [],
    .of "user" .string (·.user) "user",
    .of "include_wildcard" .bool (·.includeWildcard) true]

/-- What spells a filter of bookmarks. -/
abbrev BookmarkFilter.spelling : Spelling BookmarkFilter :=
  .record BookmarkFilter.fieldSpellings

/-- The members of a search in texts of either kind. Both kinds are searched
unless the request says otherwise. -/
def AnyTextFilter.fieldSpellings : List (FieldSpelling AnyTextFilter) :=
  [.of "query" .string (·.expression) "",
    .of "include_path" .bool (·.includePath) true,
    .of "include_extracted_text" .bool (·.includeExtractedText) true,
    .of "text_setters" (.list .string) (·.textSetters) []]

/-- What spells a search in texts of either kind. -/
abbrev AnyTextFilter.spelling : Spelling AnyTextFilter :=
  .record AnyTextFilter.fieldSpellings

/-- A filter without its kind. -/
def Filter.contents : Spelling Filter where
  spells origin
    | files f, j => FileFilter.spelling.spells origin f j
    | pathText f, j => PathTextFilter.spelling.spells origin f j
    | extractedText f, j => ExtractedTextFilter.spelling.spells origin f j
    | extractedTextEmbeddings f, j => TextEmbeddingFilter.spelling.spells origin f j
    | imageEmbeddings f, j => ImageEmbeddingFilter.spelling.spells origin f j
    | itemSimilarity f, j => SimilarityFilter.spelling.spells origin f j
    | bookmarks f, j => BookmarkFilter.spelling.spells origin f j
    | anyText f, j => AnyTextFilter.spelling.spells origin f j
  finite
    | files f => FileFilter.spelling.finite f
    | pathText f => PathTextFilter.spelling.finite f
    | extractedText f => ExtractedTextFilter.spelling.finite f
    | extractedTextEmbeddings f => TextEmbeddingFilter.spelling.finite f
    | imageEmbeddings f => ImageEmbeddingFilter.spelling.finite f
    | itemSimilarity f => SimilarityFilter.spelling.finite f
    | bookmarks f => BookmarkFilter.spelling.finite f
    | anyText f => AnyTextFilter.spelling.finite f
  levels := 2

/-- What spells a filter of any kind: its contents, with the kind among the members. -/
def Filter.spelling : Spelling Filter :=
  .tagged "kind" (·.kind.name) Filter.contents

/-! ### Requests and rules -/

/-- The members of a set of filters, one for each kind. -/
def FilterSet.fieldSpellings : List (FieldSpelling FilterSet) :=
  [.of "files" (.option FileFilter.spelling) (·.files) none,
    .of "path_text" (.option PathTextFilter.spelling) (·.pathText) none,
    .of "extracted_text" (.option ExtractedTextFilter.spelling) (·.extractedText) none,
    .of "extracted_text_embeddings" (.option TextEmbeddingFilter.spelling)
      (·.extractedTextEmbeddings) none,
    .of "image_embeddings" (.option ImageEmbeddingFilter.spelling) (·.imageEmbeddings) none,
    .of "item_similarity" (.option SimilarityFilter.spelling) (·.itemSimilarity) none,
    .of "bookmarks" (.option BookmarkFilter.spelling) (·.bookmarks) none,
    .of "any_text" (.option AnyTextFilter.spelling) (·.anyText) none]

/-- What spells a set of filters. -/
abbrev FilterSet.spelling : Spelling FilterSet :=
  .record FilterSet.fieldSpellings

/-- The members of what to search for. -/
def Criteria.fieldSpellings : List (FieldSpelling Criteria) :=
  [.of "tags" TagFilter.spelling (·.tags) {},
    .of "filters" FilterSet.spelling (·.filters) {},
    .of "exclude" (.list Filter.spelling) (·.exclude) []]

/-- What spells what to search for. -/
abbrev Criteria.spelling : Spelling Criteria :=
  .record Criteria.fieldSpellings

/-- The members of an order with a page. The first page is the default one. -/
def Paging.fieldSpellings : List (FieldSpelling Paging) :=
  [.of "order_by" (.option (.choice OrderBy.name)) (·.orderBy) none,
    .of "order" (.option (.choice directionName)) (·.direction) none,
    .of "page" .i64 (·.page) 1,
    .of "page_size" (.option .u64) (·.pageSize) none]

/-- What spells an order with a page. -/
abbrev Paging.spelling : Spelling Paging :=
  .record Paging.fieldSpellings

/-- The members of a request. Matches are counted unless the request says otherwise. -/
def Request.fieldSpellings : List (FieldSpelling Request) :=
  [.of "query" Criteria.spelling (·.criteria) {},
    .of "order" Paging.spelling (·.paging) {},
    .of "count" .bool (·.count) true,
    .of "check_path" (.option .bool) (·.checkPath) none]

/-- What spells a request. -/
abbrev Request.spelling : Spelling Request :=
  .record Request.fieldSpellings

/-- The members of a rule. -/
def ItemRule.fieldSpellings : List (FieldSpelling ItemRule) :=
  [.of "positive" (.list Filter.spelling) (·.positive) [],
    .of "negative" (.list Filter.spelling) (·.negative) []]

/-- What spells a rule. -/
abbrev ItemRule.spelling : Spelling ItemRule :=
  .record ItemRule.fieldSpellings

/-! ### Settings -/

/-- The members of settings for logging. -/
def LoggingSettings.fieldSpellings : List (FieldSpelling LoggingSettings) :=
  [.of "level" .string (·.level) "info",
    .of "file_logging" .bool (·.toFile) false,
    .of "directory" .string (·.directory) "logs"]

/-- What spells settings for logging. -/
abbrev LoggingSettings.spelling : Spelling LoggingSettings :=
  .record LoggingSettings.fieldSpellings

/-- The members of settings. -/
def Settings.fieldSpellings : List (FieldSpelling Settings) :=
  [.of "default_page_size" .u64 (·.defaultPageSize) 10,
    .of "unbounded_page_size" .u64 (·.unboundedPageSize) 9223372036854775807,
    .of "min_tag_confidence" (.option (.number .double)) (·.minTagConfidence) none,
    .of "check_path_by_default" .bool (·.checkPath) false,
    .of "logging" LoggingSettings.spelling (·.logging) {}]

/-- What spells settings. -/
abbrev Settings.spelling : Spelling Settings :=
  .record Settings.fieldSpellings

end MediaSearch
