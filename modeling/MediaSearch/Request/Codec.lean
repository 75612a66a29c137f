/-
MediaSearch/Request/Codec.lean

Requests and rules in JSON.
-/
import MediaSearch.Chain
import MediaSearch.Filter.Codec
import MediaSearch.Request

namespace MediaSearch

open Json

/-- An order is spelled by its name. -/
def OrderBy.codec : Codec OrderBy :=
  .choice (OrderBy.all.map fun order => (order.name, order)) OrderBy.name

/-- The word for a direction in requests. -/
def directionName : Sql.SortDirection → String
  | .ascending => "asc"
  | .descending => "desc"

/-- A direction is spelled by its name. -/
def directionCodec : Codec Sql.SortDirection :=
  .choice [("asc", .ascending), ("desc", .descending)] directionName

/-- Sets of filters as objects with a member for each kind. -/
def FilterSet.record : Record FilterSet where
  title := "QueryFilters"
  fields :=
    [.of "files" (.option FileFilter.record.codec) (·.files) ({ · with files := · }),
      .of "path_text" (.option PathTextFilter.record.codec) (·.pathText)
        ({ · with pathText := · }),
      .of "extracted_text" (.option ExtractedTextFilter.record.codec) (·.extractedText)
        ({ · with extractedText := · }),
      .of "extracted_text_embeddings" (.option TextEmbeddingFilter.record.codec)
        (·.extractedTextEmbeddings) ({ · with extractedTextEmbeddings := · }),
      .of "image_embeddings" (.option ImageEmbeddingFilter.record.codec) (·.imageEmbeddings)
        ({ · with imageEmbeddings := · }),
      .of "item_similarity" (.option SimilarityFilter.record.codec) (·.itemSimilarity)
        ({ · with itemSimilarity := · }),
      .of "bookmarks" (.option BookmarkFilter.record.codec) (·.bookmarks)
        ({ · with bookmarks := · }),
      .of "any_text" (.option AnyTextFilter.record.codec) (·.anyText) ({ · with anyText := · })]
  initial := {}

/-- What to search for as an object. -/
def Criteria.record : Record Criteria where
  title := "QueryParams"
  fields :=
    [.of "tags" TagFilter.codec (·.tags) ({ · with tags := · }),
      .of "filters" FilterSet.record.codec (·.filters) ({ · with filters := · }),
      .of "exclude" (.list Filter.codec) (·.exclude) ({ · with exclude := · })]
  initial := {}

/-- Order and page as an object. -/
def Paging.record : Record Paging where
  title := "OrderParams"
  fields :=
    [.of "order_by" (.option OrderBy.codec) (·.orderBy) ({ · with orderBy := · }),
      .of "order" (.option directionCodec) (·.direction) ({ · with direction := · }),
      .of "page" .i64 (·.page) ({ · with page := · }),
      .of "page_size" (.option .u64) (·.pageSize) ({ · with pageSize := · })]
  initial := {}

/-- Requests as objects. -/
def Request.record : Record Request where
  title := "SearchQuery"
  fields :=
    [.of "query" Criteria.record.codec (·.criteria) ({ · with criteria := · }),
      .of "order" Paging.record.codec (·.paging) ({ · with paging := · }),
      .of "count" .bool (·.count) ({ · with count := · }),
      .of "check_path" (.option .bool) (·.checkPath) ({ · with checkPath := · })]
  initial := {}

/-- Requests are read from texts and written as objects. -/
def Request.codec : Codec Request := Request.record.codec

/-- Rules as objects of their two lists. -/
def ItemRule.record : Record ItemRule where
  title := "RuleItemFilters"
  fields :=
    [.of "positive" (.list Filter.codec) (·.positive) ({ · with positive := · }),
      .of "negative" (.list Filter.codec) (·.negative) ({ · with negative := · })]
  initial := {}

/-- Rules are read from texts and written as objects. -/
def ItemRule.codec : Codec ItemRule := ItemRule.record.codec

end MediaSearch
