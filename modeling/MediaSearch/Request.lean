/-
MediaSearch/Request.lean

Search requests.
-/
import MediaSearch.Filter.Basic
import MediaSearch.Order
import MediaSearch.Tags.Filter

namespace MediaSearch

/-- At most one filter of each kind. -/
structure FilterSet where
  files : Option FileFilter := none
  pathText : Option PathTextFilter := none
  extractedText : Option ExtractedTextFilter := none
  extractedTextEmbeddings : Option TextEmbeddingFilter := none
  imageEmbeddings : Option ImageEmbeddingFilter := none
  itemSimilarity : Option SimilarityFilter := none
  bookmarks : Option BookmarkFilter := none
  anyText : Option AnyTextFilter := none
  deriving DecidableEq

/-- The filters of a set in the order in which they are applied: those that
look at plain columns first, so that searches in text and among vectors see
fewer files. -/
def FilterSet.toList (s : FilterSet) : List Filter :=
  (s.files.map Filter.files).toList
    ++ (s.bookmarks.map Filter.bookmarks).toList
    ++ (s.pathText.map Filter.pathText).toList
    ++ (s.extractedText.map Filter.extractedText).toList
    ++ (s.anyText.map Filter.anyText).toList
    ++ (s.extractedTextEmbeddings.map Filter.extractedTextEmbeddings).toList
    ++ (s.imageEmbeddings.map Filter.imageEmbeddings).toList
    ++ (s.itemSimilarity.map Filter.itemSimilarity).toList

/-- What to search for. -/
structure Criteria where
  tags : TagFilter := {}
  filters : FilterSet := {}
  /-- Files that pass any of these are left out. -/
  exclude : List Filter := []
  deriving DecidableEq

/-- In which order, and which page of it. -/
structure Paging where
  orderBy : Option OrderBy := none
  direction : Option Sql.SortDirection := none
  /-- Counted from 1; lower numbers mean the first page. -/
  page : Int64 := 1
  /-- Rows a page; zero asks for everything in one. -/
  pageSize : Option UInt64 := none
  deriving DecidableEq

/-- A search: what for, in which order, and what to do besides. -/
structure Request where
  criteria : Criteria := {}
  paging : Paging := {}
  /-- Whether to count all matches; without it the total is zero. -/
  count : Bool := true
  /-- Whether results must exist on disk; the settings say if this does not. -/
  checkPath : Option Bool := none
  deriving DecidableEq

/-- A request with its tags in normal form. -/
def Request.normalize (r : Request) : Request :=
  { r with criteria := { r.criteria with tags := r.criteria.tags.normalize } }

end MediaSearch
