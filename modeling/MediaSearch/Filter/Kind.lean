/-
MediaSearch/Filter/Kind.lean

The kinds of filters and the ranks some of them give.

Every kind but `files` ranks what it lets through.  A rank belongs to one
kind (`Rank.kind`), and that kind gives no other (`FilterKind.rank?`); the
two are inverse to each other (`rank?_eq_some_iff`).  The name of a rank is
at once the column of the stage that computes it and the word a request
orders by.
-/
namespace MediaSearch

/-- The kinds of filters. -/
inductive FilterKind where
  | files
  | pathText
  | extractedText
  | extractedTextEmbeddings
  | imageEmbeddings
  | itemSimilarity
  | bookmarks
  | anyText
  deriving DecidableEq

/-- A value that a filter gives each file it lets through. -/
inductive Rank where
  | timeAdded
  | extractedText
  | pathText
  | anyText
  | textDistance
  | imageDistance
  | similarityDistance
  deriving DecidableEq

namespace FilterKind

/-- All kinds, in the order in which they are listed. -/
def all : List FilterKind :=
  [.files, .pathText, .extractedText, .extractedTextEmbeddings, .imageEmbeddings,
    .itemSimilarity, .bookmarks, .anyText]

/-- The name of a kind, in requests and in the names of stages. -/
def name : FilterKind → String
  | files => "files"
  | pathText => "path_text"
  | extractedText => "extracted_text"
  | extractedTextEmbeddings => "extracted_text_embeddings"
  | imageEmbeddings => "image_embeddings"
  | itemSimilarity => "item_similarity"
  | bookmarks => "bookmarks"
  | anyText => "any_text"

/-- The rank a kind of filter gives. -/
def rank? : FilterKind → Option Rank
  | files => none
  | pathText => some .pathText
  | extractedText => some .extractedText
  | extractedTextEmbeddings => some .textDistance
  | imageEmbeddings => some .imageDistance
  | itemSimilarity => some .similarityDistance
  | bookmarks => some .timeAdded
  | anyText => some .anyText

end FilterKind

namespace Rank

/-- The column that holds the rank. -/
def column : Rank → String
  | timeAdded => "time_added"
  | extractedText => "rank_fts"
  | pathText => "rank_path_fts"
  | anyText => "rank_any_text"
  | textDistance => "text_vec_distance"
  | imageDistance => "image_vec_distance"
  | similarityDistance => "item_similarity_distance"

/-- The kind of filter that gives the rank. -/
def kind : Rank → FilterKind
  | timeAdded => .bookmarks
  | extractedText => .extractedText
  | pathText => .pathText
  | anyText => .anyText
  | textDistance => .extractedTextEmbeddings
  | imageDistance => .imageEmbeddings
  | similarityDistance => .itemSimilarity

end Rank

theorem FilterKind.rank?_eq_some_iff (k : FilterKind) (r : Rank) :
    k.rank? = some r ↔ r.kind = k := by
  cases k <;> cases r <;> decide

end MediaSearch
