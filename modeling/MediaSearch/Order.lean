/-
MediaSearch/Order.lean

What results are ordered by.

A request may order by a column of the files or by a rank.  Only ranks of
filters that are part of the query can be ordered by: any other falls back
to the time of modification.  A request that names no order gets that of the
first active rank in a fixed precedence.
-/
import MediaSearch.Filter.Kind
import MediaSearch.Sql.Query

namespace MediaSearch

open Sql

/-- What results can be ordered by. -/
inductive OrderBy where
  | lastModified
  | path
  | rank (r : Rank)
  deriving DecidableEq

namespace OrderBy

/-- All orders, as they are listed. -/
def all : List OrderBy :=
  [.lastModified, .path, .rank .timeAdded, .rank .extractedText, .rank .pathText,
    .rank .anyText, .rank .textDistance, .rank .imageDistance, .rank .similarityDistance]

/-- The name of an order in requests. -/
def name : OrderBy → String
  | lastModified => "last_modified"
  | path => "path"
  | rank r => r.column

/-- The kind of filter that must be active. -/
def source : OrderBy → Option FilterKind
  | lastModified | path => none
  | rank r => some r.kind

/-- What is recent or was added last comes first; of paths, ranks and
distances the least. -/
def naturalDirection : OrderBy → SortDirection
  | lastModified | rank .timeAdded => .descending
  | _ => .ascending

/-- The expression to sort by. -/
def target : OrderBy → Ref
  | lastModified => .of "files" "last_modified"
  | path => .of "files" "path"
  | rank r => .bare r.column

/-- Whether the order's filter, if it needs one, is active. -/
def isActive (order : OrderBy) (active : List FilterKind) : Bool :=
  order.source.all active.contains

end OrderBy

/-- The ranks tried, in turn, when no order is asked for. -/
def Rank.precedence : List Rank :=
  [.extractedText, .pathText, .timeAdded, .anyText, .textDistance, .imageDistance,
    .similarityDistance]

/-- An order and its direction. -/
structure ResolvedOrder where
  orderBy : OrderBy
  direction : SortDirection
  deriving DecidableEq

namespace ResolvedOrder

/-- An order in its natural direction. -/
def natural (order : OrderBy) : ResolvedOrder :=
  ⟨order, order.naturalDirection⟩

/-- An order in the direction asked for, or its natural one. -/
def directed (order : OrderBy) (direction : Option SortDirection) : ResolvedOrder :=
  ⟨order, direction.getD order.naturalDirection⟩

/-- The order when none is asked for. -/
def preferred (active : List FilterKind) : OrderBy :=
  match Rank.precedence.find? fun r => active.contains r.kind with
  | some r => .rank r
  | none => .lastModified

/-- The order of a query with the given kinds of filters.  If the order
asked for is not active, neither is the direction. -/
def resolve (requested : Option OrderBy) (direction : Option SortDirection)
    (active : List FilterKind) : ResolvedOrder :=
  match requested with
  | some order => if order.isActive active then directed order direction
    else natural .lastModified
  | none => directed (preferred active) direction

/-- What rows are sorted by; files that are equal otherwise come in the
order of their ids. -/
def keys (order : ResolvedOrder) : List (Expr × SortDirection) :=
  [(.ref order.orderBy.target, order.direction),
    (.ref (.of "result" "file_id"), .ascending)]

/-- The keys as text. -/
def text (order : ResolvedOrder) : String :=
  ", ".intercalate (order.keys.map fun (e, direction) => e.text ++ " " ++ direction.keyword)

end ResolvedOrder

end MediaSearch
