/-
MediaSearch/Compile.lean

The statements of a search.

Both statements share one body, which reads the last stage of the chain and
has a row for each file there.  The count statement counts its rows; the
fetch statement sorts them and takes a page.  So the total and the pages
describe the same rows.
-/
import MediaSearch.Chain
import MediaSearch.Request
import MediaSearch.Settings
import MediaSearch.Tags.Query

namespace MediaSearch

open Sql

/-- The statements of a request. -/
structure CompiledSearch where
  count : Query
  fetch : Query
  order : ResolvedOrder
  limit : Int64
  offset : Int64

namespace Chain

/-- The columns of every result. -/
def resultColumns : List Column :=
  [⟨.ref (.of "files" "path"), some "path"⟩,
    ⟨.ref (.of "items" "sha256"), some "sha256"⟩,
    ⟨.ref (.of "files" "last_modified"), some "last_modified"⟩,
    ⟨.ref (.of "items" "mime_type"), some "mime_type"⟩]

/-- Where the result reads the column of a rank: its own if it is the stage
that ranks, otherwise that of the stage. -/
def rankedResultColumn (result : String) (r : RankedStage) : Column :=
  ⟨.ref (.of (if r.stage = result then "result" else r.stage) r.rank.column),
    some r.rank.column⟩

/-- The join of a stage that ranks, unless it is the result itself. -/
def rankJoin (result : String) (r : RankedStage) : List Join :=
  if r.stage = result then []
  else [⟨r.stage, none, .ref (.of r.stage "file_id"), .ref (.of "result" "file_id")⟩]

/-- A row for each file that is left, with the ranks of all stages. -/
def body (chain : Chain) : Query :=
  .withStages chain.stages
    (.select
      { columns := resultColumns ++ chain.ranks.map (rankedResultColumn chain.result)
        source := .named chain.result (some "result")
        joins :=
          [⟨"files", none, .ref (.of "files" "id"), .ref (.of "result" "file_id")⟩,
            ⟨"items", none, .ref (.of "items" "id"), .ref (.of "result" "item_id")⟩]
          ++ chain.ranks.flatMap (rankJoin chain.result) })

end Chain

/-- The number of rows of a query. -/
def countRows (q : Query) : Query :=
  .select { columns := [⟨.countAll, some "total"⟩], source := .query q none }

/-- A natural number, or the largest signed number of 64 bits instead of a
larger one. -/
def clampInt64 (n : Nat) : Int64 :=
  Int64.ofInt (min n Int64.maxValue.toInt)

/-- The largest number of 64 bits instead of a larger product. -/
def saturatingMul (a b : Nat) : Nat :=
  min (a * b) (UInt64.size - 1)

namespace Settings

/-- The limit and the offset of a page.  Pages before the first are the
first. -/
def window (settings : Settings) (paging : Paging) : Int64 × Int64 :=
  let size := (settings.pageSize paging.pageSize).toNat
  let before := (max paging.page.toInt 1).toNat - 1
  (clampInt64 size, clampInt64 (saturatingMul before size))

/-- The chain of a request. -/
def chain (settings : Settings) (criteria : Criteria) : Chain :=
  Chain.build (criteria.tags.query? settings.minTagConfidence) criteria.filters.toList
    criteria.exclude

/-- The statements of a request, which should be normal. -/
def compile (settings : Settings) (request : Request) :
    Except ArityMismatch CompiledSearch := do
  let chain := settings.chain request.criteria
  let order := ResolvedOrder.resolve request.paging.orderBy request.paging.direction chain.active
  let (limit, offset) := settings.window request.paging
  let count := countRows chain.body
  let fetch := Query.page chain.body order.keys limit offset
  count.fragment.checkArity
  fetch.fragment.checkArity
  return { count, fetch, order, limit, offset }

end Settings

end MediaSearch
