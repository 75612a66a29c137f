/-
MediaSearch/Proofs/Compile/Total.lean

The total and the pages of a search describe the same rows.

Both statements share the body, which has one row for each file that the
chain leaves (`Chain.rows_body`).  Counting it gives the number of its rows,
and sorting it only rearranges them, so the total is the number of rows that
the fetch statement has without its limit and offset.  The body does not
depend on order and page, and neither does the total.

Main result: `Settings.compile_total`.
-/
import MediaSearch.Proofs.Compile.Body
import MediaSearch.Proofs.Compile.Named

namespace MediaSearch

open Sql

/-! ### Counted and sorted rows -/

namespace Sql

variable (engine : Engine) (tables : Tables)

/-- A query with all its rows instead of a page of them. -/
def Query.unpaged : Query → Query
  | .page body order _ _ => .page body order (-1) 0
  | q => q

/-- A page without a limit has all rows. -/
theorem pageRows_all {α : Type} (rows : List α) : pageRows (-1) 0 rows = rows := by
  have negative : (-1 : Int64) < 0 := by decide
  rw [pageRows, if_pos negative]
  rfl

/-- Without a page, sorting only changes the order of rows. -/
theorem rows_unpaged_perm (body : Query) (order : List (Expr × SortDirection))
    (limit offset : Int64) :
    ((body.page order limit offset).unpaged.rows engine tables).Perm (body.rows engine tables) := by
  rw [Query.unpaged, Query.rows, pageRows_all]
  exact List.mergeSort_perm _ _

/-- Counting gives one row with the number of rows. -/
theorem relation_countRows (q : Query) :
    (countRows q).relation engine tables
      = ⟨["total"], [[.integer (.ofNat (q.rows engine tables).length)]]⟩ := by
  have one (scopes : List Scope) :
      (selectGroups engine [⟨.countAll, some "total"⟩] [] scopes).filter
        (meetsHaving engine none) = [scopes] := rfl
  have counted : ((countRows q).rows engine tables).map (·.2)
      = [[.integer (.ofNat (q.rows engine tables).length)]] := by
    rw [countRows, Query.rows, Source.relation, Source.name, List.foldl_nil, selectRows, one]
    simp [Expr.value, allTrue, Relation.scopes]
  rw [Query.relation, counted]
  rfl

end Sql

/-- The body of a chain has one row for each file that the chain leaves. -/
theorem Chain.rows_body_build {engine : Engine} {lib : Library} (resolve : lib.FilesResolve)
    {tags : Option Query}
    (listed : ∀ q, tags = some q → ∃ P, (q.relation engine lib.tables).Lists "item_id" P)
    (kept excluded : List Filter) :
    let chain := build tags kept excluded
    let files := (chain.leaves engine lib).map (·.1)
    (chain.body.rows engine lib.tables).map (fun row => row.1.value (.of "result" "file_id"))
        = files
      ∧ files.Nodup := by
  intro chain files
  obtain ⟨root, holds, mem_root⟩ := exists_holds_start listed
  choose pick decides using Filter.clause_decides engine lib
  obtain ⟨left, leftHolds, -⟩ := exists_holds_build holds decides kept excluded
  -- every candidate comes from a file, so its joins find their rows
  have fromFiles (ids : Int64 × Int64) (member : ids ∈ root.map Candidate.ids) :
      ∃ file ∈ lib.files, ids = (file.id, file.itemId) :=
    ((mem_root ids).mp member).1
  have leaves : files = left.map fun c => .integer c.file := by
    obtain ⟨extra, result⟩ := leftHolds.result_eq
    show (((chain.tables engine lib).relation chain.result).pairs).map (·.1) = _
    rw [result, pairs_stage, List.map_map, List.map_map]
    rfl
  have integers := leftHolds.distinct.map (f := Value.integer) fun a b same =>
    Value.integer.inj same
  rw [List.map_map] at integers
  rw [leaves]
  exact ⟨rows_body leftHolds resolve fromFiles, integers⟩

namespace Settings

/-- **The total of a search is the number of rows on all its pages**, of
which there is one for each file that the chain of the search leaves; and it
is the same for all orders, pages and page sizes. -/
theorem compile_total (settings : Settings) (request : Request) (engine : Engine)
    (lib : Library) (resolve : lib.FilesResolve) :
    let chain := settings.chain request.criteria
    let rows := chain.body.rows engine lib.tables
    let files := (chain.leaves engine lib).map (·.1)
    ∃ compiled, settings.compile request = .ok compiled
      ∧ rows.map (fun row => row.1.value (.of "result" "file_id")) = files
      ∧ files.Nodup
      ∧ (compiled.fetch.unpaged.rows engine lib.tables).Perm rows
      ∧ compiled.count.relation engine lib.tables
        = ⟨["total"],
          [[.integer (.ofNat (compiled.fetch.unpaged.rows engine lib.tables).length)]]⟩
      ∧ ∀ other : Request, other.criteria = request.criteria →
        ∃ compiled', settings.compile other = .ok compiled'
          ∧ compiled'.count.relation engine lib.tables
            = compiled.count.relation engine lib.tables := by
  intro chain rows files
  have listed (q : Query)
      (chosen : request.criteria.tags.query? settings.minTagConfidence = some q) :
      ∃ P, (q.relation engine lib.tables).Lists "item_id" P :=
    TagFilter.exists_lists_query? lib.shows_tables chosen
  obtain ⟨body, distinct⟩ := Chain.rows_body_build resolve listed
    request.criteria.filters.toList request.criteria.exclude
  -- lifting the window leaves the rows in some order
  have sorted : ((settings.statements request).fetch.unpaged.rows engine lib.tables).Perm rows :=
    rows_unpaged_perm engine lib.tables chain.body _ _ _
  refine ⟨_, settings.compile_eq_ok request, body, distinct, sorted, ?_, ?_⟩
  · rw [sorted.length_eq]
    exact relation_countRows engine lib.tables chain.body
  · intro other same
    refine ⟨_, settings.compile_eq_ok other, ?_⟩
    rw [statements, statements, same]

/-- A search for what is in one place but is no image. -/
def notImages : Request where
  criteria :=
    { filters := { files := some { pathPrefixes := ["/pets"] } }
      exclude := [.files { mimeTypes := ["image/"] }] }

/-- One file is no image, so the total is 1. -/
theorem compile_total_notImages :
    Library.pets.FilesResolve ∧ ∃ compiled, Settings.compile {} notImages = .ok compiled
      ∧ compiled.count.relation .idle Library.pets.tables = ⟨["total"], [[.integer 1]]⟩ := by
  obtain ⟨compiled, ok, body, -, sorted, total, -⟩ :=
    compile_total {} notImages .idle Library.pets Library.filesResolve_pets
  have leaves : (Settings.chain {} notImages.criteria).leaves .idle Library.pets
      = [(.integer 2, .integer 2)] := by
    decide +kernel
  have length := congrArg List.length body
  rw [List.length_map, leaves, List.map_singleton, List.length_singleton] at length
  rw [sorted.length_eq, length] at total
  exact ⟨Library.filesResolve_pets, compiled, ok, total⟩

end Settings

end MediaSearch
