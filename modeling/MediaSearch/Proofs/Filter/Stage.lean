/-
MediaSearch/Proofs/Filter/Stage.lean

Stages as lists of candidates, and what a stage makes of the one it reads.

A stage holds candidates: files with their items and, where the filter gives
a rank, the rank.  The query of a filter keeps to the ids of the stage it
reads, so what it makes of a candidate depends on the ids alone
(`Parts.found`): a stage that does not group has all that is found for each
candidate (`relation_rows`), and one that groups has one candidate for each
pair of ids for which anything is found (`relation_grouped`).
-/
import MediaSearch.Filter.Clause
import MediaSearch.Proofs.Sql.Frame
import MediaSearch.Proofs.Sql.Narrow

namespace MediaSearch

open Sql

/-! ### Candidates -/

/-- A file in a stage, with its item and the other cells of its row. -/
structure Candidate where
  file : Int64
  item : Int64
  rest : List Value
  deriving DecidableEq

namespace Candidate

/-- The ids of a candidate. -/
def ids (c : Candidate) : Int64 × Int64 :=
  (c.file, c.item)

/-- The row of a candidate in its stage. -/
def row (c : Candidate) : List Value :=
  .integer c.file :: .integer c.item :: c.rest

/-- The candidates with some pairs of ids, as a stage lets them through. -/
def choose (pick : Int64 × Int64 → Option (List Value)) (candidates : List Candidate) :
    List Candidate :=
  candidates.filterMap fun c => (pick c.ids).map (⟨c.file, c.item, ·⟩)

/-- What is let through is decided by the ids. -/
theorem map_ids_choose (pick : Int64 × Int64 → Option (List Value))
    (candidates : List Candidate) :
    (choose pick candidates).map ids
      = (candidates.map ids).filter fun ids => (pick ids).isSome := by
  induction candidates with
  | nil => rfl
  | cons c cs ih =>
    unfold choose at ih ⊢
    rw [List.map_cons, List.filterMap_cons, List.filter_cons]
    cases kept : pick c.ids with
    | none => simpa using ih
    | some rest => simpa [ids] using ih

/-- The ids of what a stage lets through. -/
theorem perm_map_ids_of_choose {pick : Int64 × Int64 → Option (List Value)}
    {left kept : List Candidate} (same : kept.Perm (choose pick left)) :
    (kept.map ids).Perm ((left.map ids).filter fun ids => (pick ids).isSome) := by
  rw [← map_ids_choose]
  exact same.map ids

/-- Candidates of different files have different ids. -/
theorem nodup_ids {candidates : List Candidate} (distinct : (candidates.map (·.file)).Nodup) :
    (candidates.map Candidate.ids).Nodup := by
  have files : candidates.map (·.file) = (candidates.map Candidate.ids).map (·.1) := by
    rw [List.map_map]
    rfl
  rw [files] at distinct
  exact distinct.of_map _

/-- What a filter leaves has each file at most once. -/
theorem nodup_files_of_perm {left kept : List Candidate} {meets : Int64 × Int64 → Bool}
    (distinct : (left.map (·.file)).Nodup)
    (same : (kept.map Candidate.ids).Perm ((left.map Candidate.ids).filter meets)) :
    (kept.map (·.file)).Nodup := by
  have files (candidates : List Candidate) :
      candidates.map (·.file) = (candidates.map Candidate.ids).map (·.1) := by
    rw [List.map_map]
    rfl
  rw [files] at distinct ⊢
  exact (same.map (·.1)).nodup_iff.mpr (distinct.sublist (List.filter_sublist.map _))

end Candidate

/-- The relation of a stage with some columns beside the ids. -/
def stage (extra : List String) (candidates : List Candidate) : Relation :=
  ⟨"file_id" :: "item_id" :: extra, candidates.map Candidate.row⟩

namespace Filter

/-- The columns that a filter reads of the stage before it. -/
def idView : View := ⟨"prev", ["file_id", "item_id"]⟩

/-- A row of a stage of which only the ids are left. -/
def idScope (ids : Int64 × Int64) : Scope :=
  [("prev", [("file_id", .integer ids.1), ("item_id", .integer ids.2)])]

/-- Of a row of a stage, only the ids are left when the rest is taken away. -/
theorem scopes_stage (extra : List String) (candidates : List Candidate) :
    ((stage extra candidates).scopes "prev").map (Scope.narrow idView)
      = candidates.map fun c => idScope c.ids := by
  rw [stage, Relation.scopes_map, List.map_map]
  refine List.map_congr_left fun c _ => ?_
  simp [Scope.narrow, idView, idScope, Cells.only, Candidate.row, Candidate.ids]

/-! ### Parts of a stage -/

/-- What the query of a stage does with the stage before it. -/
structure Parts where
  rank : List Column
  joins : List Join
  conditions : List Condition

namespace Parts

/-- Parts that keep to the ids of the stage before. -/
structure Keeps (p : Parts) : Prop where
  rank : ∀ c ∈ p.rank, idView.keepsExpr c.expr = true
  joins : ∀ j ∈ p.joins, idView.keepsJoin j = true
  conditions : ∀ c ∈ p.conditions, idView.keepsCondition c = true

variable {engine : Engine} {tables : Tables} {p : Parts}

/-- The joined rows for a pair of ids. -/
def found (p : Parts) (engine : Engine) (tables : Tables) (ids : Int64 × Int64) : List Scope :=
  ((p.joins.foldl (joinRows engine tables) [idScope ids]).filter
    fun scope => allTrue engine tables scope p.conditions).map (rankedScope engine p.conditions)

/-- The values of the rank for some joined rows. -/
def rankOf (p : Parts) (engine : Engine) (group : List Scope) : List Value :=
  p.rank.map fun c => c.expr.value engine group

/-- Joins go row by row. -/
theorem foldl_joinRows_flatMap {α : Type} (joins : List Join) (as : List α) (f : α → List Scope) :
    joins.foldl (joinRows engine tables) (as.flatMap f)
      = as.flatMap fun a => joins.foldl (joinRows engine tables) (f a) := by
  induction joins generalizing f with
  | nil => rfl
  | cons j joins ih =>
    have step : joinRows engine tables (as.flatMap f) j
        = as.flatMap fun a => joinRows engine tables (f a) j := by
      simp only [joinRows, List.flatMap_assoc]
    simp only [List.foldl_cons, step, ih]

/-- A joined row goes on from the row that was joined. -/
theorem mem_foldl_joinRows {joins : List Join} {scopes : List Scope} {scope : Scope}
    (joined : scope ∈ joins.foldl (joinRows engine tables) scopes) :
    ∃ base ∈ scopes, ∃ rest, scope = base ++ rest := by
  induction joins generalizing scopes with
  | nil => exact ⟨scope, joined, [], (List.append_nil scope).symm⟩
  | cons j joins ih =>
    obtain ⟨middle, among, rest, rfl⟩ := ih joined
    simp only [joinRows, List.mem_flatMap, List.mem_filter, List.mem_map] at among
    obtain ⟨base, there, ⟨added, -, rfl⟩, -⟩ := among
    exact ⟨base, there, added ++ rest, List.append_assoc base added rest⟩

/-- What is found for a pair of ids has these ids. -/
theorem ids_of_found {ids : Int64 × Int64} {scope : Scope}
    (member : scope ∈ p.found engine tables ids) :
    scope.value fileId = .integer ids.1 ∧ scope.value itemId = .integer ids.2 := by
  obtain ⟨joined, kept, rfl⟩ := List.mem_map.mp member
  obtain ⟨base, there, rest, rfl⟩ := mem_foldl_joinRows (List.mem_filter.mp kept).1
  rw [List.mem_singleton.mp there]
  simp [fileId, itemId, rankedScope, idScope]

/-- The narrow rows of a stage over a list of candidates. -/
theorem narrow_rows (keeps : p.Keeps) {upstream : String} {extra : List String}
    {candidates : List Candidate}
    (relation : tables.relation upstream = stage extra candidates) :
    ((((p.joins.foldl (joinRows engine tables) ((tables.relation upstream).scopes "prev")).filter
        fun scope => allTrue engine tables scope p.conditions).map
          (rankedScope engine p.conditions)).map (Scope.narrow idView))
      = candidates.flatMap fun c => p.found engine tables c.ids := by
  -- narrowing goes inwards, past the ranks, the conditions and the joins
  have ranks : Scope.narrow idView ∘ rankedScope engine p.conditions
      = rankedScope engine p.conditions ∘ Scope.narrow idView := by
    funext scope
    exact (rankedScope_narrow keeps.conditions scope).symm
  have answers : (fun scope => allTrue engine tables scope p.conditions) ∘ Scope.narrow idView
      = fun scope => allTrue engine tables scope p.conditions := by
    funext scope
    exact allTrue_narrow keeps.conditions scope
  have starts : candidates.map (fun c => idScope c.ids)
      = candidates.flatMap fun c => [idScope c.ids] := List.map_eq_flatMap
  rw [List.map_map, ranks, ← List.map_map, ← answers, ← List.filter_map,
    ← foldl_joinRows_narrow keeps.joins, relation, scopes_stage, starts,
    foldl_joinRows_flatMap, List.filter_flatMap, List.map_flatMap]
  rfl

theorem keeps_columns (keeps : p.Keeps) :
    ∀ c ∈ idColumns "prev" ++ p.rank, idView.keepsExpr c.expr = true := by
  intro c present
  rcases List.mem_append.mp present with id | rank
  · have all : ∀ c ∈ idColumns "prev", idView.keepsExpr c.expr = true := by decide
    exact all c id
  · exact keeps.rank c rank

/-- The cells of the row that a group gives. -/
theorem row_of_group {ids : Int64 × Int64} {group : List Scope} {scope : Scope}
    (member : scope ∈ p.found engine tables ids) (rest : List Scope)
    (first : group = scope :: rest) :
    (idColumns "prev" ++ p.rank).map (fun c => c.expr.value engine group)
      = (Candidate.mk ids.1 ids.2 (p.rankOf engine group)).row := by
  obtain ⟨file, item⟩ := ids_of_found member
  subst first
  rw [List.map_append]
  show [scope.value fileId, scope.value itemId] ++ _ = _
  rw [file, item]
  rfl

/-- What is found depends on the tables that the parts name alone. -/
theorem found_agree {names : List String} {others : Tables} (agree : tables.Agree names others)
    (joins : p.joins.map (·.table) ⊆ names) (conditions : conditionReads p.conditions ⊆ names)
    (ids : Int64 × Int64) : p.found engine tables ids = p.found engine others ids := by
  rw [found, found, foldl_joinRows_agree agree joins]
  simp only [allTrue_agree agree _ p.conditions conditions]

/-! ### Stages without groups -/

/-- The candidates found for a pair of ids. -/
def each (p : Parts) (engine : Engine) (tables : Tables) (ids : Int64 × Int64) :
    List Candidate :=
  (p.found engine tables ids).map fun scope => ⟨ids.1, ids.2, p.rankOf engine [scope]⟩

/-- A stage that does not group has the rows that are found for each candidate. -/
theorem rows_rows (keeps : p.Keeps)
    (single : (idColumns "prev" ++ p.rank).any (·.expr.isAggregate) = false) {upstream : String}
    {extra : List String} {candidates : List Candidate}
    (relation : tables.relation upstream = stage extra candidates) :
    ((rows upstream p.rank p.joins p.conditions).rows engine tables).map (·.2)
      = (candidates.flatMap fun c => p.each engine tables c.ids).map Candidate.row := by
  rw [rows, Query.rows, Source.relation, Source.name, Option.getD_some,
    selectRows_narrow (keeps_columns keeps) (by simp), narrow_rows keeps relation]
  have identity (scopes : List Scope) : scopes = scopes.map id := (List.map_id scopes).symm
  rw [identity (candidates.flatMap _), selectRows_map single, List.map_map, List.map_flatMap,
    List.map_flatMap]
  refine List.flatMap_congr fun c _ => ?_
  rw [each, List.map_map]
  refine List.map_congr_left fun scope member => ?_
  exact row_of_group member [] rfl

/-! ### Stages with groups -/

/-- The rank that what is found for a pair of ids gives, if anything is. -/
def pick (p : Parts) (engine : Engine) (tables : Tables) (ids : Int64 × Int64) :
    Option (List Value) :=
  if (p.found engine tables ids).isEmpty then none
  else some (p.rankOf engine (p.found engine tables ids))

/-- The candidate that a pair of ids gives. -/
def candidate? (p : Parts) (engine : Engine) (tables : Tables) (ids : Int64 × Int64) :
    Option Candidate :=
  (p.pick engine tables ids).map fun rest => ⟨ids.1, ids.2, rest⟩

/-- The key by which rows are grouped. -/
def idKey (scope : Scope) : Key × Key :=
  ((scope.value fileId).key, (scope.value itemId).key)

/-- The groups of what is found are those of the candidates for which
anything is. -/
theorem groups_perm {candidates : List Candidate}
    (distinct : (candidates.map Candidate.ids).Nodup) :
    (groupBy idKey (candidates.flatMap fun c => p.found engine tables c.ids)).Perm
      ((candidates.map fun c => p.found engine tables c.ids).filter fun g => !g.isEmpty) := by
  let mark (ids : Int64 × Int64) : Key × Key :=
    ((Value.integer ids.1).key, (Value.integer ids.2).key)
  -- no two candidates have the same ids, so the rows of each are one group
  have different : (candidates.map fun c => mark c.ids).Nodup := by
    have marks := distinct.map (f := mark) fun a b same => by
      rw [Prod.mk.injEq, Value.key_integer_inj, Value.key_integer_inj] at same
      exact Prod.ext same.1 same.2
    rwa [List.map_map] at marks
  refine groupBy_flatMap_perm idKey (fun c _ scope member => ?_) different
  obtain ⟨file, item⟩ := ids_of_found member
  rw [idKey, file, item]

/-- The cells of the row that a group gives. -/
def groupRow (p : Parts) (engine : Engine) (group : List Scope) : List Value :=
  (idColumns "prev" ++ p.rank).map fun c => c.expr.value engine group

/-- A stage that groups has a row for each group of what is found. -/
theorem rows_groups (keeps : p.Keeps) {upstream : String} {extra : List String}
    {candidates : List Candidate}
    (relation : tables.relation upstream = stage extra candidates) :
    ((grouped upstream p.rank p.joins p.conditions).rows engine tables).map (·.2)
      = (groupBy idKey (candidates.flatMap fun c => p.found engine tables c.ids)).map
          (p.groupRow engine) := by
  let ss := candidates.flatMap fun c => p.found engine tables c.ids
  have keys (a b : Scope) :
      [Expr.ref fileId, .ref itemId].map (fun e => (e.value engine [a]).key)
        = [Expr.ref fileId, .ref itemId].map (fun e => (e.value engine [b]).key)
      ↔ idKey a = idKey b := by
    simp [Expr.value, idKey]
  rw [grouped, Query.rows, Source.relation, Source.name, Option.getD_some,
    selectRows_narrow (keeps_columns keeps) (by decide), narrow_rows keeps relation]
  -- rows are grouped as images of something, here of themselves
  have identity : ss = ss.map id := (List.map_id ss).symm
  rw [show (candidates.flatMap fun c => p.found engine tables c.ids) = ss.map id from identity,
    selectRows_grouped_map id idKey keys, filter_meetsHaving_none, List.map_map, List.map_map,
    List.map_id]
  refine List.map_congr_left fun group _ => ?_
  simp [groupRow]

/-- A stage that groups has a candidate for each pair of ids for which
anything is found. -/
theorem rows_grouped (keeps : p.Keeps) {upstream : String}
    {extra : List String} {candidates : List Candidate}
    (relation : tables.relation upstream = stage extra candidates)
    (distinct : (candidates.map Candidate.ids).Nodup) :
    ∃ kept : List Candidate,
      ((grouped upstream p.rank p.joins p.conditions).rows engine tables).map (·.2)
        = kept.map Candidate.row
      ∧ kept.Perm (candidates.filterMap fun c => p.candidate? engine tables c.ids) := by
  refine exists_map_of_perm ?_
  rw [rows_groups keeps relation]
  -- the groups are what is found for each candidate, where anything is
  refine ((groups_perm distinct).map (p.groupRow engine)).trans (List.Perm.of_eq ?_)
  rw [List.filter_map, List.map_map, List.map_filterMap, ← List.filterMap_eq_map,
    List.filterMap_filter]
  refine List.filterMap_congr fun c _ => ?_
  cases group : p.found engine tables c.ids with
  | nil => simp [candidate?, pick, group]
  | cons scope rest =>
    have member : scope ∈ p.found engine tables c.ids := group ▸ List.mem_cons_self
    simp [candidate?, pick, group, groupRow, ← row_of_group member rest rfl]

end Parts

end Filter

end MediaSearch
