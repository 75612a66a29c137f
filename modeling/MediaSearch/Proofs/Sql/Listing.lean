/-
MediaSearch/Proofs/Sql/Listing.lean

Queries that list ids.

Such a query has one column of whole numbers, none of them twice, so all
there is to say about it is which ids it lists: `Relation.Lists r column P`
says they are those with the property `P`.  Set operations on such queries
are operations on the properties, and conditions that refer to one ask
whether an id has the property.
-/
import MediaSearch.Proofs.Sql.Select

namespace MediaSearch.Sql

/-- A row with one whole number. -/
def idRow (id : Int64) : List Value :=
  [.integer id]

/-- Whether a relation lists the ids with a property, each once. -/
def Relation.Lists (r : Relation) (column : String) (P : Int64 → Prop) : Prop :=
  ∃ ids : List Int64, r = ⟨[column], ids.map idRow⟩ ∧ ids.Nodup ∧ ∀ id, id ∈ ids ↔ P id

variable {engine : Engine} {tables : Tables} {r : Relation} {column : String}
  {P Q : Int64 → Prop}

theorem Relation.Lists.congr (listed : r.Lists column P) (same : ∀ id, P id ↔ Q id) :
    r.Lists column Q := by
  obtain ⟨ids, rows, distinct, mem_ids⟩ := listed
  exact ⟨ids, rows, distinct, fun id => (mem_ids id).trans (same id)⟩

theorem idRow_injective : Function.Injective idRow := by
  intro m n same
  simpa [idRow] using same

/-- The rows of such a relation are those of the ids it lists. -/
theorem Relation.Lists.mem_rows_iff (listed : r.Lists column P) {id : Int64} :
    idRow id ∈ r.rows ↔ P id := by
  obtain ⟨ids, rfl, -, mem_ids⟩ := listed
  exact (List.mem_map_of_injective idRow_injective).trans (mem_ids id)

/-- Two of them have the same rows exactly when they list the same ids. -/
theorem Relation.Lists.perm_iff {other : Relation} {label : String} (listed : r.Lists column P)
    (others : other.Lists label Q) : r.rows.Perm other.rows ↔ ∀ id, P id ↔ Q id := by
  obtain ⟨ids, rfl, distinct, mem_ids⟩ := listed
  obtain ⟨otherIds, rfl, otherDistinct, mem_others⟩ := others
  show (ids.map idRow).Perm (otherIds.map idRow) ↔ _
  rw [List.map_perm_map_iff idRow_injective, List.perm_ext_iff_of_nodup distinct otherDistinct]
  simp only [mem_ids, mem_others]

/-! ### Keys of rows -/

section Rows

variable {α : Type} {row : α → List Value}

/-- Rows whose keys tell what they were made from. -/
def TellsApart (row : α → List Value) : Prop :=
  ∀ a b, (row a).map Value.key = (row b).map Value.key → a = b

theorem TellsApart.mem_keys (tells : TellsApart row) {a : α} {as : List α} :
    (row a).map Value.key ∈ (as.map row).map (List.map Value.key) ↔ a ∈ as := by
  rw [List.map_map]
  exact List.mem_map_of_injective fun a b same => tells a b same

/-- Rows made from different things are all kept. -/
theorem TellsApart.distinctBy_map (tells : TellsApart row) {as : List α} (distinct : as.Nodup) :
    distinctBy (List.map Value.key) (as.map row) = as.map row := by
  refine distinctBy_of_nodup _ ?_
  rw [List.map_map]
  exact distinct.map fun a b same => tells a b same

/-- The intersection of rows that tell apart is that of what they are of. -/
theorem TellsApart.combine_intersect [BEq α] [LawfulBEq α] (tells : TellsApart row) {as : List α}
    (distinct : as.Nodup) (bs : List α) :
    SetOperator.intersect.combine (as.map row) (bs.map row)
      = (as.filter (· ∈ bs)).map row := by
  rw [SetOperator.combine, List.filter_map]
  simp only [Function.comp_def, tells.mem_keys]
  exact tells.distinctBy_map (distinct.filter _)

/-- The difference of rows that tell apart is that of what they are of. -/
theorem TellsApart.combine_except [BEq α] [LawfulBEq α] (tells : TellsApart row) {as : List α}
    (distinct : as.Nodup) (bs : List α) :
    SetOperator.except.combine (as.map row) (bs.map row) = (as.filter (· ∉ bs)).map row := by
  rw [SetOperator.combine, List.filter_map]
  simp only [Function.comp_def, tells.mem_keys]
  exact tells.distinctBy_map (distinct.filter _)

end Rows

theorem tellsApart_idRow : TellsApart idRow := by
  intro m n same
  simpa [idRow, Value.key_integer_inj] using same

/-! ### Set operations -/

theorem relation_compound_pair (operator : SetOperator) (left right : Query) :
    (Query.compound operator [left, right]).relation engine tables
      = ⟨left.columns engine, operator.combine (left.relation engine tables).rows
          (right.relation engine tables).rows⟩ := by
  simp [Query.relation, Query.columns, Query.rows, partRows, SetOperator.combineAll,
    Function.comp_def]

/-- An intersection lists what both parts list. -/
theorem lists_intersect {left right : Query} {other : String}
    (lefts : (left.relation engine tables).Lists column P)
    (rights : (right.relation engine tables).Lists other Q) :
    ((Query.compound .intersect [left, right]).relation engine tables).Lists column
      fun id => P id ∧ Q id := by
  obtain ⟨ids, rows, distinct, mem_ids⟩ := lefts
  obtain ⟨others, otherRows, -, mem_others⟩ := rights
  refine ⟨ids.filter (· ∈ others), ?_, distinct.filter _, fun id => ?_⟩
  · have columns : left.columns engine = [column] := congrArg Relation.columns rows
    rw [relation_compound_pair, columns, rows, otherRows,
      tellsApart_idRow.combine_intersect distinct]
  · rw [List.mem_filter, decide_eq_true_eq, mem_ids, mem_others]

/-- A difference lists what the first part lists and the second does not. -/
theorem lists_except {left right : Query} {other : String}
    (lefts : (left.relation engine tables).Lists column P)
    (rights : (right.relation engine tables).Lists other Q) :
    ((Query.compound .except [left, right]).relation engine tables).Lists column
      fun id => P id ∧ ¬ Q id := by
  obtain ⟨ids, rows, distinct, mem_ids⟩ := lefts
  obtain ⟨others, otherRows, -, mem_others⟩ := rights
  refine ⟨ids.filter (· ∉ others), ?_, distinct.filter _, fun id => ?_⟩
  · have columns : left.columns engine = [column] := congrArg Relation.columns rows
    rw [relation_compound_pair, columns, rows, otherRows,
      tellsApart_idRow.combine_except distinct]
  · rw [List.mem_filter, decide_eq_true_eq, mem_ids, mem_others]

/-- Selecting the only column again changes nothing. -/
theorem lists_reselect {q : Query} {label : Option String}
    (listed : (q.relation engine tables).Lists column P) :
    ((Query.select
      { columns := [⟨.ref (.bare column), none⟩]
        source := .query q label }).relation engine tables).Lists column P := by
  obtain ⟨ids, rows, distinct, mem_ids⟩ := listed
  refine ⟨ids, ?_, distinct, mem_ids⟩
  -- the query in parentheses is read as a table of one column
  have source : (Source.query q label).relation engine tables = ⟨[column], ids.map idRow⟩ := by
    rw [Source.relation]
    exact rows
  have joined : [].foldl (joinRows engine tables)
      (((Source.query q label).relation engine tables).scopes (Source.query q label).name)
      = ids.map fun id => [((Source.query q label).name, [column].zip (idRow id))] := by
    rw [source]
    exact Relation.scopes_map [column] idRow ids _
  rw [Query.relation, Query.columns, rows_select_joins rfl _ joined, List.map_map]
  congr 1
  refine List.map_congr_left fun id _ => ?_
  simp [idRow, Expr.value]

/-! ### Conditions -/

theorem firstValues_of_rows {q : Query} {ids : List Int64}
    (rows : (q.rows engine tables).map (·.2) = ids.map idRow) :
    (q.rows engine tables).map (fun row => firstValue row.2) = ids.map .integer := by
  have firsts := congrArg (List.map firstValue) rows
  rw [List.map_map, List.map_map] at firsts
  exact firsts

/-- An id is among those a query lists; no cell is empty, so the answer is known. -/
theorem truth_inQuery {scope : Scope} {ref : Ref} {n : Int64} {q : Query} {ids : List Int64}
    (cell : scope.value ref = .integer n)
    (rows : (q.rows engine tables).map (·.2) = ids.map idRow) :
    (Condition.inQuery ref q).truth engine tables scope = some true ↔ n ∈ ids := by
  rw [Condition.truth, firstValues_of_rows rows, cell, Value.integer_isAmong_integers]

theorem truth_notInQuery {scope : Scope} {ref : Ref} {n : Int64} {q : Query} {ids : List Int64}
    (cell : scope.value ref = .integer n)
    (rows : (q.rows engine tables).map (·.2) = ids.map idRow) :
    (Condition.notInQuery ref q).truth engine tables scope = some true ↔ n ∉ ids := by
  rw [Condition.truth, firstValues_of_rows rows, cell, Value.integer_not_isAmong_integers]

end MediaSearch.Sql
