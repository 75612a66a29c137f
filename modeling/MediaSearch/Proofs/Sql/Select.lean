/-
MediaSearch/Proofs/Sql/Select.lean

The rows of a `SELECT`, read off the rows of its tables.

The rows a `SELECT` joins are scopes, lists of cells under the names of
tables.  Its queries are understood better on the rows themselves: on pairs
of a file and an item, say.  So each clause has a lemma that takes scopes
made from a list of such tuples to scopes made from another: joining a table
pairs the tuples up with its rows (`joinRows_map`), the conditions filter
them (`filter_allTrue_map`), and grouping groups them
(`selectRows_grouped_map`).
-/
import MediaSearch.Proofs.Sql.Meaning

namespace MediaSearch

/-! ### Groups of images -/

section Groups

variable {α β κ μ : Type} [DecidableEq κ] [DecidableEq μ]

theorem distinctBy_map (key : β → κ) (f : α → β) (as : List α) :
    distinctBy key (as.map f) = (distinctBy (key ∘ f) as).map f := by
  induction as with
  | nil => rfl
  | cons a as ih =>
    rw [List.map_cons, distinctBy, ih, distinctBy, List.map_cons, List.filter_map]
    rfl

theorem groupBy_map (key : β → κ) (f : α → β) (as : List α) :
    groupBy key (as.map f) = (groupBy (key ∘ f) as).map (List.map f) := by
  rw [groupBy, distinctBy_map, groupBy, List.map_map, List.map_map]
  refine List.map_congr_left fun a _ => ?_
  rw [Function.comp_apply, Function.comp_apply, List.filter_map]
  rfl

/-- Keys that tell the same elements apart give the same groups. -/
theorem groupBy_congr {key : α → κ} {mark : α → μ}
    (same : ∀ a b, key a = key b ↔ mark a = mark b) (as : List α) :
    groupBy key as = groupBy mark as := by
  simp only [groupBy, distinctBy_congr fun a _ b _ => same a b, same]

end Groups

namespace Sql

variable {engine : Engine} {tables : Tables}

/-! ### Conditions -/

/-- Conditions are all true if each of them is known to be. -/
theorem allTrue_iff {scope : Scope} {conditions : List Condition} :
    allTrue engine tables scope conditions = true
      ↔ ∀ c ∈ conditions, c.truth engine tables scope = some true := by
  induction conditions with
  | nil => simp [allTrue]
  | cons c cs ih => simp [allTrue, ih]

theorem allTrue_cons {scope : Scope} {c : Condition} {cs : List Condition} :
    allTrue engine tables scope (c :: cs) = true
      ↔ c.truth engine tables scope = some true ∧ allTrue engine tables scope cs = true := by
  simp [allTrue]

theorem allTrue_append {scope : Scope} {left right : List Condition} :
    allTrue engine tables scope (left ++ right)
      = (allTrue engine tables scope left && allTrue engine tables scope right) := by
  induction left with
  | nil => simp [allTrue]
  | cons c cs ih => simp [allTrue, ih, Bool.and_assoc]

/-- Whether a condition searches no full-text index. -/
def Condition.isPlain : Condition → Bool
  | .fullText _ _ => false
  | _ => true

/-- Without a full-text search there are no ranks. -/
theorem rankCells_of_plain {index : String} {entry : Cells} {conditions : List Condition}
    (plain : ∀ c ∈ conditions, c.isPlain = true) :
    rankCells engine index entry conditions = [] := by
  induction conditions with
  | nil => rfl
  | cons c cs ih =>
    have rest := ih fun d present => plain d (List.mem_cons_of_mem c present)
    have first := plain c List.mem_cons_self
    cases c <;> first | exact rest | cases first

/-- Without full-text conditions a row has no ranks. -/
theorem rankedScope_of_plain {conditions : List Condition}
    (plain : ∀ c ∈ conditions, c.isPlain = true) (scope : Scope) :
    rankedScope engine conditions scope = scope := by
  unfold rankedScope
  simp only [rankCells_of_plain plain, List.append_nil]
  exact List.map_id scope

theorem map_rankedScope_of_plain {conditions : List Condition}
    (plain : ∀ c ∈ conditions, c.isPlain = true) (scopes : List Scope) :
    scopes.map (rankedScope engine conditions) = scopes :=
  List.map_id'' (rankedScope_of_plain plain) scopes

/-- Without a condition on groups all of them stay. -/
theorem filter_meetsHaving_none (groups : List (List Scope)) :
    groups.filter (meetsHaving engine none) = groups :=
  List.filter_eq_self.mpr fun _ _ => rfl

/-! ### Set operations -/

theorem partRows_eq_map (parts : List Query) :
    partRows engine tables parts = parts.map fun q => (q.rows engine tables).map (·.2) := by
  induction parts with
  | nil => rfl
  | cons q qs ih => rw [partRows, ih, List.map_cons]

/-- A union of all rows has those of each part in turn. -/
theorem combineAll_unionAll (parts : List (List (List Value))) :
    SetOperator.unionAll.combineAll parts = parts.flatten := by
  -- the parts are united from the left
  have fold (first : List (List Value)) (rest : List (List (List Value))) :
      rest.foldl SetOperator.unionAll.combine first = first ++ rest.flatten := by
    induction rest generalizing first with
    | nil => simp
    | cons part rest ih =>
      rw [List.foldl_cons, ih, List.flatten_cons, SetOperator.combine, List.append_assoc]
  cases parts with
  | nil => rfl
  | cons first rest => exact fold first rest

/-! ### Scopes of tuples -/

section Tuples

variable {α β : Type}

/-- The pairs of two lists that belong together. -/
def pairsWith (together : α → β → Bool) (as : List α) (bs : List β) : List (α × β) :=
  as.flatMap fun a => (bs.filter (together a)).map (Prod.mk a)

/-- Pairs are of one element of each list that go together. -/
theorem mem_pairsWith {together : α → β → Bool} {as : List α} {bs : List β} {p : α × β} :
    p ∈ pairsWith together as bs ↔ p.1 ∈ as ∧ p.2 ∈ bs ∧ together p.1 p.2 = true := by
  obtain ⟨a, b⟩ := p
  simp [pairsWith]

theorem pairsWith_ne_nil_iff {together : α → β → Bool} {as : List α} {bs : List β} :
    pairsWith together as bs ≠ [] ↔ ∃ a ∈ as, ∃ b ∈ bs, together a b = true := by
  constructor
  · intro some
    obtain ⟨p, member⟩ := List.exists_mem_of_ne_nil _ some
    obtain ⟨left, right, meet⟩ := mem_pairsWith.mp member
    exact ⟨p.1, left, p.2, right, meet⟩
  · rintro ⟨a, left, b, right, meet⟩
    have pair : (a, b) ∈ pairsWith together as bs := mem_pairsWith.mpr ⟨left, right, meet⟩
    exact List.ne_nil_of_mem pair

theorem filter_ne_nil_iff {p : α → Prop} [DecidablePred p] {as : List α} :
    as.filter (fun a => p a) ≠ [] ↔ ∃ a ∈ as, p a := by
  simp [List.filter_eq_nil_iff]

/-- Conditions on the left elements can be checked with the pairs. -/
theorem pairsWith_filter (together : α → β → Bool) (meets : α → Bool) (as : List α)
    (bs : List β) :
    pairsWith together (as.filter meets) bs
      = pairsWith (fun a b => meets a && together a b) as bs := by
  induction as with
  | nil => rfl
  | cons a as ih =>
    rw [pairsWith] at ih ⊢
    rw [pairsWith, List.flatMap_cons]
    cases first : meets a with
    | false => simp [first, ih, pairsWith]
    | true => simp [first, ih, pairsWith]

theorem filter_pairsWith (together : α → β → Bool) (meets : α × β → Bool) (as : List α)
    (bs : List β) :
    (pairsWith together as bs).filter meets
      = pairsWith (fun a b => together a b && meets (a, b)) as bs := by
  rw [pairsWith, List.filter_flatMap]
  refine List.flatMap_congr fun a _ => ?_
  rw [List.filter_map, List.filter_filter]
  congr 1
  exact List.filter_congr fun b _ => Bool.and_comm _ _

/-- Of elements with different keys at most one has a given key. -/
theorem length_filter_le_one {κ : Type} {key : β → κ} {bs : List β} {meets : β → Bool} {k : κ}
    (different : (bs.map key).Nodup) (same : ∀ b, meets b = true → key b = k) :
    (bs.filter meets).length ≤ 1 := by
  have kept : ((bs.filter meets).map key).Nodup := different.sublist (List.filter_sublist.map key)
  -- different keys that are all the same
  have all : (bs.filter meets).map key = List.replicate (bs.filter meets).length k := by
    rw [← List.map_const']
    exact List.map_congr_left fun b member => same b (List.mem_filter.mp member).2
  rw [all] at kept
  exact List.nodup_replicate.mp kept

/-- What is there at most once is the first that is there. -/
theorem filter_eq_toList_find? {bs : List β} {meets : β → Bool}
    (few : (bs.filter meets).length ≤ 1) : bs.filter meets = (bs.find? meets).toList := by
  rw [← List.head?_filter]
  cases found : bs.filter meets with
  | nil => rfl
  | cons b rest =>
    rw [found, List.length_cons] at few
    obtain rfl := List.eq_nil_of_length_eq_zero (Nat.le_zero.mp (Nat.le_of_succ_le_succ few))
    rfl

theorem map_getD_filter_isSome (f : α → Option β) (b : β) (as : List α) :
    (as.filter fun a => (f a).isSome).map (fun a => (f a).getD b) = as.filterMap f := by
  induction as with
  | nil => rfl
  | cons a as ih =>
    cases image : f a with
    | none => simp [image, ih]
    | some c => simp [image, ih]

/-- Where keys are unique, each element goes with the first that has the key it
wants, if there is one. -/
theorem pairsWith_key {κ : Type} [DecidableEq κ] {key : β → κ} {bs : List β}
    (different : (bs.map key).Nodup) (wanted : α → κ) (as : List α) :
    pairsWith (fun a b => key b = wanted a) as bs
      = as.filterMap fun a => (bs.find? fun b => key b = wanted a).map (Prod.mk a) := by
  rw [pairsWith, List.filterMap_eq_flatMap_toList]
  refine List.flatMap_congr fun a _ => ?_
  have few : (bs.filter fun b => key b = wanted a).length ≤ 1 :=
    length_filter_le_one different fun b meets => of_decide_eq_true meets
  rw [filter_eq_toList_find? few]
  cases bs.find? fun b => key b = wanted a <;> rfl

/-- Where each element goes with one other at most, none comes twice. -/
theorem map_fst_pairsWith_sublist {together : α → β → Bool} {bs : List β}
    (few : ∀ a, (bs.filter (together a)).length ≤ 1) (as : List α) :
    ((pairsWith together as bs).map (·.1)).Sublist as := by
  induction as with
  | nil => exact List.Sublist.refl _
  | cons a as ih =>
    have first : ((bs.filter (together a)).map (Prod.mk a)).map (·.1)
        = List.replicate (bs.filter (together a)).length a := by
      rw [List.map_map, ← List.map_const']
      rfl
    rw [pairsWith, List.flatMap_cons, List.map_append, first]
    exact ((List.replicate_sublist_replicate a).mpr (few a)).append ih

theorem length_pairsWith_le {together : α → β → Bool} {bs : List β}
    (few : ∀ a, (bs.filter (together a)).length ≤ 1) (as : List α) :
    (pairsWith together as bs).length ≤ as.length := by
  rw [← List.length_map (·.1)]
  exact (map_fst_pairsWith_sublist few as).length_le

theorem Relation.scopes_map (columns : List String) (row : α → List Value) (as : List α)
    (label : String) :
    (Relation.mk columns (as.map row)).scopes label
      = as.map fun a => [(label, columns.zip (row a))] := by
  rw [Relation.scopes, List.map_map]
  rfl

/-- Joining a table pairs tuples up with its rows. -/
theorem joinRows_map {j : Join} {columns : List String} {row : β → List Value} {bs : List β}
    (table : tables.relation j.table = ⟨columns, bs.map row⟩) (scopeOf : α → Scope)
    (together : α → β → Bool)
    (condition : ∀ a b,
      let joined := scopeOf a ++ [(j.label.getD j.table, columns.zip (row b))]
      Comparison.eq.truth (j.left.value engine [joined]) (j.right.value engine [joined])
        = some true ↔ together a b = true) (as : List α) :
    joinRows engine tables (as.map scopeOf) j
      = (pairsWith together as bs).map fun p =>
          scopeOf p.1 ++ [(j.label.getD j.table, columns.zip (row p.2))] := by
  rw [joinRows, List.flatMap_map, pairsWith, List.map_flatMap, table]
  refine List.flatMap_congr fun a _ => ?_
  rw [Relation.scopes_map, List.map_map, List.filter_map, List.map_map]
  congr 1
  refine List.filter_congr fun b _ => ?_
  rw [Bool.eq_iff_iff, Function.comp_apply, decide_eq_true_eq]
  exact condition a b

/-- The conditions filter tuples. -/
theorem filter_allTrue_map {conditions : List Condition} (scopeOf : α → Scope)
    (meets : α → Bool)
    (condition : ∀ a, allTrue engine tables (scopeOf a) conditions = meets a) (as : List α) :
    ((as.map scopeOf).filter fun scope => allTrue engine tables scope conditions)
      = (as.filter meets).map scopeOf := by
  rw [List.filter_map]
  congr 1
  exact List.filter_congr fun a _ => condition a

/-- A `SELECT` that neither groups nor aggregates gives a row for each
tuple. -/
theorem selectRows_map {columns : List Column} (single : columns.any (·.expr.isAggregate) = false)
    (scopeOf : α → Scope) (as : List α) :
    selectRows engine false columns [] none (as.map scopeOf)
      = as.map fun a => (scopeOf a, columns.map fun c => c.expr.value engine [scopeOf a]) := by
  have everyGroup : meetsHaving engine none = fun _ => true := rfl
  simp [selectRows, selectGroups, single, everyGroup]

/-- A `SELECT` without groups gives a row for each joined row that meets its
conditions. -/
theorem rows_select_where {columns : List Column} {source : Source} {joins : List Join}
    {conditions : List Condition} (single : columns.any (·.expr.isAggregate) = false)
    (plain : ∀ c ∈ conditions, c.isPlain = true) (scopeOf : α → Scope) {meets : α → Bool}
    (condition : ∀ a, allTrue engine tables (scopeOf a) conditions = meets a) {as : List α}
    (joined : joins.foldl (joinRows engine tables)
      ((source.relation engine tables).scopes source.name) = as.map scopeOf) :
    (Query.select { columns, source, joins, conditions }).rows engine tables
      = (as.filter meets).map fun a =>
          (scopeOf a, columns.map fun c => c.expr.value engine [scopeOf a]) := by
  rw [Query.rows, joined, filter_allTrue_map scopeOf meets condition,
    map_rankedScope_of_plain plain, selectRows_map single]

/-- A `SELECT` of columns and joins alone gives a row for each joined row. -/
theorem rows_select_joins {columns : List Column} {source : Source} {joins : List Join}
    (single : columns.any (·.expr.isAggregate) = false) (scopeOf : α → Scope) {as : List α}
    (joined : joins.foldl (joinRows engine tables)
      ((source.relation engine tables).scopes source.name) = as.map scopeOf) :
    (Query.select { columns, source, joins }).rows engine tables
      = as.map fun a => (scopeOf a, columns.map fun c => c.expr.value engine [scopeOf a]) := by
  have unconditional (a : α) : allTrue engine tables (scopeOf a) [] = true := rfl
  rw [rows_select_where single (List.forall_mem_nil _) scopeOf unconditional joined,
    List.filter_true]

/-- A `SELECT DISTINCT` of columns alone gives a row for the first of all
tuples that agree on the columns. -/
theorem rows_select_distinct {κ : Type} [DecidableEq κ] {columns : List Column} {source : Source}
    (single : columns.any (·.expr.isAggregate) = false) (scopeOf : α → Scope) (mark : α → κ)
    (same : ∀ a b,
      (columns.map fun c => c.expr.value engine [scopeOf a]).map Value.key
        = (columns.map fun c => c.expr.value engine [scopeOf b]).map Value.key ↔ mark a = mark b)
    {as : List α} (read : (source.relation engine tables).scopes source.name = as.map scopeOf) :
    (Query.select { distinct := true, columns, source }).rows engine tables
      = (distinctBy mark as).map fun a =>
          (scopeOf a, columns.map fun c => c.expr.value engine [scopeOf a]) := by
  have unconditional (a : α) : allTrue engine tables (scopeOf a) [] = true := rfl
  rw [Query.rows, List.foldl_nil, read, filter_allTrue_map scopeOf _ unconditional,
    List.filter_true, map_rankedScope_of_plain (List.forall_mem_nil _)]
  show distinctBy _ (selectRows engine false columns [] none (as.map scopeOf)) = _
  rw [selectRows_map single, distinctBy_map]
  exact congrArg _ (distinctBy_congr fun a _ b _ => same a b)

/-- A `SELECT` that groups gives a row for each group of tuples. -/
theorem selectRows_grouped_map {κ : Type} [DecidableEq κ] {columns : List Column}
    {e : Expr} {grouping : List Expr} {having : Option (Expr × Value)} (scopeOf : α → Scope)
    (mark : α → κ)
    (same : ∀ a b,
      (e :: grouping).map (fun e => (e.value engine [scopeOf a]).key)
        = (e :: grouping).map (fun e => (e.value engine [scopeOf b]).key) ↔ mark a = mark b)
    (as : List α) :
    selectRows engine false columns (e :: grouping) having (as.map scopeOf)
      = (((groupBy mark as).map (List.map scopeOf)).filter (meetsHaving engine having)).map
          fun group => (group.headD [], columns.map fun c => c.expr.value engine group) := by
  -- the keys of the rows and the marks of the tuples form the same groups
  let key (scope : Scope) : List Key := (e :: grouping).map fun e => (e.value engine [scope]).key
  have groups : groupBy (key ∘ scopeOf) as = groupBy mark as := groupBy_congr same as
  rw [← groups, ← groupBy_map]
  rfl

end Tuples

end Sql

end MediaSearch
