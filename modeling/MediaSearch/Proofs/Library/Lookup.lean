/-
MediaSearch/Proofs/Library/Lookup.lean

What the small queries and conditions on the tables of a library mean.

The queries find the ids of the rows they ask for (`rows_settersNamed` and
its like).  A restriction that is not asked for leaves no condition, so each
lemma about conditions says when all of them are true: if there is nothing
to restrict to, or if the cell meets what there is.
-/
import MediaSearch.Library.Lookup
import MediaSearch.Proofs.Library.Content
import MediaSearch.Proofs.Sql.Select

namespace MediaSearch

open Sql

namespace Library

variable {lib : Library} {engine : Engine} {tables : Tables} {scope : Scope} {r : Ref}

/-! ### Queries -/

/-- The ids of the rows of a table for which a condition holds. -/
theorem rows_idsWhere {α : Type} {table : String} {columns : List String}
    {row : α → List Value} {xs : List α}
    (relation : tables.relation table = ⟨columns, xs.map row⟩) {id : α → Int64}
    (hasId : ∀ x, Cells.value (columns.zip (row x)) "id" = .integer (id x))
    {condition : Condition} (plain : condition.isPlain = true) {holds : α → Bool}
    (condition_iff : ∀ x, condition.truth engine tables [(table, columns.zip (row x))]
      = some true ↔ holds x = true) :
    ((idsWhere table condition).rows engine tables).map (·.2)
      = (xs.filter holds).map fun x => [.integer (id x)] := by
  let scopeOf (x : α) : Scope := [(table, columns.zip (row x))]
  have met (x : α) : allTrue engine tables (scopeOf x) [condition] = holds x := by
    rw [Bool.eq_iff_iff, ← condition_iff x]
    simp [allTrue, scopeOf]
  have scopes : [].foldl (joinRows engine tables)
      (((Source.named table none).relation engine tables).scopes table) = xs.map scopeOf := by
    rw [Source.relation, relation]
    exact Relation.scopes_map columns row xs table
  have rows : (idsWhere table condition).rows engine tables = _ :=
    rows_select_where rfl (by simpa using plain) scopeOf met scopes
  rw [rows, List.map_map]
  refine List.map_congr_left fun x _ => ?_
  simp [scopeOf, Expr.value, hasId]

/-- The ids of the setters with any of some names. -/
theorem rows_settersNamed (shown : lib.Shows tables) (names : List String) :
    ((settersNamed names).rows engine tables).map (·.2)
      = (lib.setters.filter fun s => s.name ∈ names).map fun s => [.integer s.id] := by
  refine rows_idsWhere shown.setters (fun s => ?_) rfl fun s => ?_
  · simp [Setter.row]
  · simp [Condition.truth, Setter.row, Value.text_isAmong_texts]

theorem rows_setterNamed (shown : lib.Shows tables) (name : String) :
    ((setterNamed name).rows engine tables).map (·.2)
      = (lib.setters.filter fun s => s.name = name).map fun s => [.integer s.id] := by
  refine rows_idsWhere shown.setters (fun s => ?_) rfl fun s => ?_
  · simp [Setter.row]
  · simp [Condition.truth, Expr.value, Setter.row]

/-- The ids of the items with a hash. -/
theorem rows_itemHashed (shown : lib.Shows tables) (sha256 : String) :
    ((itemHashed sha256).rows engine tables).map (·.2)
      = (lib.items.filter fun i => i.sha256 = sha256).map fun i => [.integer i.id] := by
  refine rows_idsWhere shown.items (fun i => ?_) rfl fun i => ?_
  · simp [Item.row]
  · simp [Condition.truth, Expr.value, Item.row]

/-! ### Conditions -/

/-- Something is set by any of some setters if its cell has the id of one of them. -/
theorem allTrue_setBy (shown : lib.Shows tables) {names : List String} :
    allTrue engine tables scope (setBy r names) = true
      ↔ (names ≠ [] → ∃ setter ∈ lib.setters, setter.name ∈ names
          ∧ Comparison.eq.truth (scope.value r) (.integer setter.id) = some true) := by
  unfold setBy
  cases names with
  | nil => simp [allTrue]
  | cons name names =>
    -- the setters are compared by the ids that their query lists
    have ids : ((settersNamed (name :: names)).rows engine tables).map (fun row => firstValue row.2)
        = (lib.setters.filter fun s => s.name ∈ name :: names).map fun s => .integer s.id := by
      have rows : ((settersNamed (name :: names)).rows engine tables).map (·.2) = _ :=
        rows_settersNamed shown (name :: names)
      have firsts := congrArg (List.map firstValue) rows
      rw [List.map_map, List.map_map] at firsts
      exact firsts
    simp only [List.isEmpty_cons, Bool.false_eq_true, if_false, allTrue_iff,
      List.forall_mem_singleton, Condition.truth, ids, Value.isAmong_map_eq_true_iff,
      List.mem_filter, decide_eq_true_eq, ne_eq, reduceCtorEq, not_false_eq_true, forall_const,
      and_assoc]

/-- A cell has any of some texts, unless none is asked for. -/
theorem allTrue_oneOfTexts {texts : List String} :
    allTrue engine tables scope (oneOfTexts r texts) = true
      ↔ (texts ≠ [] → (scope.value r).isAmong (texts.map .text) = some true) := by
  unfold oneOfTexts
  cases texts with
  | nil => simp [allTrue]
  | cons text texts =>
    simp only [List.isEmpty_cons, Bool.false_eq_true, if_false, allTrue_iff,
      List.forall_mem_singleton, Condition.truth, ne_eq, reduceCtorEq, not_false_eq_true,
      forall_const]

/-- A cell starts with any of some texts, unless none is asked for. -/
theorem allTrue_startsWithOneOf {starts : List String} :
    allTrue engine tables scope (startsWithOneOf r starts) = true
      ↔ (starts ≠ [] → ∃ start ∈ starts,
          engine.startsWith? (scope.value r) start = some true) := by
  unfold startsWithOneOf
  cases starts with
  | nil => simp [allTrue]
  | cons start starts =>
    simp only [List.isEmpty_cons, Bool.false_eq_true, if_false, allTrue_iff,
      List.forall_mem_singleton, Condition.truth, anyTrue_eq_true_iff, List.mem_map, ne_eq,
      reduceCtorEq, not_false_eq_true, forall_const]

/-- A cell is at least a bound, if there is one. -/
theorem allTrue_atLeast {bound : Option Value} :
    allTrue engine tables scope (atLeast r bound) = true
      ↔ ∀ v, bound = some v → Comparison.ge.truth (scope.value r) v = some true := by
  unfold atLeast
  cases bound <;> simp [allTrue, Condition.truth, Expr.value]

theorem allTrue_atMost {bound : Option Value} :
    allTrue engine tables scope (atMost r bound) = true
      ↔ ∀ v, bound = some v → Comparison.le.truth (scope.value r) v = some true := by
  unfold atMost
  cases bound <;> simp [allTrue, Condition.truth, Expr.value]

end Library

/-! ### Starts -/

/-- Whether a text starts with another, the case of ASCII letters aside. -/
def StartsFolded (start text : String) : Prop :=
  start.toList.map Char.toLower <+: text.toList.map Char.toLower

theorem Sql.Engine.startsWith?_text (engine : Engine) (text start : String) :
    engine.startsWith? (.text text) start = some true ↔ StartsFolded start text := by
  rw [Engine.startsWith?, StartsFolded, ← startsWith_sameFolded_iff]
  simp [Engine.text?, like_startPattern]

end MediaSearch
