/-
MediaSearch/Proofs/Sql/Narrow.lean

Queries that read some columns of a table only.

A part of a query *keeps to* some columns of a table if it names no other
column of it, and nothing without its table.  Such a part cannot tell a row
from what is left of it when the other columns of the table are taken away
(`Scope.narrow`): its expressions have the same values, its joins find the
same rows and its conditions have the same answers.
-/
import MediaSearch.Proofs.Sql.Select

namespace MediaSearch.Sql

/-! ### Parts that keep to columns -/

/-- Some columns of a table. -/
structure View where
  table : String
  columns : List String

namespace View

/-- Whether a reference is to another table or to a column of the view. -/
def keepsRef (view : View) (r : Ref) : Bool :=
  match r.table with
  | some table => table != view.table || view.columns.contains r.name
  | none => false

/-- Whether all references of an expression keep to the view. -/
def keepsExpr (view : View) : Expr → Bool
  | .ref r => view.keepsRef r
  | .number _ | .dash | .param _ | .countAll => true
  | .concat left right | .apply _ left right => view.keepsExpr left && view.keepsExpr right
  | .aggregate _ e => view.keepsExpr e

/-- Whether a join keeps to the view and joins something else under another name. -/
def keepsJoin (view : View) (j : Join) : Bool :=
  view.keepsExpr j.left && view.keepsExpr j.right && j.label.getD j.table != view.table

/-- Whether a condition keeps to the view and does not search the table of it. -/
def keepsCondition (view : View) : Condition → Bool
  | .compare left _ right => view.keepsExpr left && view.keepsExpr right
  | .fullText target _ => target.index != view.table
  | .isNull r | .oneOf r _ | .startsWithAny r _ | .inQuery r _ | .notInQuery r _
    | .equalsQuery r _ => view.keepsRef r

end View

/-! ### Narrow rows -/

/-- The cells of some columns. -/
def Cells.only (cells : Cells) (columns : List String) : Cells :=
  columns.map fun column => (column, cells.value column)

/-- A row without the other columns of the table. -/
def Scope.narrow (view : View) (scope : Scope) : Scope :=
  scope.map fun (name, cells) =>
    (name, if name = view.table then cells.only view.columns else cells)

variable {view : View} {engine : Engine} {tables : Tables}

/-- A column that is left has the value it had. -/
theorem Cells.value_only {cells : Cells} {columns : List String} {name : String}
    (listed : name ∈ columns) : (cells.only columns).value name = cells.value name := by
  unfold only
  induction columns with
  | nil => cases listed
  | cons column columns ih =>
    rw [List.map_cons, value_cons]
    split
    case isTrue same => rw [same]
    case isFalse other => exact ih ((List.mem_cons.mp listed).resolve_left other)

/-- A reference that keeps to the view has the value it had. -/
theorem Scope.value_narrow {scope : Scope} {r : Ref} (keeps : view.keepsRef r = true) :
    (scope.narrow view).value r = scope.value r := by
  obtain ⟨_ | table, name⟩ := r
  · cases keeps
  · show ((scope.narrow view).cells table).value name = (scope.cells table).value name
    induction scope with
    | nil => rfl
    | cons entry scope ih =>
      obtain ⟨label, cells⟩ := entry
      rw [narrow, List.map_cons, cells_cons, cells_cons]
      -- the first table of the name is found in both, and only that of the view has lost columns
      split
      case isTrue same =>
        subst same
        split
        case isTrue viewed =>
          refine Cells.value_only ?_
          simpa [View.keepsRef, viewed] using keeps
        case isFalse => rfl
      case isFalse => exact ih

/-- An expression that keeps to the view has the value it had, over any group. -/
theorem Expr.value_narrow {e : Expr} (keeps : view.keepsExpr e = true) (group : List Scope) :
    e.value engine (group.map (Scope.narrow view)) = e.value engine group := by
  induction e generalizing group with
  | ref r =>
    cases group with
    | nil => rfl
    | cons scope group => exact Scope.value_narrow keeps
  | number _ | dash | param _ => rfl
  | concat left right ihLeft ihRight | apply _ left right ihLeft ihRight =>
    rw [View.keepsExpr, Bool.and_eq_true] at keeps
    rw [value, value, ihLeft keeps.1, ihRight keeps.2]
  | aggregate function e ih =>
    rw [value, value, List.map_map]
    congr 1
    -- an aggregate looks at each row by itself
    refine List.map_congr_left fun scope _ => ?_
    exact ih keeps [scope]
  | countAll => rw [value, value, List.length_map]

theorem Expr.value_narrow_single {e : Expr} (keeps : view.keepsExpr e = true) (scope : Scope) :
    e.value engine [scope.narrow view] = e.value engine [scope] :=
  value_narrow keeps [scope]

/-! ### Clauses -/

/-- A join that keeps to the view finds the same rows. -/
theorem joinRows_narrow {j : Join} (keeps : view.keepsJoin j = true) (scopes : List Scope) :
    joinRows engine tables (scopes.map (Scope.narrow view)) j
      = (joinRows engine tables scopes j).map (Scope.narrow view) := by
  simp only [View.keepsJoin, Bool.and_eq_true, bne_iff_ne, ne_eq] at keeps
  obtain ⟨⟨left, right⟩, other⟩ := keeps
  rw [joinRows, joinRows, List.flatMap_map, List.map_flatMap]
  refine List.flatMap_congr fun scope _ => ?_
  -- the joined table is not the one of the view, so its cells stay as they are
  have joined : ((tables.relation j.table).scopes (j.label.getD j.table)).map
        (scope.narrow view ++ ·)
      = (((tables.relation j.table).scopes (j.label.getD j.table)).map (scope ++ ·)).map
          (Scope.narrow view) := by
    rw [Relation.scopes, List.map_map, List.map_map, List.map_map]
    refine List.map_congr_left fun row _ => ?_
    simp [Scope.narrow, other]
  rw [joined, List.filter_map]
  congr 1
  refine List.filter_congr fun row _ => ?_
  rw [Function.comp_apply, Expr.value_narrow_single left, Expr.value_narrow_single right]

theorem foldl_joinRows_narrow {joins : List Join} (keep : ∀ j ∈ joins, view.keepsJoin j = true)
    (scopes : List Scope) :
    joins.foldl (joinRows engine tables) (scopes.map (Scope.narrow view))
      = (joins.foldl (joinRows engine tables) scopes).map (Scope.narrow view) := by
  induction joins generalizing scopes with
  | nil => rfl
  | cons j joins ih =>
    rw [List.foldl_cons, List.foldl_cons, joinRows_narrow (keep j List.mem_cons_self),
      ih fun i present => keep i (List.mem_cons_of_mem j present)]

theorem Scope.lookup_narrow {name : String} (other : name ≠ view.table) (scope : Scope) :
    (scope.narrow view).lookup name = scope.lookup name := by
  induction scope with
  | nil => rfl
  | cons entry scope ih =>
    obtain ⟨label, cells⟩ := entry
    rw [narrow, List.map_cons, List.lookup_cons, List.lookup_cons]
    -- another table has lost nothing
    by_cases same : name = label
    · subst same
      simp [other]
    · have different : (name == label) = false := by simpa using same
      rw [different]
      exact ih

/-- A condition that keeps to the view has the answer it had. -/
theorem truth_narrow {c : Condition} (keeps : view.keepsCondition c = true) (scope : Scope) :
    c.truth engine tables (scope.narrow view) = c.truth engine tables scope := by
  cases c with
  | compare left operator right =>
    rw [View.keepsCondition, Bool.and_eq_true] at keeps
    rw [Condition.truth, Condition.truth, Expr.value_narrow_single keeps.1,
      Expr.value_narrow_single keeps.2]
  | fullText target expression =>
    rw [View.keepsCondition, bne_iff_ne] at keeps
    rw [Condition.truth, Condition.truth, Scope.lookup_narrow keeps]
  | isNull r | oneOf r _ | startsWithAny r _ | inQuery r _ | notInQuery r _ | equalsQuery r _ =>
    simp only [Condition.truth, Scope.value_narrow keeps]

theorem allTrue_narrow {conditions : List Condition}
    (keep : ∀ c ∈ conditions, view.keepsCondition c = true) (scope : Scope) :
    allTrue engine tables (scope.narrow view) conditions
      = allTrue engine tables scope conditions := by
  rw [Bool.eq_iff_iff, allTrue_iff, allTrue_iff]
  exact forall₂_congr fun c present => by rw [truth_narrow (keep c present)]

/-- The table of the view has no ranks. -/
theorem rankCells_view {conditions : List Condition}
    (keep : ∀ c ∈ conditions, view.keepsCondition c = true) (entry : Cells) :
    rankCells engine view.table entry conditions = [] := by
  induction conditions with
  | nil => rfl
  | cons c cs ih =>
    have rest := ih fun d present => keep d (List.mem_cons_of_mem c present)
    have first := keep c List.mem_cons_self
    -- a search in the table of the view would not keep to it
    cases c with
    | fullText target expression =>
      rw [View.keepsCondition, bne_iff_ne] at first
      rw [rankCells, if_neg first, rest]
    | _ => exact rest

/-- The ranks of a row stay where they are, since the view is of no index. -/
theorem rankedScope_narrow {conditions : List Condition}
    (keep : ∀ c ∈ conditions, view.keepsCondition c = true) (scope : Scope) :
    rankedScope engine conditions (scope.narrow view)
      = (rankedScope engine conditions scope).narrow view := by
  rw [rankedScope, rankedScope, Scope.narrow, Scope.narrow, List.map_map, List.map_map]
  refine List.map_congr_left fun entry _ => ?_
  obtain ⟨name, cells⟩ := entry
  by_cases viewed : name = view.table
  · subst viewed
    simp [rankCells_view keep]
  · simp [viewed]

/-- The values of the rows of a `SELECT` are those of the narrow rows. -/
theorem selectRows_narrow {columns : List Column} {grouping : List Expr}
    (keepColumns : ∀ c ∈ columns, view.keepsExpr c.expr = true)
    (keepGrouping : ∀ e ∈ grouping, view.keepsExpr e = true) (scopes : List Scope) :
    (selectRows engine false columns grouping none scopes).map (·.2)
      = (selectRows engine false columns grouping none (scopes.map (Scope.narrow view))).map
          (·.2) := by
  have groups : selectGroups engine columns grouping (scopes.map (Scope.narrow view))
      = (selectGroups engine columns grouping scopes).map (List.map (Scope.narrow view)) := by
    unfold selectGroups
    split
    · split
      · rfl
      · rw [List.map_map, List.map_map]
        rfl
    -- groups are formed by the same keys, before or after narrowing
    · have keys : (fun scope => grouping.map fun e => (e.value engine [scope]).key)
            ∘ Scope.narrow view
          = fun scope => grouping.map fun e => (e.value engine [scope]).key := by
        funext scope
        refine List.map_congr_left fun e present => ?_
        rw [Expr.value_narrow_single (keepGrouping e present)]
      rw [groupBy_map, keys]
  simp only [selectRows, groups, filter_meetsHaving_none, Bool.false_eq_true, if_false,
    List.map_map]
  refine List.map_congr_left fun group _ => ?_
  refine List.map_congr_left fun c present => ?_
  exact (Expr.value_narrow (keepColumns c present) group).symm

end MediaSearch.Sql
