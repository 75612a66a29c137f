/-
MediaSearch/Proofs/Sql/Sorting.lean

Sorted pages.

Keys of values are in a total order, which a direction may turn around, and
rows are compared by one key after the other.  So whether a row may stand
before another is transitive and total (`sortsBefore_trans`,
`sortsBefore_total`): sorting puts any two rows of a page in their order,
and cutting a page out of the rows changes nothing about that.

Main result: `pairwise_rows_page`.
-/
import Mathlib.Data.String.Basic
import MediaSearch.Proofs.Sql.Meaning

namespace MediaSearch.Sql

/-! ### Keys -/

namespace Key

/-- Comparing the other way round gives the opposite answer. -/
theorem compare_swap (a b : Key) : a.compare b = (b.compare a).swap := by
  cases a <;> cases b <;> exact Std.OrientedOrd.eq_swap

instance : Std.OrientedCmp Key.compare where
  eq_swap := compare_swap _ _

instance : Std.TransCmp Key.compare where
  isLE_trans {a b c} first second := by
    cases a <;> cases b <;> cases c <;> first
      | exact Std.TransOrd.isLE_trans first second
      | contradiction
      | rfl

end Key

/-- The order of keys in a direction. -/
def SortDirection.compare : SortDirection → Key → Key → Ordering
  | .ascending, a, b => a.compare b
  | .descending, a, b => b.compare a

instance (direction : SortDirection) : Std.TransCmp direction.compare :=
  match direction with
  | .ascending => inferInstanceAs (Std.TransCmp Key.compare)
  | .descending =>
    { eq_swap := Key.compare_swap _ _
      isLE_trans := fun {a b c} (first : (b.compare a).isLE) (second : (c.compare b).isLE) =>
        (Std.TransCmp.isLE_trans second first : (c.compare a).isLE) }

/-- Whether one thing may stand before another in a direction. -/
def SortDirection.Before {α : Type} [LE α] : SortDirection → α → α → Prop
  | .ascending, a, b => a ≤ b
  | .descending, a, b => b ≤ a

theorem Key.le_of_compare_text {s t : String} (before : (Key.compare (.text s) (.text t)).isLE) :
    s ≤ t := by
  have order : compare s t ≠ .gt := by
    intro after
    rw [Key.compare, after] at before
    cases before
  exact compare_le_iff_le.mp order

/-- Texts are in their order. -/
theorem SortDirection.before_of_compare {direction : SortDirection} {s t : String}
    (before : (direction.compare (.text s) (.text t)).isLE) : direction.Before s t := by
  cases direction with
  | ascending => exact Key.le_of_compare_text before
  | descending => exact Key.le_of_compare_text before

/-! ### Rows -/

section Rows

variable (engine : Engine) (columns : List String)

/-- What decides the place of a row, if it is sorted by an expression. -/
def sortKey (e : Expr) (row : Scope × List Value) : Key :=
  (e.value engine [("", columns.zip row.2) :: row.1]).key

variable {engine columns}

/-- One row stands before another by the first key or, if it does not tell
them apart, by the keys after it. -/
theorem sortsBefore_cons_iff {e : Expr} {direction : SortDirection}
    {order : List (Expr × SortDirection)} {a b : Scope × List Value} :
    sortsBefore engine columns ((e, direction) :: order) a b = true
      ↔ direction.compare (sortKey engine columns e a) (sortKey engine columns e b) = .lt
        ∨ direction.compare (sortKey engine columns e a) (sortKey engine columns e b) = .eq
          ∧ sortsBefore engine columns order a b = true := by
  rw [sortsBefore]
  dsimp only
  unfold sortKey
  -- only the two keys matter from here on
  generalize (e.value engine [("", columns.zip a.2) :: a.1]).key = left
  generalize (e.value engine [("", columns.zip b.2) :: b.1]).key = right
  cases direction with
  | ascending =>
    rw [SortDirection.compare]
    cases left.compare right <;> simp
  | descending =>
    rw [SortDirection.compare, Key.compare_swap left right]
    cases right.compare left <;> simp

/-- A row that stands before another is not after it by the first key. -/
theorem isLE_of_sortsBefore {e : Expr} {direction : SortDirection}
    {order : List (Expr × SortDirection)} {a b : Scope × List Value}
    (before : sortsBefore engine columns ((e, direction) :: order) a b = true) :
    (direction.compare (sortKey engine columns e a) (sortKey engine columns e b)).isLE := by
  rw [sortsBefore_cons_iff] at before
  rcases before with earlier | ⟨same, -⟩
  · rw [earlier]
    rfl
  · rw [same]
    rfl

theorem sortsBefore_trans (order : List (Expr × SortDirection)) {a b c : Scope × List Value}
    (before : sortsBefore engine columns order a b = true)
    (after : sortsBefore engine columns order b c = true) :
    sortsBefore engine columns order a c = true := by
  induction order with
  | nil => rfl
  | cons first order ih =>
    obtain ⟨e, direction⟩ := first
    rw [sortsBefore_cons_iff] at before after ⊢
    rcases before with before | ⟨same, before⟩
    · rcases after with after | ⟨same', -⟩
      · exact .inl (Std.TransCmp.lt_trans before after)
      · exact .inl (Std.TransCmp.lt_of_lt_of_eq before same')
    · rcases after with after | ⟨same', after⟩
      · exact .inl (Std.TransCmp.lt_of_eq_of_lt same after)
      · exact .inr ⟨Std.TransCmp.eq_trans same same', ih before after⟩

/-- Of two rows one is sorted before the other, or they are tied. -/
theorem sortsBefore_total (order : List (Expr × SortDirection)) (a b : Scope × List Value) :
    sortsBefore engine columns order a b = true ∨ sortsBefore engine columns order b a = true := by
  induction order with
  | nil => exact .inl rfl
  | cons first order ih =>
    obtain ⟨e, direction⟩ := first
    rw [sortsBefore_cons_iff, sortsBefore_cons_iff]
    generalize sortKey engine columns e a = left
    generalize sortKey engine columns e b = right
    -- where the first keys tie, the others decide
    cases order : direction.compare left right with
    | lt => exact .inl (.inl rfl)
    | gt => exact .inr (.inl (Std.OrientedCmp.lt_of_gt order))
    | eq =>
      have same := Std.OrientedCmp.eq_symm order
      exact ih.imp (fun before => .inr ⟨rfl, before⟩) fun before => .inr ⟨same, before⟩

end Rows

/-! ### Pages -/

variable (engine : Engine) (tables : Tables) (body : Query) (order : List (Expr × SortDirection))
  (limit offset : Int64)

theorem pageRows_sublist {α : Type} (rows : List α) :
    (pageRows limit offset rows).Sublist rows := by
  unfold pageRows
  dsimp only
  split
  · exact List.drop_sublist _ _
  · exact (List.take_sublist _ _).trans (List.drop_sublist _ _)

/-- A page that begins with the first row and is long enough has all rows. -/
theorem pageRows_eq_self {α : Type} {rows : List α} {limit : Int64}
    (fits : rows.length ≤ limit.toNatClampNeg) (positive : ¬limit < 0) :
    pageRows limit 0 rows = rows := by
  have first : (0 : Int64).toNatClampNeg = 0 := rfl
  unfold pageRows
  dsimp only
  rw [if_neg positive, first, List.drop_zero, List.take_of_length_le fits]

/-- The rows of a page are rows of what it is a page of. -/
theorem rows_page_subset :
    (body.page order limit offset).rows engine tables ⊆ body.rows engine tables := by
  intro row present
  rw [Query.rows] at present
  exact List.mem_mergeSort.mp ((pageRows_sublist limit offset _).subset present)

/-- They are all of them if the page is long enough. -/
theorem rows_page_perm (fits : (body.rows engine tables).length ≤ limit.toNatClampNeg)
    (positive : ¬limit < 0) :
    ((body.page order limit 0).rows engine tables).Perm (body.rows engine tables) := by
  have sorted := List.mergeSort_perm (body.rows engine tables)
    (sortsBefore engine (body.columns engine) order)
  rw [Query.rows, pageRows_eq_self (sorted.length_eq ▸ fits) positive]
  exact sorted

/-- **The rows of a page are sorted.** -/
theorem pairwise_rows_page :
    ((body.page order limit offset).rows engine tables).Pairwise fun a b =>
      sortsBefore engine (body.columns engine) order a b = true := by
  rw [Query.rows]
  refine .sublist (pageRows_sublist limit offset _) (List.pairwise_mergeSort ?_ ?_ _)
  · intro a b c
    exact sortsBefore_trans order
  · intro a b
    rw [Bool.or_eq_true]
    exact sortsBefore_total order a b

end MediaSearch.Sql
