/-
MediaSearch/Proofs/Compile/Pages.lean

The pages of a search partition its rows.

A page is cut out by a limit and an offset.  The limit is the page size, the
offset a product with the page size; the product saturates, and both are
clamped to what a store can take, each by itself.  A list of rows ends before
any of these bounds, so a page is the window that exact numbers would give
(`cut_statements`): it has the rows whose index divided by the page size is
the number of pages before it.

For pages to mean anything the order of the rows has to be settled.  It is,
because the last key is the file, of which the body has each at most once
(`not_tied_body`).

Main result: `compile_pages`.
-/
import MediaSearch.Proofs.Compile.Newest

namespace MediaSearch

open Sql

/-! ### Windows -/

section Windows

variable {α : Type}

/-- Bounds beyond the end of a list do not matter. -/
theorem take_drop_clamped {rows : List α} {most bound : Nat} (fits : rows.length ≤ most)
    (room : most ≤ bound) (start size : Nat) :
    (rows.drop (min (min start bound) most)).take (min size most)
      = (rows.drop start).take size := by
  -- where the start is cut off, nothing is left to drop either way
  have cut : (rows.drop (min (min start bound) most)) = rows.drop start := by
    by_cases within : start ≤ most
    · congr 1
      omega
    · rw [List.drop_eq_nil_of_le (by omega), List.drop_eq_nil_of_le (by omega)]
  have rest : (rows.drop start).length ≤ most := by
    rw [List.length_drop]
    omega
  rw [cut, List.take_eq_take_min, List.take_eq_take_min (i := size)]
  congr 1
  omega

/-- Windows one after the other are the start of a list. -/
theorem flatMap_windows (rows : List α) (size k : Nat) :
    ((List.range k).flatMap fun i => (rows.drop (i * size)).take size) = rows.take (k * size) := by
  induction k with
  | zero => simp
  | succ k ih =>
    rw [List.range_succ, List.flatMap_append, ih, Nat.succ_mul, List.take_add]
    simp

/-- Rows that are on other pages are not on this one. -/
theorem filter_zipIdx_eq_nil {part : List α} {k size i : Nat}
    (outside : ∀ r, k ≤ r → r < k + part.length → r / size ≠ i) :
    (part.zipIdx k).filter (fun p => p.2 / size = i) = [] := by
  rw [List.filter_eq_nil_iff]
  intro p present same
  obtain ⟨least, greatest, -⟩ := List.mem_zipIdx present
  exact outside p.2 least greatest (of_decide_eq_true same)

/-- Rows that are all on this page stay. -/
theorem filter_zipIdx_eq_self {part : List α} {k size i : Nat}
    (inside : ∀ r, k ≤ r → r < k + part.length → r / size = i) :
    (part.zipIdx k).filter (fun p => p.2 / size = i) = part.zipIdx k := by
  rw [List.filter_eq_self]
  intro p present
  obtain ⟨least, greatest, -⟩ := List.mem_zipIdx present
  exact decide_eq_true (inside p.2 least greatest)

/-- A window has the elements whose index falls into it. -/
theorem window_eq_filter (rows : List α) {size : Nat} (positive : 0 < size) (i : Nat) :
    (rows.drop (i * size)).take size
      = (rows.zipIdx.filter fun p => p.2 / size = i).map (·.1) := by
  have low (r : Nat) (early : r < i * size) : r / size ≠ i :=
    Nat.ne_of_lt ((Nat.div_lt_iff_lt_mul positive).mpr early)
  have high (r : Nat) (late : i * size + size ≤ r) : r / size ≠ i := by
    refine Nat.ne_of_gt ((Nat.le_div_iff_mul_le positive).mpr ?_)
    rwa [Nat.succ_mul]
  by_cases reached : i * size ≤ rows.length
  · -- what is before the window, the window, and what is after it
    let window := (rows.drop (i * size)).take size
    let after := (rows.drop (i * size)).drop size
    have split : rows = rows.take (i * size) ++ (window ++ after) := by
      rw [List.take_append_drop, List.take_append_drop]
    have start : (rows.take (i * size)).length = i * size := by
      rw [List.length_take]
      omega
    have within : window.length ≤ size := by
      rw [List.length_take]
      omega
    have full (some' : 0 < after.length) : window.length = size := by
      rw [List.length_drop] at some'
      rw [List.length_take]
      omega
    -- of the three parts only the middle one is on the page
    conv_rhs =>
      rw [split, List.zipIdx_append, List.zipIdx_append, List.filter_append, List.filter_append,
        start, Nat.zero_add]
    rw [filter_zipIdx_eq_nil fun r _ inside => low r (by omega),
      filter_zipIdx_eq_self fun r least inside =>
        Nat.div_eq_of_lt_le least (by rw [Nat.succ_mul]; omega),
      filter_zipIdx_eq_nil fun r least inside => high r (by have := full (by omega); omega),
      List.nil_append, List.append_nil, List.zipIdx_map_fst]
  · rw [List.drop_eq_nil_of_le (by omega), List.take_nil,
      filter_zipIdx_eq_nil fun r _ inside => low r (by omega), List.map_nil]

end Windows

/-! ### Clamped numbers -/

theorem toNat_maxLimit : maxLimit.toNat = 9223372036854775807 := rfl

/-- A limit beyond the range is the largest one. -/
theorem toInt_clampInt64 (n : Nat) : (clampInt64 n).toInt = min n maxLimit.toNat := by
  have most : Int64.maxValue.toInt = 9223372036854775807 := by decide
  have clamped : (min n 9223372036854775807 : Int) < 2 ^ 63 := by omega
  rw [clampInt64, most, Int64.toInt_ofInt_of_le (by omega) clamped, toNat_maxLimit]
  omega

theorem toNatClampNeg_clampInt64 (n : Nat) :
    (clampInt64 n).toNatClampNeg = min n maxLimit.toNat := by
  rw [← Int64.toNat_toInt, toInt_clampInt64, toNat_maxLimit]
  omega

theorem not_clampInt64_neg (n : Nat) : ¬clampInt64 n < 0 := by
  rw [Int64.lt_iff_toInt_lt, toInt_clampInt64, Int64.toInt_zero]
  omega

/-! ### Pages -/

/-- A request for another page of the same size. -/
def Request.onPage (request : Request) (page : Int64) : Request :=
  { request with paging := { request.paging with page } }

/-- A request for the first page of another size. -/
def Request.firstOf (request : Request) (size : UInt64) : Request :=
  { request with paging := { request.paging with page := 1, pageSize := some size } }

/-- The rows that are left of some rows when the offset is dropped and the
limit taken. -/
def CompiledSearch.cut {α : Type} (compiled : CompiledSearch) (rows : List α) : List α :=
  (rows.drop compiled.offset.toNatClampNeg).take compiled.limit.toNatClampNeg

namespace Settings

variable {α : Type} (settings : Settings) (request : Request)

/-- **A page is cut out as if numbers had no bounds.** -/
theorem cut_statements {rows : List α} (fits : rows.length ≤ maxLimit.toNat) :
    (settings.statements request).cut rows
      = (rows.drop (((max request.paging.page.toInt 1).toNat - 1)
          * (settings.pageSize request.paging.pageSize).toNat)).take
          (settings.pageSize request.paging.pageSize).toNat := by
  rw [CompiledSearch.cut, statements, window, toNatClampNeg_clampInt64, toNatClampNeg_clampInt64,
    saturatingMul]
  exact take_drop_clamped fits (by decide) _ _

/-- The page with a number counted from 1. -/
theorem cut_onPage {rows : List α} (fits : rows.length ≤ maxLimit.toNat) {j : Int64} {i : Nat}
    (number : j.toInt = i + 1) :
    (settings.statements (request.onPage j)).cut rows
      = (rows.drop (i * (settings.pageSize request.paging.pageSize).toNat)).take
          (settings.pageSize request.paging.pageSize).toNat := by
  have before : (max (request.onPage j).paging.page.toInt 1).toNat - 1 = i := by
    show (max j.toInt 1).toNat - 1 = i
    omega
  rw [cut_statements settings (request.onPage j) fits, before]
  rfl

/-- Pages before the first are the first. -/
theorem statements_onPage_of_lt {j : Int64} (before : j < 1) :
    settings.statements (request.onPage j) = settings.statements (request.onPage 1) := by
  -- the number of a page counts from the first at the least
  have low : max j.toInt 1 = max (1 : Int64).toInt 1 := by
    have := Int64.lt_iff_toInt_lt.mp before
    rw [Int64.toInt_one] at this ⊢
    omega
  have same : settings.window (request.onPage j).paging
      = settings.window (request.onPage 1).paging := by
    show settings.window { request.paging with page := j }
      = settings.window { request.paging with page := 1 }
    simp only [window, low]
  unfold statements
  rw [same]
  rfl

end Settings

/-! ### Ties -/

namespace Sql

variable (engine : Engine) (columns : List String)

/-- Whether an order leaves it open which of two rows stands first. -/
def Tied (order : List (Expr × SortDirection)) (a b : Scope × List Value) : Prop :=
  sortsBefore engine columns order a b = true ∧ sortsBefore engine columns order b a = true

variable {engine columns}

/-- Rows are tied when all keys are the same. -/
theorem sortKey_eq_of_tied {order : List (Expr × SortDirection)} {a b : Scope × List Value}
    (tied : Tied engine columns order a b) {e : Expr} {direction : SortDirection}
    (present : (e, direction) ∈ order) :
    sortKey engine columns e a = sortKey engine columns e b := by
  induction order with
  | nil => cases present
  | cons first order ih =>
    obtain ⟨e', direction'⟩ := first
    obtain ⟨before, after⟩ := tied
    rw [sortsBefore_cons_iff] at before after
    -- neither is strictly before the other
    have same : direction'.compare (sortKey engine columns e' a) (sortKey engine columns e' b)
        = .eq := by
      rcases before with before | ⟨same, -⟩
      · rcases after with after | ⟨same, -⟩
        · exact absurd after (Std.OrientedCmp.not_lt_of_lt before)
        · exact Std.OrientedCmp.eq_symm same
      · exact same
    have rest : Tied engine columns order a b := by
      constructor
      · rcases before with before | ⟨-, rest⟩
        · rw [same] at before
          cases before
        · exact rest
      · rcases after with after | ⟨-, rest⟩
        · rw [Std.OrientedCmp.eq_symm same] at after
          cases after
        · exact rest
    rcases List.mem_cons.mp present with first | later
    · obtain ⟨rfl, rfl⟩ := Prod.mk.inj first
      cases direction with
      | ascending => exact (Key.compare_eq_iff _ _).mp same
      | descending => exact ((Key.compare_eq_iff _ _).mp same).symm
    · exact ih rest later

end Sql

namespace Chain

/-- **No two rows of a body are tied**: the last key is the file, and the
body has each file at most once. -/
theorem not_tied_body {engine : Engine} {lib : Library} {tags : Option Query}
    (listed : ∀ q, tags = some q → ∃ P, (q.relation engine lib.tables).Lists "item_id" P)
    (kept excluded : List Filter) (order : ResolvedOrder) :
    let body := (build tags kept excluded).body
    (body.rows engine lib.tables).Pairwise fun a b =>
      ¬Tied engine (body.columns engine) order.keys a b := by
  intro body
  obtain ⟨root, holds, -⟩ := exists_holds_start listed
  choose pick decides using Filter.clause_decides engine lib
  obtain ⟨left, leftHolds, -⟩ := exists_holds_build holds decides kept excluded
  -- the id of its file is a key of every row, and no two rows have the same
  have files : (body.rows engine lib.tables).map (fun row => row.1.value (.of "result" "file_id"))
      = (known lib left).map fun c => .integer c.file := rows_body_known leftHolds
  have distinct : ((known lib left).map fun c => (Value.integer c.file).key).Nodup := by
    have once := leftHolds.distinct.sublist ((known_sublist lib left).map (·.file))
    have keys := once.map (f := fun n => (Value.integer n).key) fun m n same =>
      Value.key_integer_inj.mp same
    rwa [List.map_map] at keys
  have keys : ((body.rows engine lib.tables).map
      fun row => (row.1.value (.of "result" "file_id")).key).Nodup := by
    have images := congrArg (List.map Value.key) files
    rw [List.map_map, List.map_map] at images
    exact images ▸ distinct
  rw [List.nodup_iff_pairwise_ne, List.pairwise_map] at keys
  refine keys.imp fun {a b} different tied => different ?_
  have last : (Expr.ref (.of "result" "file_id"), SortDirection.ascending) ∈ order.keys := by
    simp [ResolvedOrder.keys]
  have same := sortKey_eq_of_tied tied last
  simpa [sortKey, Expr.value] using same

end Chain

/-! ### Main result -/

/-- Whether pages of a size, counted from 1, partition some rows: each has,
in their order, the rows whose index is in its range. -/
structure Partition {α : Type} (size : Nat) (rows : List α) (page : Int64 → List α) : Prop where
  own : ∀ j, 1 ≤ j →
    page j = (rows.zipIdx.filter fun p => (p.2 / size : Nat) + 1 = j.toInt).map (·.1)
  exists_own : ∀ r < rows.length, ∃ j : Int64, 1 ≤ j ∧ (r / size : Nat) + 1 = j.toInt
  first : ∀ k ≤ maxLimit.toNat,
    ((List.range k).flatMap fun i => page (.ofNat (i + 1)))
      = rows.take (min (k * size) rows.length)
  past : ∀ j, 1 ≤ j → rows.length ≤ (j.toInt - 1).toNat * size → page j = []

/-- Windows of a size partition what a store can count. -/
theorem partition_of_windows {α : Type} {size : Nat} (positive : 0 < size) {rows : List α}
    (fits : rows.length ≤ maxLimit.toNat) {page : Int64 → List α}
    (window : ∀ (j : Int64) (i : Nat), j.toInt = i + 1 →
      page j = (rows.drop (i * size)).take size) : Partition size rows page := by
  have before {j : Int64} (counted : 1 ≤ j) : ∃ i : Nat, j.toInt = i + 1 := by
    rw [Int64.le_iff_toInt_le, Int64.toInt_one] at counted
    exact ⟨(j.toInt - 1).toNat, by omega⟩
  have after {i : Nat} (within : i < maxLimit.toNat) :
      1 ≤ Int64.ofNat (i + 1) ∧ (Int64.ofNat (i + 1)).toInt = i + 1 := by
    rw [toNat_maxLimit] at within
    have number : (Int64.ofNat (i + 1)).toInt = (i + 1 : Nat) :=
      Int64.toInt_ofNat_of_lt (by omega)
    rw [Int64.le_iff_toInt_le, Int64.toInt_one, number]
    omega
  constructor
  -- a row is on the page that its position divided by the size gives
  case own =>
    intro j counted
    obtain ⟨i, number⟩ := before counted
    rw [window j i number, window_eq_filter rows positive i, number]
    congr 1
    refine List.filter_congr fun p _ => ?_
    rw [decide_eq_decide]
    omega
  case exists_own =>
    intro r inside
    have low : r / size ≤ r := Nat.div_le_self r size
    obtain ⟨counted, number⟩ := after (i := r / size) (by omega)
    exact ⟨_, counted, number.symm⟩
  -- several windows in turn are one large window
  case first =>
    intro k within
    rw [← List.take_eq_take_min, ← flatMap_windows]
    refine List.flatMap_congr fun i member => ?_
    have inside : i < maxLimit.toNat := by
      have := List.mem_range.mp member
      omega
    exact window _ i (after inside).2
  case past =>
    intro j counted past
    obtain ⟨i, number⟩ := before counted
    have start : (j.toInt - 1).toNat = i := by omega
    rw [window j i number, List.drop_eq_nil_of_le (start ▸ past), List.take_nil]

namespace Settings

variable (settings : Settings) (request : Request)

/-- The rows of the fetch statement are cut out of the sorted rows. -/
theorem rows_fetch (engine : Engine) (tables : Tables) :
    (settings.statements request).fetch.rows engine tables
      = (settings.statements request).cut
        (((settings.chain request.criteria).body.rows engine tables).mergeSort
          (sortsBefore engine ((settings.chain request.criteria).body.columns engine)
            (settings.statements request).order.keys)) := by
  have positive : ¬(settings.statements request).limit < 0 := not_clampInt64_neg _
  show pageRows (settings.statements request).limit (settings.statements request).offset _ = _
  rw [pageRows, if_neg positive]
  rfl

/-- **The pages of a search partition its rows**, whatever its order, its
filters and its page size, up to the largest.  Several pages together are the
first page of a larger size, pages before the first are the first, and which
row stands where is settled, since no two rows are tied. -/
theorem compile_pages (sized : settings.pageSize request.paging.pageSize ≠ 0) :
    let size := (settings.pageSize request.paging.pageSize).toNat
    let body := (settings.chain request.criteria).body
    ∃ compiled : Int64 → CompiledSearch,
      (∀ j, settings.compile (request.onPage j) = .ok (compiled j))
      ∧ (∀ j < 1, compiled j = compiled 1)
      ∧ (∀ {α : Type} (rows : List α), rows.length ≤ maxLimit.toNat →
        Partition size rows fun j => (compiled j).cut rows)
      ∧ (∀ k, 1 ≤ k → k * size < UInt64.size → ∃ whole,
        settings.compile (request.firstOf (.ofNat (k * size))) = .ok whole
          ∧ ∀ {α : Type} (rows : List α), rows.length ≤ maxLimit.toNat →
            whole.cut rows = rows.take (min (k * size) rows.length))
      ∧ ∃ order : List (Expr × SortDirection),
        order.getLast? = some (.ref (.of "result" "file_id"), .ascending)
        ∧ (∀ j, (compiled j).fetch = .page body order (compiled j).limit (compiled j).offset)
        ∧ ∀ (engine : Engine) (lib : Library),
          (body.rows engine lib.tables).Pairwise
            (fun a b => ¬Tied engine (body.columns engine) order a b)
          ∧ ∀ j, (compiled j).fetch.rows engine lib.tables
            = (compiled j).cut ((body.rows engine lib.tables).mergeSort
                (sortsBefore engine (body.columns engine) order)) := by
  intro size body
  have positive : 0 < size := by
    refine Nat.pos_of_ne_zero fun zero => sized ?_
    exact UInt64.toNat_inj.mp zero
  let order := (settings.statements (request.onPage 1)).order
  refine ⟨fun j => settings.statements (request.onPage j),
    fun j => settings.compile_eq_ok (request.onPage j),
    fun j => settings.statements_onPage_of_lt request, ?_, ?_, order.keys, rfl, fun j => rfl, ?_⟩
  · intro α rows fits
    exact partition_of_windows positive fits fun j i => settings.cut_onPage request fits
  · intro k counted room
    refine ⟨_, settings.compile_eq_ok _, fun {α} rows fits => ?_⟩
    have large : 0 < k * size := Nat.mul_pos counted positive
    -- a size that is not zero is taken as it is
    have wanted : settings.pageSize (request.firstOf (.ofNat (k * size))).paging.pageSize
        = .ofNat (k * size) := by
      refine if_neg fun zero => ?_
      have none := congrArg UInt64.toNat zero
      rw [UInt64.toNat_ofNat_of_lt' room] at none
      exact Nat.ne_of_gt large none
    have first : (max (request.firstOf (.ofNat (k * size))).paging.page.toInt 1).toNat - 1 = 0 :=
      rfl
    rw [cut_statements settings _ fits, wanted, UInt64.toNat_ofNat_of_lt' room, first, Nat.zero_mul,
      List.drop_zero, ← List.take_eq_take_min]
  · intro engine lib
    have listed (q : Query)
        (chosen : request.criteria.tags.query? settings.minTagConfidence = some q) :
        ∃ P, (q.relation engine lib.tables).Lists "item_id" P :=
      TagFilter.exists_lists_query? lib.shows_tables chosen
    exact ⟨Chain.not_tied_body listed _ _ order,
      fun j => settings.rows_fetch (request.onPage j) engine lib.tables⟩

/-- A request with two rows on a page. -/
def inPairs : Request where
  paging := { pageSize := some 2 }

/-- Of five rows the second page has the third and the fourth. -/
theorem compile_pages_inPairs :
    Settings.pageSize {} inPairs.paging.pageSize ≠ 0
      ∧ ["a", "b", "c", "d", "e"].length ≤ maxLimit.toNat
      ∧ ∃ compiled : Int64 → CompiledSearch,
        Settings.compile {} (inPairs.onPage 2) = .ok (compiled 2)
          ∧ (compiled 2).cut ["a", "b", "c", "d", "e"] = ["c", "d"] := by
  have sized : Settings.pageSize {} inPairs.paging.pageSize ≠ 0 := by decide
  have fits : ["a", "b", "c", "d", "e"].length ≤ maxLimit.toNat := by decide
  obtain ⟨compiled, ok, -, pages, -⟩ := compile_pages {} inPairs sized
  refine ⟨sized, fits, compiled, ok 2, ?_⟩
  rw [(pages _ fits).own 2 (by decide)]
  decide +kernel

end Settings

end MediaSearch
