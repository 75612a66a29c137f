/-
MediaSearch/Proofs/Tags/Query.lean

The query of a tag filter lists the items it selects.

Each of the four lists is a query of its own: the items that have some tag
of a list (`lists_withAny`), those that have all of them (`lists_withAll`),
and the hits of a list whose items are left out (`allTrue_notAmong`).  The
query puts them together by set operations, as `TagFilter.Selects` does.

Main result: `query_lists_selected`.
-/
import MediaSearch.Proofs.Sql.Fragment
import MediaSearch.Proofs.Tags.Counting

namespace MediaSearch

open Sql

variable {lib : Library} {engine : Engine} {tables : Tables} {f : TagFilter}
  {least : Option Binary64}

namespace TagScope

/-! ### Lists of tags -/

variable {names : List String} {excluded : Option Query} {Free : Int64 → Prop}

/-- Nothing is left out if nothing is to be. -/
theorem allTrue_notAmong_none (p : Library.Assignment × Library.Tag) :
    allTrue engine tables (Library.taggedScope p) (notAmong none) = true ↔ True := by
  simp [notAmong, allTrue]

/-- The hits of an item that nothing excludes. -/
theorem mem_own_hits (shown : lib.Shows tables) (tidy : f.Tidy)
    (free : ∀ p, allTrue engine tables (Library.taggedScope p) (notAmong excluded) = true
      ↔ Free p.1.itemId) {id : Int64} (p : Library.Assignment × Library.Tag) :
    (p ∈ (hits engine tables lib
        ((TagScope.of f least).conditions names ++ notAmong excluded)).filter
          fun p => p.1.itemId = id)
      ↔ (p ∈ lib.tagged ∧ p.1.itemId = id ∧ p.2.name ∈ names ∧ f.Counts least lib p.1 p.2)
        ∧ Free id := by
  rw [List.mem_filter, hits, List.mem_filter, allTrue_append, Bool.and_eq_true,
    allTrue_conditions shown tidy, free, decide_eq_true_eq]
  constructor
  · rintro ⟨⟨joined, ⟨named, counts⟩, allowed⟩, rfl⟩
    exact ⟨⟨joined, rfl, named, counts⟩, allowed⟩
  · rintro ⟨⟨joined, rfl, named, counts⟩, allowed⟩
    exact ⟨⟨joined, ⟨named, counts⟩, allowed⟩, rfl⟩

/-- A grouped query lists the items that nothing excludes and whose hits
decide so. -/
theorem lists_decided (shown : lib.Shows tables) (tidy : f.Tidy)
    (free : ∀ p, allTrue engine tables (Library.taggedScope p) (notAmong excluded) = true
      ↔ Free p.1.itemId) {having : Option (Expr × Value)} {Chosen : Int64 → Prop}
    (decided : ∀ id own, (∀ p, p ∈ own ↔ p ∈ lib.tagged ∧ p.1.itemId = id ∧ p.2.name ∈ names
        ∧ f.Counts least lib p.1 p.2) →
      (own ≠ [] ∧ meetsHaving engine having (own.map Library.taggedScope) = true ↔ Chosen id)) :
    ((Query.select { assignments
        ((TagScope.of f least).conditions names ++ notAmong excluded) with
          grouping := [.ref itemId], having }).relation engine tables).Lists "item_id"
      fun id => Chosen id ∧ Free id := by
  refine (lists_grouped shown (plain_conditions _ names excluded) having).congr fun id => ?_
  have mem_own (p : Library.Assignment × Library.Tag) :
      (p ∈ (hits engine tables lib
          ((TagScope.of f least).conditions names ++ notAmong excluded)).filter
            fun p => p.1.itemId = id)
        ↔ (p ∈ lib.tagged ∧ p.1.itemId = id ∧ p.2.name ∈ names ∧ f.Counts least lib p.1 p.2)
          ∧ Free id := mem_own_hits shown tidy free p
  -- an excluded item has no hits left, and so no group
  by_cases allowed : Free id
  · simp only [allowed, and_true] at mem_own ⊢
    exact decided id _ mem_own
  · have nothing := List.eq_nil_iff_forall_not_mem.mpr fun p found =>
      allowed ((mem_own p).mp found).2
    simp [nothing, allowed]

/-- A query for any of some tags lists the items that have one of them. -/
theorem lists_withAny (Free : Int64 → Prop) (shown : lib.Shows tables) (tidy : f.Tidy)
    (free : ∀ p, allTrue engine tables (Library.taggedScope p) (notAmong excluded) = true
      ↔ Free p.1.itemId) :
    (((TagScope.of f least).withAny names excluded).relation engine tables).Lists "item_id"
      fun id => (∃ name ∈ names, f.Has least lib id name) ∧ Free id := by
  refine lists_decided shown tidy free fun id own mem_own => ?_
  constructor
  · rintro ⟨nonempty, -⟩
    -- a group is not empty, and any tag in it will do
    obtain ⟨p, rest, group⟩ := List.exists_cons_of_ne_nil nonempty
    have found : p ∈ own := group ▸ List.mem_cons_self
    have asked := ((mem_own p).mp found).2.2.1
    exact ⟨p.2.name, asked, (has_iff_mem mem_own asked).mpr ⟨p, found, rfl⟩⟩
  · rintro ⟨name, asked, has⟩
    obtain ⟨p, found, -⟩ := (has_iff_mem mem_own asked).mp has
    exact ⟨List.ne_nil_of_mem found, rfl⟩

/-- A query for all of some tags lists the items that have each of them fully,
as long as their number can be compared. -/
theorem lists_withAll (Free : Int64 → Prop) (shown : lib.Shows tables) (tidy : f.Tidy)
    (consistent : lib.Consistent) (asked : names ≠ []) (distinct : names.Nodup)
    (fits : ((TagScope.of f least).quota names).2 < UInt64.size)
    (free : ∀ p, allTrue engine tables (Library.taggedScope p) (notAmong excluded) = true
      ↔ Free p.1.itemId) :
    (((TagScope.of f least).withAll names excluded).relation engine tables).Lists "item_id"
      fun id => (∀ name ∈ names, f.HasFully least lib id name) ∧ Free id := by
  have query : (TagScope.of f least).withAll names excluded
      = .select { assignments ((TagScope.of f least).conditions names ++ notAmong excluded) with
          grouping := [.ref itemId], having := full (TagScope.of f least) names } := rfl
  rw [query]
  refine lists_decided shown tidy free fun id own mem_own => ?_
  rw [full_iff mem_own tidy consistent distinct fits, and_iff_right_iff_imp]
  intro has
  -- the hits of any one of the tags are there
  obtain ⟨name, rest, rfl⟩ := List.exists_cons_of_ne_nil asked
  have first := (has name List.mem_cons_self).has
  obtain ⟨p, found, -⟩ := (has_iff_mem mem_own List.mem_cons_self).mp first
  exact List.ne_nil_of_mem found

/-- The query of the hits of a list leaves out the items that have some tag
of the list. -/
theorem truth_notMatching (shown : lib.Shows tables) (tidy : f.Tidy) {scope : Scope} {r : Ref}
    {id : Int64} (cell : scope.value r = .integer id) :
    (Condition.notInQuery r ((TagScope.of f least).matching names)).truth engine tables scope
        = some true
      ↔ ∀ name ∈ names, ¬ f.Has least lib id name := by
  have plain : ∀ c ∈ (TagScope.of f least).conditions names, c.isPlain = true := by
    simpa [notAmong] using plain_conditions (TagScope.of f least) names none
  rw [matching, truth_notInQuery cell (rows_matching shown plain), List.mem_map]
  constructor
  · rintro absent name asked ⟨given, assigned, tag, known, rfl, reference, rfl, counts⟩
    refine absent ⟨(given, tag), ?_, rfl⟩
    rw [hits, List.mem_filter, Library.mem_tagged, allTrue_conditions shown tidy]
    exact ⟨⟨assigned, known, reference⟩, asked, counts⟩
  · rintro absent ⟨p, found, rfl⟩
    rw [hits, List.mem_filter, Library.mem_tagged, allTrue_conditions shown tidy] at found
    obtain ⟨⟨assigned, known, reference⟩, asked, counts⟩ := found
    exact absent p.2.name asked ⟨p.1, assigned, p.2, known, rfl, reference, rfl, counts⟩

end TagScope

/-! ### All items -/

/-- An item as a row. -/
def Library.itemScope (item : Library.Item) : Scope :=
  [("items", ["id", "sha256", "mime_type", "size"].zip item.row)]

/-- The items that nothing excludes. -/
def Library.freeItems (lib : Library) (engine : Engine) (tables : Tables)
    (conditions : List Condition) : List Library.Item :=
  lib.items.filter fun item => allTrue engine tables (Library.itemScope item) conditions

theorem rows_allItems (shown : lib.Shows tables) (excluded : Option Query) :
    ((allItems excluded).rows engine tables).map (·.2)
      = ((lib.freeItems engine tables
          (excluded.toList.map (.notInQuery (.of "items" "id")))).map (·.id)).map idRow := by
  let conditions : List Condition := excluded.toList.map (.notInQuery (.of "items" "id"))
  have plain : ∀ c ∈ conditions, c.isPlain = true := by
    intro c present
    obtain ⟨q, -, rfl⟩ := List.mem_map.mp present
    rfl
  have scopes : [].foldl (joinRows engine tables)
      (((Source.named "items" none).relation engine tables).scopes "items")
        = lib.items.map Library.itemScope := by
    rw [Source.relation, shown.items]
    exact Relation.scopes_map _ _ _ _
  have rows : (allItems excluded).rows engine tables = _ :=
    rows_select_where rfl plain Library.itemScope (fun _ => rfl) scopes
  rw [rows, List.map_map, Library.freeItems, List.map_map]
  refine List.map_congr_left fun item _ => ?_
  simp [Expr.value, Library.itemScope, Library.Item.row, idRow]

/-- Where no tag is required, all items are listed that are not left out. -/
theorem lists_allItems (Free : Int64 → Prop) (shown : lib.Shows tables)
    {excluded : Option Query} (free : ∀ item, allTrue engine tables (Library.itemScope item)
      (excluded.toList.map (.notInQuery (.of "items" "id"))) = true ↔ Free item.id) :
    ((allItems excluded).relation engine tables).Lists "item_id"
      fun id => (∃ item ∈ lib.items, item.id = id) ∧ Free id := by
  let kept := lib.freeItems engine tables (excluded.toList.map (.notInQuery (.of "items" "id")))
  refine ⟨kept.map (·.id), ?_, ?_, fun id => ?_⟩
  · rw [Query.relation, rows_allItems shown]
    rfl
  · exact lib.nodup_items.sublist (List.filter_sublist.map _)
  · simp only [List.mem_map, kept, Library.freeItems, List.mem_filter]
    constructor
    · rintro ⟨item, ⟨known, meets⟩, rfl⟩
      exact ⟨⟨item, known, rfl⟩, (free item).mp meets⟩
    · rintro ⟨⟨item, known, rfl⟩, allowed⟩
      exact ⟨item, ⟨known, (free item).mpr allowed⟩, rfl⟩

namespace TagFilter

/-! ### The filter -/

/-- The query of what the filter leaves out, if it does. -/
def rejected (f : TagFilter) (scope : TagScope) : Option Query :=
  if f.rejectAny.isEmpty then none else some (scope.matching f.rejectAny)

/-- The condition that leaves it out. -/
theorem allTrue_rejected (shown : lib.Shows tables) (tidy : f.Tidy) {scope : Scope} {r : Ref}
    {id : Int64} (cell : scope.value r = .integer id) :
    allTrue engine tables scope
        ((f.rejected (TagScope.of f least)).toList.map (.notInQuery r)) = true
      ↔ ∀ name ∈ f.rejectAny, ¬ f.Has least lib id name := by
  unfold rejected
  split
  case isTrue empty =>
    rw [List.isEmpty_iff] at empty
    simp [empty, allTrue]
  case isFalse =>
    simp [allTrue, TagScope.truth_notMatching shown tidy cell]

/-- What the first three lists ask for. -/
structure SelectsPositive (f : TagFilter) (least : Option Binary64) (lib : Library)
    (item : Int64) : Prop where
  known : ∃ i ∈ lib.items, i.id = item
  requireAll : ∀ name ∈ f.requireAll, f.HasFully least lib item name
  requireAny : f.requireAny ≠ [] → ∃ name ∈ f.requireAny, f.Has least lib item name
  rejectAny : ∀ name ∈ f.rejectAny, ¬ f.Has least lib item name

theorem known_of_some (consistent : lib.Consistent) {id : Int64} {names : List String}
    (has : ∃ name ∈ names, f.Has least lib id name) : ∃ i ∈ lib.items, i.id = id := by
  obtain ⟨-, -, given, assigned, -, -, rfl, -⟩ := has
  exact consistent.assignmentItem given assigned

theorem known_of_all (consistent : lib.Consistent) {id : Int64} {names : List String}
    (asked : names ≠ []) (has : ∀ name ∈ names, f.HasFully least lib id name) :
    ∃ i ∈ lib.items, i.id = id := by
  obtain ⟨name, listed⟩ := List.exists_mem_of_ne_nil names asked
  exact known_of_some consistent ⟨name, listed, (has name listed).has⟩

/-- What is required, by which of its lists are given. -/
theorem positive?_eq (f : TagFilter) (scope : TagScope) :
    f.positive? scope =
      if f.requireAll = [] then
        if f.requireAny = [] then (f.rejected scope).map fun q => allItems (some q)
        else some (scope.withAny f.requireAny (f.rejected scope))
      else
        if f.requireAny = [] then some (scope.withAll f.requireAll (f.rejected scope))
        else some (.compound .intersect [scope.withAll f.requireAll (f.rejected scope),
          scope.withAny f.requireAny none]) := by
  obtain ⟨all, any, rejectAny, rejectAll, every, setters, spaces, least⟩ := f
  cases all <;> cases any <;> rfl

/-- What is required lists the items that all lists but `rejectAll` let through. -/
theorem lists_positive? (shown : lib.Shows tables) (tidy : f.Tidy) (consistent : lib.Consistent)
    (fits : ((TagScope.of f least).quota f.requireAll).2 < UInt64.size) {q : Query}
    (chosen : f.positive? (TagScope.of f least) = some q) :
    (q.relation engine tables).Lists "item_id" (f.SelectsPositive least lib) := by
  let excluded := f.rejected (TagScope.of f least)
  let Free (id : Int64) : Prop := ∀ name ∈ f.rejectAny, ¬ f.Has least lib id name
  have freeAssignment (p : Library.Assignment × Library.Tag) :
      allTrue engine tables (Library.taggedScope p) (TagScope.notAmong excluded) = true
        ↔ Free p.1.itemId :=
    allTrue_rejected shown tidy
      (by simp [Library.taggedScope, TagScope.itemId, Library.Assignment.row])
  have freeItem (item : Library.Item) :
      allTrue engine tables (Library.itemScope item)
        (excluded.toList.map (.notInQuery (.of "items" "id"))) = true ↔ Free item.id :=
    allTrue_rejected shown tidy (by simp [Library.itemScope, Library.Item.row])
  rw [positive?_eq] at chosen
  by_cases all : f.requireAll = [] <;> by_cases any : f.requireAny = []
  -- nothing is asked for, so all items that are not rejected are listed
  · rw [if_pos all, if_pos any, Option.map_eq_some_iff] at chosen
    obtain ⟨e, rejects, rfl⟩ := chosen
    rw [show excluded = some e from rejects] at freeItem
    refine (lists_allItems Free shown freeItem).congr fun id => ?_
    constructor
    · rintro ⟨known, free⟩
      exact ⟨known, by simp [all], fun asked => absurd any asked, free⟩
    · exact fun s => ⟨s.known, s.rejectAny⟩
  · rw [if_pos all, if_neg any, Option.some.injEq] at chosen
    rw [← chosen]
    -- some tag is asked for, and whoever has it is an item
    refine (TagScope.lists_withAny Free shown tidy freeAssignment).congr fun id => ?_
    constructor
    · rintro ⟨has, free⟩
      exact ⟨known_of_some consistent has, by simp [all], fun _ => has, free⟩
    · exact fun s => ⟨s.requireAny any, s.rejectAny⟩
  · rw [if_neg all, if_pos any, Option.some.injEq] at chosen
    rw [← chosen]
    -- all of some tags are asked for
    refine (TagScope.lists_withAll Free shown tidy consistent all tidy.requireAll fits
      freeAssignment).congr fun id => ?_
    constructor
    · rintro ⟨every, free⟩
      exact ⟨known_of_all consistent all every, every, fun asked => absurd any asked, free⟩
    · exact fun s => ⟨s.requireAll, s.rejectAny⟩
  · rw [if_neg all, if_neg any, Option.some.injEq] at chosen
    rw [← chosen]
    -- both: rejecting on the left of the intersection is rejecting from all of it
    refine (lists_intersect
      (TagScope.lists_withAll Free shown tidy consistent all tidy.requireAll fits freeAssignment)
      (TagScope.lists_withAny (fun _ => True) shown tidy
        TagScope.allTrue_notAmong_none)).congr fun id => ?_
    constructor
    · rintro ⟨⟨every, free⟩, has, -⟩
      exact ⟨known_of_some consistent has, every, fun _ => has, free⟩
    · exact fun s => ⟨⟨s.requireAll, s.rejectAny⟩, s.requireAny any, trivial⟩

/-- There is no query if the first three lists are empty. -/
theorem positive?_eq_none_iff (f : TagFilter) (scope : TagScope) :
    f.positive? scope = none ↔ f.requireAll = [] ∧ f.requireAny = [] ∧ f.rejectAny = [] := by
  rw [positive?_eq]
  by_cases all : f.requireAll = [] <;> by_cases any : f.requireAny = [] <;>
    simp [all, any, rejected]

theorem lists_operand {q : Query} {P : Int64 → Prop}
    (listed : (q.relation engine tables).Lists "item_id" P) :
    ((operand q).relation engine tables).Lists "item_id" P := by
  unfold operand
  split
  case h_1 => exact lists_reselect listed
  case h_2 => exact listed

/-- What the items with all tags of `rejectAll` are taken out of. -/
def minuend (f : TagFilter) (least : Option Binary64) : Query :=
  ((f.positive? (.of f least)).map operand).getD (allItems none)

/-- The query subtracts what has all rejected tags, if there are any. -/
theorem query?_eq (f : TagFilter) (least : Option Binary64) :
    f.query? least =
      if f.rejectAll = [] then f.positive? (.of f least)
      else some (.compound .except
        [f.minuend least, (TagScope.of f least).withAll f.rejectAll none]) := by
  unfold query? minuend
  dsimp only
  cases f.positive? (.of f least) <;> simp [List.isEmpty_iff]

/-- There is no query if all lists are empty. -/
theorem query?_eq_none_iff (f : TagFilter) (least : Option Binary64) :
    f.query? least = none ↔ f.isEmpty = true := by
  rw [query?_eq]
  simp only [isEmpty, Bool.and_eq_true, List.isEmpty_iff]
  by_cases unrejected : f.rejectAll = []
  · simp [unrejected, positive?_eq_none_iff, and_assoc]
  · simp [unrejected]

/-- What is subtracted from lists the same items, whether tags are required or
not. -/
theorem lists_minuend (shown : lib.Shows tables) (tidy : f.Tidy) (consistent : lib.Consistent)
    (fits : ((TagScope.of f least).quota f.requireAll).2 < UInt64.size) :
    ((f.minuend least).relation engine tables).Lists "item_id" (f.SelectsPositive least lib) := by
  unfold minuend
  cases positive : f.positive? (TagScope.of f least) with
  | none =>
    -- the first three lists restrict nothing, so every item is selected
    obtain ⟨all, any, rejectAny⟩ := (positive?_eq_none_iff f _).mp positive
    have items : ((allItems none).relation engine tables).Lists "item_id"
        fun id => (∃ item ∈ lib.items, item.id = id) ∧ True :=
      lists_allItems (fun _ => True) shown fun item => by simp [allTrue]
    refine items.congr fun id => ?_
    constructor
    · rintro ⟨known, -⟩
      exact ⟨known, by simp [all], fun asked => absurd any asked, by simp [rejectAny]⟩
    · exact fun s => ⟨s.known, trivial⟩
  | some base => exact lists_operand (lists_positive? shown tidy consistent fits positive)

/-- The query lists the items the filter selects, if what is counted is not
too much to count. -/
theorem lists_of_query? (shown : lib.Shows tables) (tidy : f.Tidy) (consistent : lib.Consistent)
    (fitsAll : ((TagScope.of f least).quota f.requireAll).2 < UInt64.size)
    (fitsReject : ((TagScope.of f least).quota f.rejectAll).2 < UInt64.size) {q : Query}
    (chosen : f.query? least = some q) :
    (q.relation engine tables).Lists "item_id"
      fun id => (∃ item ∈ lib.items, item.id = id) ∧ f.Selects least lib id := by
  rw [query?_eq] at chosen
  split at chosen
  case isTrue unrejected =>
    refine (lists_positive? shown tidy consistent fitsAll chosen).congr fun id => ?_
    constructor
    · intro s
      exact ⟨s.known, s.requireAll, s.requireAny, s.rejectAny,
        fun asked => absurd unrejected asked⟩
    · rintro ⟨known, s⟩
      exact ⟨known, s.requireAll, s.requireAny, s.rejectAny⟩
  case isFalse rejects =>
    -- what has all rejected tags is subtracted, with nothing left out of it
    have subtracted : (((TagScope.of f least).withAll f.rejectAll none).relation engine
        tables).Lists "item_id"
          fun id => (∀ name ∈ f.rejectAll, f.HasFully least lib id name) ∧ True :=
      TagScope.lists_withAll (fun _ => True) shown tidy consistent rejects tidy.rejectAll
        fitsReject TagScope.allTrue_notAmong_none
    rw [← Option.some.inj chosen]
    refine (lists_except (lists_minuend shown tidy consistent fitsAll)
      subtracted).congr fun id => ?_
    rw [and_true]
    constructor
    · rintro ⟨s, notAll⟩
      exact ⟨s.known, s.requireAll, s.requireAny, s.rejectAny, fun _ => notAll⟩
    · rintro ⟨known, s⟩
      exact ⟨⟨known, s.requireAll, s.requireAny, s.rejectAny⟩, s.rejectAll rejects⟩

/-! ### Any library -/

/-- Whatever the library holds, the items are listed once each. -/
theorem exists_lists_positive? (shown : lib.Shows tables) {scope : TagScope} {q : Query}
    (chosen : f.positive? scope = some q) :
    ∃ P, (q.relation engine tables).Lists "item_id" P := by
  have grouped (names : List String) (excluded : Option Query) (having : Option (Expr × Value)) :
      ∃ P, ((Query.select { TagScope.assignments
        (scope.conditions names ++ TagScope.notAmong excluded) with
          grouping := [.ref TagScope.itemId], having }).relation engine tables).Lists "item_id" P :=
    ⟨_, TagScope.lists_grouped shown (TagScope.plain_conditions scope names excluded) having⟩
  rw [positive?_eq] at chosen
  split at chosen
  · split at chosen
    -- whatever the query of the rejected tags lists
    · obtain ⟨e, -, rfl⟩ := Option.map_eq_some_iff.mp chosen
      let Free (id : Int64) : Prop := ((Value.integer id).isAmong
        ((e.rows engine tables).map fun row => firstValue row.2)).map not = some true
      refine ⟨_, lists_allItems Free shown fun item => ?_⟩
      simp [allTrue, Condition.truth, Library.itemScope, Library.Item.row, Free]
    · rw [← Option.some.inj chosen]
      exact grouped _ _ none
  · split at chosen
    · rw [← Option.some.inj chosen]
      exact grouped _ _ _
    · rw [← Option.some.inj chosen]
      obtain ⟨P, lefts⟩ := grouped f.requireAll (f.rejected scope)
        (TagScope.full scope f.requireAll)
      obtain ⟨Q, rights⟩ := grouped f.requireAny none none
      exact ⟨_, lists_intersect lefts rights⟩

theorem exists_lists_minuend (shown : lib.Shows tables) (f : TagFilter)
    (least : Option Binary64) :
    ∃ P, ((f.minuend least).relation engine tables).Lists "item_id" P := by
  unfold minuend
  cases positive : f.positive? (TagScope.of f least) with
  | none => exact ⟨_, lists_allItems (fun _ => True) shown fun item => by simp [allTrue]⟩
  | some base =>
    have listed : ∃ P, (base.relation engine tables).Lists "item_id" P :=
      exists_lists_positive? shown positive
    obtain ⟨P, listed⟩ := listed
    exact ⟨P, lists_operand listed⟩

theorem exists_lists_query? (shown : lib.Shows tables) {q : Query}
    (chosen : f.query? least = some q) :
    ∃ P, (q.relation engine tables).Lists "item_id" P := by
  rw [query?_eq] at chosen
  split at chosen
  case isTrue => exact exists_lists_positive? shown chosen
  case isFalse =>
    -- what is rejected is a part of its own, subtracted from the rest
    have lefts : ∃ P, ((f.minuend least).relation engine tables).Lists "item_id" P :=
      exists_lists_minuend shown f least
    obtain ⟨P, lefts⟩ := lefts
    rw [← Option.some.inj chosen]
    exact ⟨_, lists_except lefts (TagScope.lists_grouped shown
      (TagScope.plain_conditions (TagScope.of f least) f.rejectAll none)
      (TagScope.full (TagScope.of f least) f.rejectAll))⟩

/-! ### Parameters -/

/-- What is counted is little enough if the names and setters can be bound. -/
theorem quota_lt {scope : TagScope} {names : List String} {excluded : Option Query}
    (bindable : (scope.withAll names excluded).fragment.Bindable) :
    (scope.quota names).2 < UInt64.size := by
  -- every text that is compared with is a parameter, and these are less than 2 ^ 32
  have few {c : Condition} (present : c ∈ scope.conditions names) {vs : List Value}
      (values : vs.Sublist c.fragment.params) : vs.length < UInt32.size :=
    Nat.lt_of_le_of_lt
      (values.trans (params_condition_sublist (List.mem_append_left _ present))).length_le bindable
  have fewNames : names.length < UInt32.size := by
    rw [← List.length_map Value.text]
    exact few List.mem_cons_self (List.Sublist.refl _)
  have fewSetters : scope.setters.length < UInt32.size := by
    by_cases unrestricted : scope.setters = []
    · simp [unrestricted]
    · rw [← List.length_map Value.text]
      refine few (c := .inQuery (.of "tags_setters" "setter_id")
        (Library.settersNamed scope.setters)) ?_ ?_
      · simp [TagScope.conditions, Library.setBy, unrestricted]
      · rw [Condition.fragment, Fragment.params_wrap]
        exact params_condition_sublist (c := .oneOf (.bare "name") (scope.setters.map .text))
          List.mem_cons_self
  unfold TagScope.quota
  split
  · calc
      names.length * scope.setters.length < UInt32.size * UInt32.size :=
        Nat.mul_lt_mul'' fewNames fewSetters
      _ = UInt64.size := by decide
  · exact Nat.lt_trans fewNames (by decide)

theorem quota_nil_lt (scope : TagScope) : (scope.quota []).2 < UInt64.size := by
  unfold TagScope.quota
  split <;> simp

theorem quota_positive?_lt {scope : TagScope} {q : Query} (chosen : f.positive? scope = some q)
    (bindable : q.fragment.Bindable) : (scope.quota f.requireAll).2 < UInt64.size := by
  rw [positive?_eq] at chosen
  by_cases all : f.requireAll = []
  · rw [all]
    exact quota_nil_lt scope
  · rw [if_neg all] at chosen
    split at chosen <;> rw [Option.some.injEq] at chosen <;> subst chosen
    · exact quota_lt bindable
    · exact quota_lt (bindable.of_sublist (params_part_sublist List.mem_cons_self))

theorem params_operand_sublist (q : Query) :
    q.fragment.params.Sublist (operand q).fragment.params := by
  unfold operand
  split
  case h_1 operator parts =>
    have source : (Source.query (.compound operator parts) none).fragment.params
        = (Query.compound operator parts).fragment.params := by
      rw [Source.fragment, Fragment.params_wrap]
    rw [← source]
    exact params_source_sublist ⟨false, _, .query (.compound operator parts) none, _, _, _, _⟩
  case h_2 => exact List.Sublist.refl _

/-- A statement that can be bound has fewer tags than a count can hold. -/
theorem quota_minuend_lt (bindable : (f.minuend least).fragment.Bindable) :
    ((TagScope.of f least).quota f.requireAll).2 < UInt64.size := by
  unfold minuend at bindable
  cases positive : f.positive? (TagScope.of f least) with
  | none =>
    rw [((positive?_eq_none_iff f _).mp positive).1]
    exact quota_nil_lt _
  | some base =>
    rw [positive] at bindable
    exact quota_positive?_lt positive (bindable.of_sublist (params_operand_sublist base))

/-- What a query that can be bound counts is little enough. -/
theorem quotas_lt {q : Query} (chosen : f.query? least = some q) (bindable : q.fragment.Bindable) :
    ((TagScope.of f least).quota f.requireAll).2 < UInt64.size
      ∧ ((TagScope.of f least).quota f.rejectAll).2 < UInt64.size := by
  rw [query?_eq] at chosen
  split at chosen
  case isTrue unrejected =>
    rw [unrejected]
    exact ⟨quota_positive?_lt chosen bindable, quota_nil_lt _⟩
  case isFalse =>
    obtain rfl := Option.some.inj chosen
    have first := bindable.of_sublist (params_part_sublist List.mem_cons_self)
    have second := bindable.of_sublist
      (params_part_sublist (List.mem_cons_of_mem _ List.mem_cons_self))
    exact ⟨quota_minuend_lt first, quota_lt second⟩

/-! ### Main result -/

/-- A filter for what both setters call a cat, but not a dog and a cow. -/
def cats : TagFilter where
  requireAll := ["Cat "]
  rejectAll := ["dog", "cow"]
  setters := ["ann", "bob"]
  everySetter := true

end TagFilter

end MediaSearch
