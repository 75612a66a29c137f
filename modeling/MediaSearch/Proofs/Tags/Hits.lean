/-
MediaSearch/Proofs/Tags/Hits.lean

The rows that the queries of a tag filter read.

All of them read the same joined rows, pairs of an assignment and its tag
(`Library.tagged`), and keep the hits: the pairs whose tag is named and that
count (`allTrue_conditions`).  A query that groups them by item lists the
items whose hits, taken together, meet the condition on groups
(`lists_grouped`).
-/
import MediaSearch.Proofs.Sql.Listing
import MediaSearch.Proofs.Tags.Selection
import MediaSearch.Tags.Query

namespace MediaSearch

open Sql

namespace Library

/-- The assignments, each with its tag. -/
def tagged (lib : Library) : List (Assignment × Tag) :=
  pairsWith (fun given tag => tag.id = given.tagId) lib.assignments lib.tags

/-- An assignment and its tag as a joined row. -/
def taggedScope (p : Assignment × Tag) : Scope :=
  [("tags_items", ["item_id", "tag_id", "confidence"].zip p.1.row),
    ("tags_setters", ["id", "namespace", "name", "setter_id"].zip p.2.row)]

theorem mem_tagged {lib : Library} {p : Assignment × Tag} :
    p ∈ lib.tagged ↔ p.1 ∈ lib.assignments ∧ p.2 ∈ lib.tags ∧ p.2.id = p.1.tagId := by
  rw [tagged, mem_pairsWith, decide_eq_true_eq]

end Library

variable {lib : Library} {engine : Engine} {tables : Tables}

namespace TagScope

/-- The pairs of an assignment and its tag that meet conditions. -/
def hits (engine : Engine) (tables : Tables) (lib : Library) (conditions : List Condition) :
    List (Library.Assignment × Library.Tag) :=
  lib.tagged.filter fun p => allTrue engine tables (Library.taggedScope p) conditions

/-! ### Rows -/

/-- The joined rows of every query of assignments. -/
theorem rows_assignments (shown : lib.Shows tables) {conditions : List Condition}
    (plain : ∀ c ∈ conditions, c.isPlain = true) (grouping : List Expr)
    (having : Option (Expr × Value)) :
    (Query.select { assignments conditions with grouping, having }).rows engine tables
      = selectRows engine false [⟨.ref itemId, some "item_id"⟩] grouping having
          ((hits engine tables lib conditions).map Library.taggedScope) := by
  -- tables joined on a key are the pairs that the key connects
  have joined : joinRows engine tables
      (lib.assignments.map fun given =>
        [("tags_items", ["item_id", "tag_id", "confidence"].zip given.row)])
      ⟨"tags_setters", none, .ref (.of "tags_setters" "id"), .ref (.of "tags_items" "tag_id")⟩
      = lib.tagged.map Library.taggedScope := by
    refine joinRows_map shown.tags _ _ (fun given tag => ?_) _
    simp [Expr.value, Library.Assignment.row, Library.Tag.row]
  rw [assignments, Query.rows, Source.relation, shown.assignments, Source.name,
    Option.getD_none, Relation.scopes_map, List.foldl_cons, List.foldl_nil, joined,
    map_rankedScope_of_plain plain, filter_allTrue_map _ _ fun _ => rfl]
  rfl

theorem item_of_tagged (p : Library.Assignment × Library.Tag) :
    (Expr.ref itemId).value engine [Library.taggedScope p] = .integer p.1.itemId := by
  simp [Expr.value, itemId, Library.taggedScope, Library.Assignment.row]

/-- A row for each assignment that meets the conditions. -/
theorem rows_matching (shown : lib.Shows tables) {conditions : List Condition}
    (plain : ∀ c ∈ conditions, c.isPlain = true) :
    ((Query.select (assignments conditions)).rows engine tables).map (·.2)
      = ((hits engine tables lib conditions).map fun p => p.1.itemId).map idRow := by
  have rows : (Query.select (assignments conditions)).rows engine tables = _ :=
    rows_assignments shown plain [] none
  rw [rows, selectRows_map rfl, List.map_map, List.map_map]
  refine List.map_congr_left fun p _ => ?_
  simp [item_of_tagged, idRow]

/-- A grouped query lists the items of the groups that are kept. -/
theorem lists_grouped (shown : lib.Shows tables) {conditions : List Condition}
    (plain : ∀ c ∈ conditions, c.isPlain = true) (having : Option (Expr × Value)) :
    ((Query.select { assignments conditions with
        grouping := [.ref itemId], having }).relation engine tables).Lists "item_id"
      fun id =>
        let own := (hits engine tables lib conditions).filter fun p => p.1.itemId = id
        own ≠ [] ∧ meetsHaving engine having (own.map Library.taggedScope) = true := by
  let found := hits engine tables lib conditions
  let item (p : Library.Assignment × Library.Tag) : Int64 := p.1.itemId
  let own (id : Int64) := found.filter fun p => item p = id
  let meets (id : Int64) : Bool := meetsHaving engine having ((own id).map Library.taggedScope)
  -- one group for each item that has a hit
  obtain ⟨ids, groups, distinct, occurs⟩ : ∃ ids : List Int64,
      groupBy item found = ids.map own ∧ ids.Nodup ∧ ∀ id, id ∈ ids ↔ own id ≠ [] := by
    refine ⟨_, groupBy_eq_map_keys item found, nodup_map_distinctBy item found, fun id => ?_⟩
    rw [mem_map_distinctBy, List.mem_map, Ne, List.filter_eq_nil_iff]
    simp
  have rows : ((Query.select { assignments conditions with
      grouping := [.ref itemId], having }).rows engine tables).map (·.2)
      = (ids.filter meets).map idRow := by
    rw [rows_assignments shown plain, selectRows_grouped_map Library.taggedScope item fun p q => by
        simp [item_of_tagged, Value.key_integer_inj, item],
      groups]
    simp only [List.map_map, List.filter_map]
    refine List.map_congr_left fun id kept => ?_
    -- the first pair of a group is one of the item
    obtain ⟨p, rest, group⟩ := List.exists_cons_of_ne_nil
      ((occurs id).mp (List.mem_of_mem_filter kept))
    have first : p ∈ own id := group ▸ List.mem_cons_self
    have same : p.1.itemId = id := of_decide_eq_true (List.mem_filter.mp first).2
    simp only [Function.comp_apply, group, List.map_cons, List.map_nil, idRow]
    rw [show (Expr.ref itemId).value engine (Library.taggedScope p :: rest.map Library.taggedScope)
      = (Expr.ref itemId).value engine [Library.taggedScope p] from rfl, item_of_tagged, same]
  refine ⟨ids.filter meets, ?_, distinct.filter _, fun id => ?_⟩
  · rw [Query.relation, rows]
    rfl
  · rw [List.mem_filter, occurs]

/-! ### Conditions -/

theorem plain_conditions (scope : TagScope) (names : List String) (excluded : Option Query) :
    ∀ c ∈ scope.conditions names ++ notAmong excluded, c.isPlain = true := by
  intro c present
  simp only [conditions, Library.atLeast, Library.setBy, Library.startsWithOneOf, notAmong,
    List.mem_append, List.mem_singleton, List.mem_map, List.mem_ite_nil_left] at present
  rcases present with (((rfl | ⟨_, -, rfl⟩) | ⟨-, rfl⟩) | ⟨-, rfl⟩) | ⟨_, -, rfl⟩ <;> rfl

variable {f : TagFilter} {least : Option Binary64}

theorem confident_iff (confidence : Binary64) :
    (∀ v, (TagScope.of f least).minConfidence.map Value.real = some v →
        Comparison.ge.truth (.real confidence) v = some true)
      ↔ f.Confident least confidence := by
  -- the floor of the request holds where the filter has none
  have floor : (f.minConfidence <|> least) = f.minConfidence.or least := by
    cases f.minConfidence <;> rfl
  simp only [TagScope.of, TagFilter.Confident, Option.map_eq_some_iff, Option.filter_eq_some_iff,
    Binary.isPositive_iff, floor]
  constructor
  · intro met bound chosen positive
    exact (Comparison.truth_ge_real _ _).mp (met _ ⟨bound, ⟨chosen, positive⟩, rfl⟩)
  · rintro met _ ⟨bound, ⟨chosen, positive⟩, rfl⟩
    exact (Comparison.truth_ge_real _ _).mpr (met bound chosen positive)

/-- The conditions are those under which an assignment counts, for any of the names. -/
theorem allTrue_conditions (shown : lib.Shows tables) (tidy : f.Tidy) {names : List String}
    (p : Library.Assignment × Library.Tag) :
    allTrue engine tables (Library.taggedScope p) ((TagScope.of f least).conditions names) = true
      ↔ p.2.name ∈ names ∧ f.Counts least lib p.1 p.2 := by
  obtain ⟨given, tag⟩ := p
  -- what the conditions read from a joined row
  have name : allTrue engine tables (Library.taggedScope (given, tag))
      [.oneOf (.of "tags_setters" "name") (names.map .text)] = true ↔ tag.name ∈ names := by
    simp [allTrue, Condition.truth, Library.taggedScope, Library.Tag.row,
      Value.text_isAmong_texts]
  have confidence : Scope.value (Library.taggedScope (given, tag)) (.of "tags_items" "confidence")
      = .real given.confidence := by
    simp [Library.taggedScope, Library.Assignment.row]
  have setter : Scope.value (Library.taggedScope (given, tag)) (.of "tags_setters" "setter_id")
      = .integer tag.setterId := by
    simp [Library.taggedScope, Library.Tag.row]
  have space : Scope.value (Library.taggedScope (given, tag)) (.of "tags_setters" "namespace")
      = .text tag.space := by
    simp [Library.taggedScope, Library.Tag.row]
  have scopeSetters : (TagScope.of f least).setters = f.setters := tidy.nonBlank_setters
  have scopeSpaces : (TagScope.of f least).namespaces = f.namespaces := tidy.nonBlank_namespaces
  simp only [conditions, allTrue_append, Bool.and_eq_true, name, Library.allTrue_atLeast,
    Library.allTrue_setBy shown, Library.allTrue_startsWithOneOf, confidence, setter, space,
    scopeSetters, scopeSpaces, confident_iff, Comparison.truth_eq_integer,
    Engine.startsWith?_text]
  constructor
  · rintro ⟨⟨⟨named, confident⟩, bySetter⟩, inSpace⟩
    refine ⟨named, fun listed => ?_, inSpace, confident⟩
    obtain ⟨setter, known, listed, same⟩ := bySetter listed
    exact ⟨setter, known, listed, same.symm⟩
  · rintro ⟨named, counts⟩
    refine ⟨⟨⟨named, counts.confidence⟩, fun listed => ?_⟩, counts.space⟩
    obtain ⟨setter, known, listed, same⟩ := counts.setter listed
    exact ⟨setter, known, listed, same.symm⟩

end TagScope

end MediaSearch
