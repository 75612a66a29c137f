/-
MediaSearch/Proofs/Tags/Words.lean

The query of a tag filter reads tables of a library only.

It is made from selections of assignments and from lists of all items, which
refer to each other but to no stage, and names words alone.

Main result: `query?_within`.
-/
import MediaSearch.Proofs.Filter.Words
import MediaSearch.Proofs.Tags.Query

namespace MediaSearch

open Sql Library

namespace TagScope

/-- Conditions on assignments read tables of the library and have words for names. -/
theorem within_conditions (scope : TagScope) (names : List String) :
    ∀ c ∈ scope.conditions names, Within tableNames c.names c.reads := by
  simp only [conditions, List.forall_mem_append, List.forall_mem_singleton]
  exact ⟨⟨⟨within_column (r := .of "tags_setters" "name") (by decide) rfl rfl,
    within_atLeast (by decide) _⟩, within_setBy (by decide) _⟩,
    within_startsWithOneOf (by decide) _⟩

variable {excluded : Option Query}

/-- What is left out is left out by a condition. -/
theorem within_notIn {r : Ref} (word : isWord r.text = true)
    (within : ∀ q ∈ excluded, Within tableNames q.names q.reads) :
    ∀ c ∈ excluded.toList.map (Condition.notInQuery r), Within tableNames c.names c.reads := by
  intro c present
  obtain ⟨q, listed, rfl⟩ := List.mem_map.mp present
  have query := within q (Option.mem_toList.mp listed)
  refine ⟨?_, query.reads⟩
  rw [Condition.names, allWords_cons]
  exact ⟨word, query.words⟩

theorem within_notAmong (within : ∀ q ∈ excluded, Within tableNames q.names q.reads) :
    ∀ c ∈ notAmong excluded, Within tableNames c.names c.reads :=
  within_notIn (r := itemId) (by decide) within

/-- A query of assignments that groups them or not. -/
theorem within_assignments {conditions : List Condition}
    (met : ∀ c ∈ conditions, Within tableNames c.names c.reads) {grouping : List Expr}
    (keys : ∀ e ∈ grouping, AllWords e.names) (having : Option (Expr × Value))
    (counted : AllWords (havingNames having)) {q : Query}
    (made : q = .select { assignments conditions with grouping, having }) :
    Within tableNames q.names q.reads := by
  have columns : ∀ c ∈ [Column.mk (.ref itemId) (some "item_id")], AllWords c.names := by decide
  have joins : ∀ j ∈ [Join.mk "tags_setters" none (.ref (.of "tags_setters" "id"))
      (.ref (.of "tags_items" "tag_id"))], Within tableNames j.names [j.table] := by decide
  subst made
  exact Within.select columns (by decide : Within tableNames ["tags_items"] ["tags_items"]) joins
    met keys counted

theorem within_matching (scope : TagScope) (names : List String) :
    Within tableNames (scope.matching names).names (scope.matching names).reads :=
  within_assignments (scope.within_conditions names) (List.forall_mem_nil _) none allWords_nil
    rfl

theorem within_withAny (scope : TagScope) (names : List String)
    (within : ∀ q ∈ excluded, Within tableNames q.names q.reads) :
    Within tableNames (scope.withAny names excluded).names
      (scope.withAny names excluded).reads :=
  within_assignments
    (List.forall_mem_append.mpr ⟨scope.within_conditions names, within_notAmong within⟩)
    (by decide : ∀ e ∈ [Expr.ref itemId], AllWords e.names) none allWords_nil rfl

theorem within_withAll (scope : TagScope) (names : List String)
    (within : ∀ q ∈ excluded, Within tableNames q.names q.reads) :
    Within tableNames (scope.withAll names excluded).names
      (scope.withAll names excluded).reads := by
  have quota : AllWords (scope.quota names).1.names := by
    unfold TagScope.quota
    split
    · exact (by decide : AllWords ["tags_setters.setter_id", "tags_setters.name"])
    · exact (by decide : AllWords ["tags_setters.name"])
  exact within_assignments
    (List.forall_mem_append.mpr ⟨scope.within_conditions names, within_notAmong within⟩)
    (by decide : ∀ e ∈ [Expr.ref itemId], AllWords e.names)
    (some (.aggregate .countDistinct (scope.quota names).1, _)) quota rfl

end TagScope

theorem within_allItems {excluded : Option Query}
    (within : ∀ q ∈ excluded, Within tableNames q.names q.reads) :
    Within tableNames (allItems excluded).names (allItems excluded).reads :=
  Within.select (by decide : ∀ c ∈ [Column.mk (.ref (.of "items" "id")) (some "item_id")],
      AllWords c.names)
    (by decide : Within tableNames ["items"] ["items"]) nofun
    (TagScope.within_notIn (r := .of "items" "id") (by decide) within) nofun allWords_nil

/-- Where nothing is left out, nothing is named. -/
theorem within_none : ∀ q ∈ (none : Option Query), Within tableNames q.names q.reads := nofun

namespace TagFilter

variable {f : TagFilter} {scope : TagScope} {q : Query}

theorem rejected_within (chosen : q ∈ f.rejected scope) : Within tableNames q.names q.reads := by
  unfold rejected at chosen
  split at chosen
  · cases chosen
  · rw [← Option.some.inj chosen]
    exact scope.within_matching f.rejectAny

theorem positive?_within (chosen : q ∈ f.positive? scope) :
    Within tableNames q.names q.reads := by
  have rejected : ∀ q ∈ f.rejected scope, Within tableNames q.names q.reads :=
    fun _ => rejected_within
  rw [positive?_eq] at chosen
  split at chosen
  · split at chosen
    · obtain ⟨other, same, rfl⟩ := Option.map_eq_some_iff.mp chosen
      refine within_allItems ?_
      rintro q ⟨⟩
      exact rejected other same
    · rw [← Option.some.inj chosen]
      exact scope.within_withAny _ rejected
  · split at chosen
    · rw [← Option.some.inj chosen]
      exact scope.within_withAll _ rejected
    · rw [← Option.some.inj chosen]
      refine Within.compound ?_ _
      simp only [List.forall_mem_cons]
      exact ⟨scope.within_withAll _ rejected, scope.within_withAny _ within_none, nofun⟩

theorem operand_within (within : Within tableNames q.names q.reads) :
    Within tableNames (operand q).names (operand q).reads := by
  unfold operand
  split
  · have columns : ∀ c ∈ [Column.mk (.ref (.bare "item_id")) none], AllWords c.names := by decide
    refine Within.select columns ?_ nofun nofun nofun allWords_nil
    exact ⟨allWords_append.mpr ⟨within.words, allWords_nil⟩, within.reads⟩
  · exact within

/-- What is subtracted from reads tables of the library. -/
theorem minuend_within (f : TagFilter) (least : Option Binary64) :
    Within tableNames (f.minuend least).names (f.minuend least).reads := by
  unfold minuend
  cases positive : f.positive? (.of f least) with
  | none => exact within_allItems within_none
  | some base => exact operand_within (positive?_within positive)

/-- **The query of a tag filter reads no stage**, and words are all the names
in it. -/
theorem query?_within {least : Option Binary64} (chosen : q ∈ f.query? least) :
    Within tableNames q.names q.reads := by
  rw [query?_eq] at chosen
  split at chosen
  · exact positive?_within chosen
  · rw [← Option.some.inj chosen]
    refine Within.compound ?_ _
    simp only [List.forall_mem_cons]
    exact ⟨f.minuend_within least, TagScope.within_withAll _ _ within_none, nofun⟩

theorem query?_words (f : TagFilter) (least : Option Binary64) :
    ∀ q ∈ f.query? least, AllWords q.names :=
  fun _ chosen => (query?_within chosen).words

end TagFilter

end MediaSearch
