/-
MediaSearch/Proofs/Tags/Selection.lean

Which items a tag filter selects, said of the tags that items have.

An item has a tag if some assignment of a tag of that name counts: by one of
the setters, in one of the namespaces and with at least the confidence that
the filter asks for.  Where every setter is required, an item has a tag only
if it has it from each of them.  `TagFilter.Selects` puts the four lists
together.

The lists of a filter in normal form have no repetitions and no entries that
need trimming, which is what the queries of the filter rely on
(`TagFilter.Tidy`, `tidy_normalize`).
-/
import MediaSearch.Proofs.Library.Lookup
import MediaSearch.Proofs.Text.Blank
import MediaSearch.Tags.Filter

namespace MediaSearch

namespace TagFilter

/-! ### Selected items -/

/-- Whether an assignment is confident enough.  The filter's own bound goes
before the given one; a bound that is not positive asks for nothing. -/
def Confident (f : TagFilter) (least : Option Binary64) (confidence : Binary64) : Prop :=
  ∀ bound, f.minConfidence.or least = some bound → 0 < bound.signedUnits →
    bound.signedUnits ≤ confidence.signedUnits

/-- Whether the assignment of a tag counts. -/
structure Counts (f : TagFilter) (least : Option Binary64) (lib : Library)
    (given : Library.Assignment) (tag : Library.Tag) : Prop where
  setter : f.setters ≠ [] →
    ∃ setter ∈ lib.setters, setter.name ∈ f.setters ∧ setter.id = tag.setterId
  space : f.namespaces ≠ [] → ∃ start ∈ f.namespaces, StartsFolded start tag.space
  confidence : f.Confident least given.confidence

/-- Whether an item has a tag. -/
def Has (f : TagFilter) (least : Option Binary64) (lib : Library) (item : Int64)
    (name : String) : Prop :=
  ∃ given ∈ lib.assignments, ∃ tag ∈ lib.tags,
    given.itemId = item ∧ tag.id = given.tagId ∧ tag.name = name ∧ f.Counts least lib given tag

/-- Whether an item has a tag from a setter. -/
def HasFrom (f : TagFilter) (least : Option Binary64) (lib : Library) (item : Int64)
    (name setterName : String) : Prop :=
  ∃ given ∈ lib.assignments, ∃ tag ∈ lib.tags, ∃ setter ∈ lib.setters,
    given.itemId = item ∧ tag.id = given.tagId ∧ tag.name = name
      ∧ setter.id = tag.setterId ∧ setter.name = setterName ∧ f.Counts least lib given tag

/-- Whether an item has a tag as the lists ask for that are about all of
their tags: from every setter, if the filter requires that. -/
def HasFully (f : TagFilter) (least : Option Binary64) (lib : Library) (item : Int64)
    (name : String) : Prop :=
  if f.everySetter = true ∧ f.setters ≠ [] then
    ∀ setterName ∈ f.setters, f.HasFrom least lib item name setterName
  else f.Has least lib item name

theorem HasFrom.has {f : TagFilter} {least : Option Binary64} {lib : Library} {item : Int64}
    {name setterName : String} (has : f.HasFrom least lib item name setterName) :
    f.Has least lib item name := by
  obtain ⟨given, assigned, tag, known, -, -, same, reference, named, -, -, counts⟩ := has
  exact ⟨given, assigned, tag, known, same, reference, named, counts⟩

theorem HasFully.has {f : TagFilter} {least : Option Binary64} {lib : Library} {item : Int64}
    {name : String} (has : f.HasFully least lib item name) : f.Has least lib item name := by
  unfold HasFully at has
  split at has
  case isTrue every =>
    -- any of the setters will do
    obtain ⟨setterName, rest, listed⟩ := List.exists_cons_of_ne_nil every.2
    exact (has setterName (listed ▸ List.mem_cons_self)).has
  case isFalse => exact has

/-- Whether a filter selects an item. -/
structure Selects (f : TagFilter) (least : Option Binary64) (lib : Library) (item : Int64) :
    Prop where
  requireAll : ∀ name ∈ f.requireAll, f.HasFully least lib item name
  requireAny : f.requireAny ≠ [] → ∃ name ∈ f.requireAny, f.Has least lib item name
  rejectAny : ∀ name ∈ f.rejectAny, ¬ f.Has least lib item name
  rejectAll : f.rejectAll ≠ [] → ¬ ∀ name ∈ f.rejectAll, f.HasFully least lib item name

/-! ### Lists without repetitions -/

/-- Lists that name nothing twice and need no trimming. -/
structure Tidy (f : TagFilter) : Prop where
  requireAll : f.requireAll.Nodup
  rejectAll : f.rejectAll.Nodup
  setters : f.setters.Nodup
  nonBlank_setters : Text.nonBlank f.setters = f.setters
  nonBlank_namespaces : Text.nonBlank f.namespaces = f.namespaces

theorem nodup_eraseDups (xs : List String) : xs.eraseDups.Nodup := by
  match xs with
  | [] => exact List.nodup_nil
  | x :: xs =>
    rw [List.eraseDups_cons, List.nodup_cons]
    refine ⟨?_, nodup_eraseDups (xs.filter fun y => !y == x)⟩
    rw [List.mem_eraseDups, List.mem_filter]
    simp
termination_by xs.length
decreasing_by exact Nat.lt_succ_of_le (List.length_filter_le _ xs)

theorem nonBlank_cleanEntries (entries : List String) :
    Text.nonBlank (cleanEntries entries) = cleanEntries entries := by
  refine Text.nonBlank_eq_self fun s present => ?_
  rw [cleanEntries, List.mem_eraseDups] at present
  exact Text.mem_nonBlank present

theorem nodup_foldSingle {single other : List String} (distinct : other.Nodup) :
    (foldSingle single other).2.Nodup := by
  unfold foldSingle
  split
  case h_1 tag =>
    by_cases present : tag ∈ other
    · simpa [present] using distinct
    · simp only [present, if_false]
      exact List.nodup_append.mpr ⟨distinct, List.nodup_singleton tag, by
        rintro a kept b only rfl
        exact present (List.mem_singleton.mp only ▸ kept)⟩
  case h_2 => exact distinct

theorem nodup_foldSingle_left {single other : List String} (distinct : single.Nodup) :
    (foldSingle single other).1.Nodup := by
  unfold foldSingle
  split
  · exact List.nodup_nil
  · exact distinct

/-- Normal filters have tidy lists. -/
theorem tidy_normalize (f : TagFilter) : f.normalize.Tidy where
  requireAll := nodup_foldSingle (nodup_eraseDups _)
  rejectAll := nodup_foldSingle_left (nodup_eraseDups _)
  setters := nodup_eraseDups _
  nonBlank_setters := nonBlank_cleanEntries f.setters
  nonBlank_namespaces := nonBlank_cleanEntries f.namespaces

end TagFilter

end MediaSearch
