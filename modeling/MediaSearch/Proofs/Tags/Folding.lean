/-
MediaSearch/Proofs/Tags/Folding.lean

What normalizing does to the items a tag filter selects.

Lists that are clean are not changed, so all that is left of normalizing is
to move the only tag of a list to the list beside it.  Some of one tag is all
of it as long as one assignment is enough to have a tag.  Where every setter
is required, the lists that ask for all tags ask for more than the others do,
and a tag that is moved is asked for from every setter, or rejected from any.
So the normal form selects the items of the filter that pass this as well
(`selects_normalize_iff`), which are all of them if at most one setter is
required.

Main result: `query_normalize_lists`.
-/
import MediaSearch.Proofs.Tags.Query

namespace MediaSearch

open Sql

namespace TagFilter

/-! ### Clean filters -/

/-- Entries that are trimmed and not blank, each once. -/
structure CleanEntries (entries : List String) : Prop where
  nodup : entries.Nodup
  trimmed : ∀ s ∈ entries, Text.trim s = s ∧ s.isEmpty = false

/-- Tags that are in lower case as well. -/
structure CleanTags (tags : List String) : Prop extends CleanEntries tags where
  lower : ∀ tag ∈ tags, Text.lower tag = tag

/-- Whether all lists of a filter are clean. -/
structure Clean (f : TagFilter) : Prop where
  requireAll : CleanTags f.requireAll
  requireAny : CleanTags f.requireAny
  rejectAny : CleanTags f.rejectAny
  rejectAll : CleanTags f.rejectAll
  setters : CleanEntries f.setters
  namespaces : CleanEntries f.namespaces

instance (entries : List String) : Decidable (CleanEntries entries) :=
  decidable_of_iff (entries.Nodup ∧ ∀ s ∈ entries, Text.trim s = s ∧ s.isEmpty = false)
    ⟨fun c => ⟨c.1, c.2⟩, fun c => ⟨c.nodup, c.trimmed⟩⟩

instance (tags : List String) : Decidable (CleanTags tags) :=
  decidable_of_iff (CleanEntries tags ∧ ∀ tag ∈ tags, Text.lower tag = tag)
    ⟨fun c => ⟨c.1, c.2⟩, fun c => ⟨c.toCleanEntries, c.lower⟩⟩

instance (f : TagFilter) : Decidable f.Clean :=
  decidable_of_iff (CleanTags f.requireAll ∧ CleanTags f.requireAny ∧ CleanTags f.rejectAny
      ∧ CleanTags f.rejectAll ∧ CleanEntries f.setters ∧ CleanEntries f.namespaces)
    ⟨fun ⟨all, any, rejectAny, rejectAll, setters, namespaces⟩ =>
        ⟨all, any, rejectAny, rejectAll, setters, namespaces⟩,
      fun c => ⟨c.requireAll, c.requireAny, c.rejectAny, c.rejectAll, c.setters, c.namespaces⟩⟩

theorem eraseDups_of_nodup {xs : List String} (distinct : xs.Nodup) : xs.eraseDups = xs := by
  induction xs with
  | nil => rfl
  | cons x xs ih =>
    rw [List.nodup_cons] at distinct
    have others : xs.filter (fun y => !y == x) = xs := by
      rw [List.filter_eq_self]
      intro y present
      have other : y ≠ x := fun same => distinct.1 (same ▸ present)
      simpa using other
    rw [List.eraseDups_cons, others, ih distinct.2]

theorem cleanEntries_eq_self {entries : List String} (clean : CleanEntries entries) :
    cleanEntries entries = entries := by
  rw [cleanEntries, Text.nonBlank_eq_self clean.trimmed, eraseDups_of_nodup clean.nodup]

theorem cleanTags_eq_self {tags : List String} (clean : CleanTags tags) :
    cleanTags tags = tags := by
  have same : tags.map cleanTag = tags := by
    have each : ∀ tag ∈ tags, cleanTag tag = tag := by
      intro tag present
      rw [cleanTag, (clean.trimmed tag present).1, clean.lower tag present]
    rw [List.map_congr_left each]
    exact List.map_id' tags
  have kept : tags.filter (fun tag => !tag.isEmpty) = tags := by
    rw [List.filter_eq_self]
    intro tag present
    rw [(clean.trimmed tag present).2]
    rfl
  rw [cleanTags, same, kept, eraseDups_of_nodup clean.nodup]

variable {f : TagFilter} {least : Option Binary64} {lib : Library} {item : Int64}

/-- What is clean is tidy. -/
theorem Clean.tidy (clean : f.Clean) : f.Tidy where
  requireAll := clean.requireAll.nodup
  rejectAll := clean.rejectAll.nodup
  setters := clean.setters.nodup
  nonBlank_setters := Text.nonBlank_eq_self clean.setters.trimmed
  nonBlank_namespaces := Text.nonBlank_eq_self clean.namespaces.trimmed

/-- Normalizing a clean filter folds its lists and does nothing else. -/
theorem normalize_of_clean (clean : f.Clean) :
    f.normalize = { f with
      requireAll := (foldSingle f.requireAny f.requireAll).2
      requireAny := (foldSingle f.requireAny f.requireAll).1
      rejectAny := (foldSingle f.rejectAll f.rejectAny).2
      rejectAll := (foldSingle f.rejectAll f.rejectAny).1 } := by
  unfold normalize
  rw [cleanTags_eq_self clean.requireAll, cleanTags_eq_self clean.requireAny,
    cleanTags_eq_self clean.rejectAny, cleanTags_eq_self clean.rejectAll,
    cleanEntries_eq_self clean.setters, cleanEntries_eq_self clean.namespaces]

/-- A list of one tag is emptied into the other, longer lists stay. -/
theorem foldSingle_cases (single other : List String) :
    (∃ tag, single = [tag] ∧ (foldSingle single other).1 = []
        ∧ ∀ name, name ∈ (foldSingle single other).2 ↔ name ∈ other ∨ name = tag)
      ∨ ((∀ tag, single ≠ [tag]) ∧ foldSingle single other = (single, other)) := by
  -- only a list of one entry is moved
  match single with
  | [] => exact .inr ⟨nofun, rfl⟩
  | [tag] =>
    refine .inl ⟨tag, rfl, rfl, fun name => ?_⟩
    show name ∈ (if tag ∈ other then other else other ++ [tag]) ↔ _
    split
    case isTrue present =>
      refine ⟨.inl, ?_⟩
      rintro (before | rfl)
      · exact before
      · exact present
    case isFalse => rw [List.mem_append, List.mem_singleton]
  | first :: second :: rest => exact .inr ⟨nofun, rfl⟩

/-! ### What counts -/

section Scope

variable {g : TagFilter} (setters : g.setters = f.setters)
  (namespaces : g.namespaces = f.namespaces) (confidence : g.minConfidence = f.minConfidence)
include setters namespaces confidence

/-- Which assignments count does not depend on the lists of tags. -/
theorem counts_congr {given : Library.Assignment} {tag : Library.Tag} :
    g.Counts least lib given tag ↔ f.Counts least lib given tag := by
  have confident : g.Confident least given.confidence ↔ f.Confident least given.confidence := by
    rw [Confident, confidence]
    rfl
  constructor
  · intro counts
    exact ⟨setters ▸ counts.setter, namespaces ▸ counts.space, confident.mp counts.confidence⟩
  · intro counts
    exact ⟨setters ▸ counts.setter, namespaces ▸ counts.space, confident.mpr counts.confidence⟩

theorem has_congr {name : String} : g.Has least lib item name ↔ f.Has least lib item name := by
  unfold Has
  simp only [counts_congr setters namespaces confidence]

theorem hasFully_congr (every : g.everySetter = f.everySetter) {name : String} :
    g.HasFully least lib item name ↔ f.HasFully least lib item name := by
  unfold HasFully HasFrom
  simp only [counts_congr setters namespaces confidence,
    has_congr setters namespaces confidence, every, setters]

end Scope

/-- An assignment of the only setter that counts is one of every setter. -/
theorem hasFully_iff_has (few : f.everySetter = true → f.setters.length ≤ 1) {name : String} :
    f.HasFully least lib item name ↔ f.Has least lib item name := by
  refine ⟨HasFully.has, fun has => ?_⟩
  unfold HasFully
  split
  case isFalse => exact has
  case isTrue every =>
    intro setterName listed
    obtain ⟨given, assigned, tag, known, own, reference, named, counts⟩ := has
    obtain ⟨setter, there, asked, same⟩ := counts.setter every.2
    -- both are the first of a list of one
    have only : setter.name = setterName := by
      obtain ⟨first, rest, setters⟩ := List.exists_cons_of_ne_nil every.2
      have short := few every.1
      rw [setters, List.length_cons] at short
      obtain rfl : rest = [] := List.eq_nil_of_length_eq_zero (by omega)
      rw [setters, List.mem_singleton] at asked listed
      exact asked.trans listed.symm
    exact ⟨given, assigned, tag, known, setter, there, own, reference, named, same, only, counts⟩

/-! ### Folded lists -/

/-- What folding asks of an item in addition: the only tag of one list from
every setter, and the only tag of the other from none. -/
structure KeptByFolding (f : TagFilter) (least : Option Binary64) (lib : Library) (item : Int64) :
    Prop where
  requireAny : ∀ name, f.requireAny = [name] → f.HasFully least lib item name
  rejectAll : ∀ name, f.rejectAll = [name] → ¬f.Has least lib item name

/-- Folding asks of the only tag of one list what is asked of the tags of the
other, which is more. -/
theorem fold_iff {single other : List String} {P Q : String → Prop}
    (weaker : ∀ name, P name → Q name) :
    (∀ name ∈ (foldSingle single other).2, P name)
        ∧ ((foldSingle single other).1 ≠ [] → ∃ name ∈ (foldSingle single other).1, Q name)
      ↔ ((∀ name ∈ other, P name) ∧ (single ≠ [] → ∃ name ∈ single, Q name))
        ∧ ∀ name, single = [name] → P name := by
  rcases foldSingle_cases single other with ⟨tag, rfl, emptied, mem_other⟩ | ⟨longer, same⟩
  · rw [emptied]
    simp only [mem_other]
    -- the only tag is demanded by the list that it is moved to, which may ask for more
    constructor
    · rintro ⟨every, -⟩
      have moved := every tag (.inr rfl)
      refine ⟨⟨fun name before => every name (.inl before), fun _ =>
        ⟨tag, List.mem_cons_self, weaker tag moved⟩⟩, ?_⟩
      rintro name same
      exact List.singleton_injective same ▸ moved
    · rintro ⟨⟨every, -⟩, folded⟩
      refine ⟨?_, fun nonempty => absurd rfl nonempty⟩
      rintro name (before | rfl)
      · exact every name before
      · exact folded name rfl
  · rw [same]
    exact (and_iff_left fun name alone => absurd alone (longer name)).symm

/-- What is required and what is rejected, each asking something of all tags
of one list and of some tag of another. -/
theorem selects_iff :
    f.Selects least lib item
      ↔ ((∀ name ∈ f.requireAll, f.HasFully least lib item name)
          ∧ (f.requireAny ≠ [] → ∃ name ∈ f.requireAny, f.Has least lib item name))
        ∧ (∀ name ∈ f.rejectAny, ¬f.Has least lib item name)
          ∧ (f.rejectAll ≠ [] → ∃ name ∈ f.rejectAll, ¬f.HasFully least lib item name) := by
  have some : (∃ name ∈ f.rejectAll, ¬f.HasFully least lib item name)
      ↔ ¬∀ name ∈ f.rejectAll, f.HasFully least lib item name := by
    simp only [not_forall, exists_prop]
  rw [some]
  constructor
  · intro s
    exact ⟨⟨s.requireAll, s.requireAny⟩, s.rejectAny, s.rejectAll⟩
  · rintro ⟨⟨requireAll, requireAny⟩, rejectAny, rejectAll⟩
    exact ⟨requireAll, requireAny, rejectAny, rejectAll⟩

/-- **The normal form of a clean filter selects the items of the filter that
folding keeps.** -/
theorem selects_normalize_iff (clean : f.Clean) :
    f.normalize.Selects least lib item
      ↔ f.Selects least lib item ∧ f.KeptByFolding least lib item := by
  have weaker (name : String) (has : f.HasFully least lib item name) :
      f.Has least lib item name := has.has
  have stronger (name : String) (hasNot : ¬f.Has least lib item name) :
      ¬f.HasFully least lib item name := mt HasFully.has hasNot
  -- what an item has does not depend on the lists that are folded
  have form := normalize_of_clean clean
  have fully (name : String) :
      f.normalize.HasFully least lib item name ↔ f.HasFully least lib item name :=
    hasFully_congr (by rw [form]) (by rw [form]) (by rw [form]) (by rw [form])
  have has (name : String) :
      f.normalize.Has least lib item name ↔ f.Has least lib item name :=
    has_congr (by rw [form]) (by rw [form]) (by rw [form])
  rw [selects_iff, selects_iff]
  simp only [fully, has]
  rw [form]
  dsimp only
  rw [fold_iff weaker, fold_iff stronger]
  constructor
  · rintro ⟨⟨required, foldedAny⟩, rejected, foldedAll⟩
    exact ⟨⟨required, rejected⟩, foldedAny, foldedAll⟩
  · rintro ⟨⟨required, rejected⟩, kept⟩
    exact ⟨⟨required, kept.requireAny⟩, rejected, kept.rejectAll⟩

/-- Where at most one setter is required, folding keeps everything. -/
theorem Selects.keptByFolding (selects : f.Selects least lib item)
    (few : f.everySetter = true → f.setters.length ≤ 1) : f.KeptByFolding least lib item where
  requireAny := by
    intro name single
    obtain ⟨other, listed, has⟩ := selects.requireAny (by simp [single])
    rw [single, List.mem_singleton] at listed
    exact (hasFully_iff_has few).mpr (listed ▸ has)
  rejectAll := by
    intro name single has
    refine selects.rejectAll (by simp [single]) fun other listed => ?_
    rw [single, List.mem_singleton] at listed
    exact (hasFully_iff_has few).mpr (listed ▸ has)

theorem isEmpty_foldSingle (single other : List String) :
    ((foldSingle single other).2.isEmpty && (foldSingle single other).1.isEmpty)
      = (other.isEmpty && single.isEmpty) := by
  rcases foldSingle_cases single other with ⟨tag, rfl, emptied, mem_other⟩ | ⟨-, same⟩
  · have moved := (mem_other tag).mpr (.inr rfl)
    rw [emptied, List.isEmpty_eq_false_iff.mpr (List.ne_nil_of_mem moved)]
    simp
  · rw [same]

/-- Folding does not empty a filter. -/
theorem isEmpty_normalize (clean : f.Clean) : f.normalize.isEmpty = f.isEmpty := by
  have split (g : TagFilter) : g.isEmpty = ((g.requireAll.isEmpty && g.requireAny.isEmpty)
      && (g.rejectAny.isEmpty && g.rejectAll.isEmpty)) := by
    rw [isEmpty, Bool.and_assoc]
  rw [split, split, normalize_of_clean clean]
  exact congrArg₂ (· && ·) (isEmpty_foldSingle _ _) (isEmpty_foldSingle _ _)

/-! ### Main result -/

/-- **The query of the normal form lists the items of the query of a clean
filter that folding keeps**, and so the same items exactly when folding keeps
all of them, as when at most one setter is required.  There is a query for
one if there is for the other. -/
theorem query_normalize_lists (f : TagFilter) (clean : f.Clean) (least : Option Binary64)
    (lib : Library) (consistent : lib.Consistent) (engine : Engine) :
    (f.normalize.query? least = none ↔ f.query? least = none)
      ∧ ∀ q q', f.query? least = some q → f.normalize.query? least = some q' →
        q.fragment.Bindable → q'.fragment.Bindable →
        let rows := (q.relation engine lib.tables).rows
        let rows' := (q'.relation engine lib.tables).rows
        (∀ item, idRow item ∈ rows' ↔ idRow item ∈ rows ∧ f.KeptByFolding least lib item)
          ∧ (rows'.Perm rows ↔ ∀ item, idRow item ∈ rows → f.KeptByFolding least lib item)
          ∧ ((f.everySetter = true → f.setters.length ≤ 1) → rows'.Perm rows) := by
  constructor
  · rw [query?_eq_none_iff, query?_eq_none_iff, isEmpty_normalize clean]
  · intro q q' chosen chosen' bindable bindable' rows rows'
    obtain ⟨fitsAll, fitsReject⟩ := quotas_lt chosen bindable
    obtain ⟨fitsAll', fitsReject'⟩ := quotas_lt chosen' bindable'
    have lists : (q.relation engine lib.tables).Lists "item_id"
        fun id => (∃ item ∈ lib.items, item.id = id) ∧ f.Selects least lib id :=
      lists_of_query? lib.shows_tables clean.tidy consistent fitsAll fitsReject chosen
    have lists' : (q'.relation engine lib.tables).Lists "item_id"
        fun id => (∃ item ∈ lib.items, item.id = id) ∧ f.normalize.Selects least lib id :=
      lists_of_query? lib.shows_tables (tidy_normalize f) consistent fitsAll' fitsReject' chosen'
    have mem_rows (item : Int64) :
        idRow item ∈ rows' ↔ idRow item ∈ rows ∧ f.KeptByFolding least lib item := by
      rw [lists.mem_rows_iff, lists'.mem_rows_iff, selects_normalize_iff clean, and_assoc]
    -- nothing new is listed, so the rows are the same if nothing is lost
    have same : rows'.Perm rows
        ↔ ∀ item, idRow item ∈ rows → f.KeptByFolding least lib item := by
      rw [lists'.perm_iff lists]
      refine forall_congr' fun item => ?_
      rw [← lists.mem_rows_iff, ← lists'.mem_rows_iff]
      show (idRow item ∈ rows' ↔ idRow item ∈ rows) ↔ _
      rw [mem_rows item, and_iff_left_iff_imp]
    refine ⟨mem_rows, same, fun few => same.mpr fun item selected => ?_⟩
    exact (lists.mem_rows_iff.mp selected).2.keptByFolding few

/-- A filter for what bob calls a dog but not a cow. -/
def bobsDogs : TagFilter where
  requireAny := ["dog"]
  rejectAll := ["cow"]
  everySetter := true
  setters := ["bob"]

/-- With one setter both tags may be moved. -/
theorem query_normalize_lists_bobsDogs :
    bobsDogs.Clean ∧ Library.pets.Consistent ∧ (bobsDogs.setters.length ≤ 1)
      ∧ ∃ q q', bobsDogs.query? none = some q ∧ bobsDogs.normalize.query? none = some q'
        ∧ q.fragment.Bindable ∧ q'.fragment.Bindable
        ∧ (q'.relation .idle Library.pets.tables).rows.Perm
          (q.relation .idle Library.pets.tables).rows := by
  have clean : bobsDogs.Clean := by decide +kernel
  have consistent := Library.consistent_pets
  have few : bobsDogs.setters.length ≤ 1 := by decide
  have tags : bobsDogs.normalize
      = { bobsDogs with requireAll := ["dog"], requireAny := [], rejectAny := ["cow"]
                        rejectAll := [] } := by decide +kernel
  obtain ⟨q, chosen⟩ : ∃ q, bobsDogs.query? none = some q := ⟨_, rfl⟩
  obtain ⟨q', chosen'⟩ : ∃ q', bobsDogs.normalize.query? none = some q' := by
    rw [tags]
    exact ⟨_, rfl⟩
  have bindable : q.fragment.Bindable := by
    obtain rfl := Option.some.inj chosen
    decide
  have bindable' : q'.fragment.Bindable := by
    rw [tags] at chosen'
    obtain rfl := Option.some.inj chosen'
    decide
  exact ⟨clean, consistent, few, q, q', chosen, chosen', bindable, bindable',
    ((query_normalize_lists bobsDogs clean none .pets consistent .idle).2 q q' chosen chosen'
      bindable bindable').2.2 fun _ => few⟩

/-- One tag, some of which is asked for, where every setter is required. -/
def someDogs : TagFilter where
  requireAny := ["dog"]
  everySetter := true
  setters := ["ann", "bob"]

/-- One tag, all of which is rejected, where every setter is required. -/
def notAllDogs : TagFilter where
  rejectAll := ["dog"]
  everySetter := true
  setters := ["ann", "bob"]

/-- With two setters an item that one of them calls a dog is lost, whichever
list the tag is moved from. -/
theorem query_normalize_loses_dog :
    Library.pets.Consistent ∧ someDogs.Clean ∧ notAllDogs.Clean
      ∧ (∃ q q', someDogs.query? none = some q ∧ someDogs.normalize.query? none = some q'
        ∧ (q.relation .idle Library.pets.tables).rows = [idRow 2]
        ∧ (q'.relation .idle Library.pets.tables).rows = [])
      ∧ ∃ q q', notAllDogs.query? none = some q ∧ notAllDogs.normalize.query? none = some q'
        ∧ (q.relation .idle Library.pets.tables).rows = [idRow 1, idRow 2]
        ∧ (q'.relation .idle Library.pets.tables).rows = [idRow 1] := by
  have clean : someDogs.Clean ∧ notAllDogs.Clean := by decide +kernel
  have someTags : someDogs.normalize
      = { someDogs with requireAll := ["dog"], requireAny := [] } := by decide +kernel
  have notAllTags : notAllDogs.normalize
      = { notAllDogs with rejectAny := ["dog"], rejectAll := [] } := by decide +kernel
  rw [someTags, notAllTags]
  refine ⟨Library.consistent_pets, clean.1, clean.2, ⟨_, _, rfl, rfl, ?_, ?_⟩,
    ⟨_, _, rfl, rfl, ?_, ?_⟩⟩ <;> decide +kernel

end TagFilter

end MediaSearch
