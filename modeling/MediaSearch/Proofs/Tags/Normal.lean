/-
MediaSearch/Proofs/Tags/Normal.lean

The normal form of tag filters.

A filter is normal if its lists are and none of the two lists that are folded
holds a single tag (`Normal`).  What makes a list normal is said of the
characters of its tags: no white space at the ends, no capital anywhere, no tag
twice (`NormalTags`).  Normalizing gives a normal filter (`normal_normalize`),
because a clean form is trimmed and in lower case for good, and folding empties
the list it takes a tag from and adds the tag only where it is new.  It leaves
normal filters alone (`normalize_of_normal`), so doing it twice is doing it
once.

What a tag becomes is said by the rules of trimming and lower-casing
(`CleanForm`), and what becomes of the lists by their order: a list of clean
tags holds the first occurrences of the tags that went into it
(`FirstOccurrences`), and a tag that is folded goes in last (`Gathers`).

Main result: `normalize_isNormalForm`.
-/
import MediaSearch.Compile
import MediaSearch.Proofs.Tags.Folding
import MediaSearch.Proofs.Text.Lowercase

namespace MediaSearch.TagFilter

/-! ### First occurrences -/

/-- Whether a list has the members of another one, each once, in the order in
which they first occur there. -/
structure FirstOccurrences (entries all : List String) : Prop where
  mem_iff : ∀ s, s ∈ entries ↔ s ∈ all
  ordered : entries.Pairwise fun s t => all.idxOf s < all.idxOf t

theorem eraseDups_append_singleton (all : List String) (s : String) :
    (all ++ [s]).eraseDups = if s ∈ all then all.eraseDups else all.eraseDups ++ [s] := by
  rw [List.eraseDups_append]
  split
  case isTrue present =>
    have nothing : [s].removeAll all = [] := by simp [List.removeAll, present]
    rw [nothing, List.eraseDups_nil, List.append_nil]
  case isFalse absent =>
    have itself : [s].removeAll all = [s] := by simp [List.removeAll, absent]
    rw [itself, eraseDups_of_nodup (List.nodup_singleton s)]

theorem firstOccurrences_eraseDups (all : List String) :
    FirstOccurrences all.eraseDups all where
  mem_iff _ := List.mem_eraseDups
  ordered := by
    -- a list that grows at its end keeps the order of what it has
    induction all using List.reverseRecOn with
    | nil => exact List.Pairwise.nil
    | append_singleton all s ih =>
      have before {t : String} (present : t ∈ all.eraseDups) :
          (all ++ [s]).idxOf t = all.idxOf t := by
        rw [List.idxOf_append, if_pos (List.mem_eraseDups.mp present)]
      have kept : all.eraseDups.Pairwise fun t u =>
          (all ++ [s]).idxOf t < (all ++ [s]).idxOf u := by
        refine ih.imp_of_mem fun first second order => ?_
        rwa [before first, before second]
      rw [eraseDups_append_singleton]
      split
      case isTrue => exact kept
      case isFalse absent =>
        refine List.pairwise_append.mpr ⟨kept, List.pairwise_singleton _ _, ?_⟩
        intro t present u last
        rw [List.mem_singleton.mp last, before present, List.idxOf_append, if_neg absent]
        exact Nat.lt_add_left _ (List.idxOf_lt_length_iff.mpr (List.mem_eraseDups.mp present))

/-! ### Clean forms -/

/-- Whether a text is what is left of another one without the white space at
its ends. -/
def TrimmedForm (raw entry : String) : Prop :=
  Text.Trims raw.toList entry.toList

/-- Whether a tag is a text as tags are compared: without the white space at
its ends, and with small letters for its capitals. -/
def CleanForm (raw tag : String) : Prop :=
  ∃ middle, Text.Trims raw.toList middle ∧ Text.LowersTo [] middle tag.toList

theorem trimmedForm_iff (raw entry : String) : TrimmedForm raw entry ↔ Text.trim raw = entry := by
  rw [TrimmedForm, Text.trims_iff, ← String.toList_inj, Text.trim, String.toList_ofList]

theorem cleanForm_iff (raw tag : String) : CleanForm raw tag ↔ cleanTag raw = tag := by
  simp only [CleanForm, Text.trims_iff, exists_eq_left', Text.lowersTo_iff]
  rw [← String.toList_inj, cleanTag, Text.lower, Text.trim, String.toList_ofList,
    String.toList_ofList]

/-- The forms of texts in their order, without those that are empty. -/
inductive FormsOf (form : String → String → Prop) : (texts forms : List String) → Prop
  | nil : FormsOf form [] []
  | blank {text : String} {texts forms : List String} (nothing : form text "")
      (others : FormsOf form texts forms) : FormsOf form (text :: texts) forms
  | visible {text entry : String} {texts forms : List String} (own : form text entry)
      (some : entry ≠ "") (others : FormsOf form texts forms) :
      FormsOf form (text :: texts) (entry :: forms)

section Forms

variable {form : String → String → Prop} {make : String → String}

/-- Where each text has one form, texts have the forms that are made of them. -/
theorem formsOf_map (decides : ∀ raw entry, form raw entry ↔ make raw = entry)
    (texts : List String) :
    FormsOf form texts ((texts.map make).filter fun entry => !entry.isEmpty) := by
  induction texts with
  | nil => exact .nil
  | cons text texts ih =>
    by_cases empty : make text = ""
    · rw [List.map_cons, List.filter_cons_of_neg (by simp [empty])]
      exact .blank ((decides text "").mpr empty) ih
    · rw [List.map_cons, List.filter_cons_of_pos (by simpa using empty)]
      exact .visible ((decides text _).mpr rfl) empty ih

theorem mem_forms_iff (decides : ∀ raw entry, form raw entry ↔ make raw = entry)
    {texts : List String} {entry : String} :
    entry ∈ (texts.map make).filter (fun entry => !entry.isEmpty)
      ↔ entry ≠ "" ∧ ∃ raw ∈ texts, form raw entry := by
  simp only [List.mem_filter, List.mem_map, decides, Bool.not_eq_true', String.isEmpty_eq_false_iff]
  exact and_comm

end Forms

/-- The clean forms of tags that are not blank, as often as they occur. -/
def cleanForms (tags : List String) : List String :=
  (tags.map cleanTag).filter fun tag => !tag.isEmpty

theorem mem_cleanTags {tags : List String} {tag : String} :
    tag ∈ cleanTags tags ↔ tag ∈ cleanForms tags := List.mem_eraseDups

/-! ### Clean lists -/

/-- Clean tags are trimmed and in lower case for good. -/
theorem cleanTags_clean (tags : List String) : CleanTags (cleanTags tags) where
  nodup := nodup_eraseDups _
  trimmed tag present := by
    obtain ⟨form, visible⟩ := List.mem_filter.mp (mem_cleanTags.mp present)
    obtain ⟨raw, -, rfl⟩ := List.mem_map.mp form
    exact ⟨Text.trim_lower (Text.trim_trim raw), by simpa using visible⟩
  lower tag present := by
    obtain ⟨raw, -, rfl⟩ := List.mem_map.mp (List.mem_filter.mp (mem_cleanTags.mp present)).1
    exact Text.lower_lower (Text.trim raw)

theorem cleanEntries_clean (entries : List String) : CleanEntries (cleanEntries entries) where
  nodup := nodup_eraseDups _
  trimmed _ present := Text.mem_nonBlank (List.mem_eraseDups.mp present)

/-- Folding moves clean tags and makes no new ones. -/
theorem CleanTags.foldSingle {single other : List String} (cleanSingle : CleanTags single)
    (cleanOther : CleanTags other) :
    CleanTags (foldSingle single other).1 ∧ CleanTags (foldSingle single other).2 := by
  have sources : (∀ tag ∈ (TagFilter.foldSingle single other).1, tag ∈ single)
      ∧ ∀ tag ∈ (TagFilter.foldSingle single other).2, tag ∈ other ∨ tag ∈ single := by
    rcases foldSingle_cases single other with ⟨tag, rfl, emptied, mem_other⟩ | ⟨-, same⟩
    · rw [emptied]
      refine ⟨List.forall_mem_nil _, fun t present => ?_⟩
      exact ((mem_other t).mp present).imp_right List.mem_singleton.mpr
    · rw [same]
      exact ⟨fun _ => id, fun _ => .inl⟩
  refine ⟨⟨⟨nodup_foldSingle_left cleanSingle.nodup, ?_⟩, ?_⟩,
    ⟨⟨nodup_foldSingle cleanOther.nodup, ?_⟩, ?_⟩⟩
  · intro tag present
    exact cleanSingle.trimmed tag (sources.1 tag present)
  · intro tag present
    exact cleanSingle.lower tag (sources.1 tag present)
  · intro tag present
    exact (sources.2 tag present).elim (cleanOther.trimmed tag) (cleanSingle.trimmed tag)
  · intro tag present
    exact (sources.2 tag present).elim (cleanOther.lower tag) (cleanSingle.lower tag)

/-! ### Folding -/

theorem foldSingle_of_length_ne {single other : List String} (several : single.length ≠ 1) :
    foldSingle single other = (single, other) := by
  rcases foldSingle_cases single other with ⟨tag, rfl, -⟩ | ⟨-, same⟩
  · exact absurd rfl several
  · exact same

/-- No list of one entry is left. -/
theorem length_foldSingle_ne (single other : List String) :
    (foldSingle single other).1.length ≠ 1 := by
  rcases foldSingle_cases single other with ⟨tag, rfl, emptied, -⟩ | ⟨longer, same⟩
  · rw [emptied]
    exact Nat.zero_ne_one
  · rw [same]
    intro one
    obtain ⟨tag, alone⟩ := List.length_eq_one_iff.mp one
    exact longer tag alone

/-- Where the tags of two lists beside each other go: a tag that is alone in
the first to the end of the second, where it is new or stays where it was;
the others each to its own list. -/
inductive Gathers (single other single' other' : List String) : Prop where
  | moved (tag : String) (alone : ∀ t, t ∈ single ↔ t = tag) (emptied : single' = [])
      (last : FirstOccurrences other' (other ++ [tag]))
  | kept (several : ∀ tag, ¬∀ t, t ∈ single ↔ t = tag) (own : FirstOccurrences single' single)
      (others : FirstOccurrences other' other)

theorem gathers_foldSingle (single other : List String) :
    Gathers single other (foldSingle single.eraseDups other.eraseDups).1
      (foldSingle single.eraseDups other.eraseDups).2 := by
  have distinct := nodup_eraseDups single
  by_cases one : ∃ tag, single.eraseDups = [tag]
  · obtain ⟨tag, alone⟩ := one
    refine .moved tag (fun t => ?_) (by rw [alone]; rfl) ?_
    · rw [← List.mem_eraseDups, alone, List.mem_singleton]
    · have form : (foldSingle single.eraseDups other.eraseDups).2 = (other ++ [tag]).eraseDups := by
        rw [alone, eraseDups_append_singleton]
        simp only [foldSingle, List.mem_eraseDups]
      exact form ▸ firstOccurrences_eraseDups _
  · have several : single.eraseDups.length ≠ 1 := fun length =>
      one (List.length_eq_one_iff.mp length)
    rw [foldSingle_of_length_ne several]
    refine .kept (fun tag alone => one ⟨tag, ?_⟩) (firstOccurrences_eraseDups single)
      (firstOccurrences_eraseDups other)
    -- without repetitions a list of one member has one entry
    apply List.perm_singleton.mp
    apply (List.perm_ext_iff_of_nodup distinct (List.nodup_singleton tag)).mpr
    intro t
    rw [List.mem_eraseDups, alone t, List.mem_singleton]

/-- No tag is lost and none is made up. -/
theorem Gathers.mem_iff {single other single' other' : List String}
    (gathers : Gathers single other single' other') (tag : String) :
    tag ∈ single' ∨ tag ∈ other' ↔ tag ∈ single ∨ tag ∈ other := by
  cases gathers with
  | moved only alone emptied last =>
    rw [emptied, last.mem_iff, List.mem_append, List.mem_singleton, alone]
    simp [or_comm]
  | kept several own others => rw [own.mem_iff, others.mem_iff]

/-! ### Normal filters -/

/-- Entries that neither begin nor end with white space and are not empty, each
once. -/
structure NormalEntries (entries : List String) : Prop where
  nodup : entries.Nodup
  visible : ∀ entry ∈ entries, entry ≠ "" ∧ Text.Bare entry.toList

/-- Tags that have no capital in them as well. -/
structure NormalTags (tags : List String) : Prop extends NormalEntries tags where
  lower : ∀ tag ∈ tags, ∀ c ∈ tag.toList, Text.IsLower c

/-- Whether a filter is in normal form: all of its lists are, and none of the
lists that are folded holds a single tag. -/
structure Normal (f : TagFilter) : Prop where
  requireAll : NormalTags f.requireAll
  requireAny : NormalTags f.requireAny
  rejectAny : NormalTags f.rejectAny
  rejectAll : NormalTags f.rejectAll
  setters : NormalEntries f.setters
  namespaces : NormalEntries f.namespaces
  severalRequired : f.requireAny.length ≠ 1
  severalRejected : f.rejectAll.length ≠ 1

/-- Entries are normal if trimming leaves them alone. -/
theorem normalEntries_iff {entries : List String} :
    NormalEntries entries ↔ CleanEntries entries := by
  have same (entry : String) : entry ≠ "" ∧ Text.Bare entry.toList
      ↔ Text.trim entry = entry ∧ entry.isEmpty = false := by
    rw [Text.trim_eq_self_iff, String.isEmpty_eq_false_iff, and_comm]
  exact ⟨fun normal => ⟨normal.nodup, fun s present => (same s).mp (normal.visible s present)⟩,
    fun clean => ⟨clean.nodup, fun s present => (same s).mpr (clean.trimmed s present)⟩⟩

/-- Tags are normal if lower-casing leaves them alone as well. -/
theorem normalTags_iff {tags : List String} : NormalTags tags ↔ CleanTags tags :=
  ⟨fun normal => ⟨normalEntries_iff.mp normal.toNormalEntries,
      fun tag present => Text.lower_eq_self_iff.mpr (normal.lower tag present)⟩,
    fun clean => ⟨normalEntries_iff.mpr clean.toCleanEntries,
      fun tag present => Text.lower_eq_self_iff.mp (clean.lower tag present)⟩⟩

/-- Normal filters are those that are clean and have nothing to fold. -/
theorem normal_iff {f : TagFilter} :
    f.Normal ↔ f.Clean ∧ f.requireAny.length ≠ 1 ∧ f.rejectAll.length ≠ 1 := by
  constructor
  · intro normal
    exact ⟨⟨normalTags_iff.mp normal.requireAll, normalTags_iff.mp normal.requireAny,
      normalTags_iff.mp normal.rejectAny, normalTags_iff.mp normal.rejectAll,
      normalEntries_iff.mp normal.setters, normalEntries_iff.mp normal.namespaces⟩,
      normal.severalRequired, normal.severalRejected⟩
  · rintro ⟨clean, required, rejected⟩
    exact ⟨normalTags_iff.mpr clean.requireAll, normalTags_iff.mpr clean.requireAny,
      normalTags_iff.mpr clean.rejectAny, normalTags_iff.mpr clean.rejectAll,
      normalEntries_iff.mpr clean.setters, normalEntries_iff.mpr clean.namespaces,
      required, rejected⟩

instance (f : TagFilter) : Decidable f.Normal :=
  decidable_of_iff _ normal_iff.symm

/-- What normalizing gives is clean. -/
theorem clean_normalize (f : TagFilter) : f.normalize.Clean := by
  obtain ⟨requireAny, requireAll⟩ :=
    (cleanTags_clean f.requireAny).foldSingle (cleanTags_clean f.requireAll)
  obtain ⟨rejectAll, rejectAny⟩ :=
    (cleanTags_clean f.rejectAll).foldSingle (cleanTags_clean f.rejectAny)
  exact
    { requireAll, requireAny, rejectAny, rejectAll
      setters := cleanEntries_clean f.setters
      namespaces := cleanEntries_clean f.namespaces }

/-- **Normalizing gives a normal filter.** -/
theorem normal_normalize (f : TagFilter) : f.normalize.Normal :=
  normal_iff.mpr ⟨f.clean_normalize, length_foldSingle_ne _ _, length_foldSingle_ne _ _⟩

/-- **Normalizing leaves normal filters alone.** -/
theorem normalize_of_normal {f : TagFilter} (normal : f.Normal) : f.normalize = f := by
  obtain ⟨clean, required, rejected⟩ := normal_iff.mp normal
  rw [normalize_of_clean clean, foldSingle_of_length_ne required,
    foldSingle_of_length_ne rejected]

theorem normalize_normalize (f : TagFilter) : f.normalize.normalize = f.normalize :=
  normalize_of_normal f.normal_normalize

/-- Where the clean forms of two lists beside each other go: the first is
folded into the second if it holds one tag only, and no tag is lost or made
up. -/
structure GathersForms (single other single' other' : List String) : Prop where
  gathers : ∃ forms others, FormsOf CleanForm single forms ∧ FormsOf CleanForm other others
    ∧ Gathers forms others single' other'
  mem_iff : ∀ tag, tag ∈ single' ∨ tag ∈ other'
    ↔ tag ≠ "" ∧ ∃ raw, (raw ∈ single ∨ raw ∈ other) ∧ CleanForm raw tag

/-- Whether entries are the trimmed forms of others, each where it occurs
first. -/
def GathersEntries (entries kept : List String) : Prop :=
  ∃ forms, FormsOf TrimmedForm entries forms ∧ FirstOccurrences kept forms

/-- Whether a filter is the normal form of another one: it is normal, by its
characters and by what trimming and lower-casing do to it, its lists have the
clean tags and entries of that one where they belong, and it restricts in the
same way which assignments count. -/
structure IsNormalForm (g f : TagFilter) : Prop where
  normal : g.Normal
  clean : g.Clean
  required : GathersForms f.requireAny f.requireAll g.requireAny g.requireAll
  rejected : GathersForms f.rejectAll f.rejectAny g.rejectAll g.rejectAny
  setters : GathersEntries f.setters g.setters
  namespaces : GathersEntries f.namespaces g.namespaces
  everySetter : g.everySetter = f.everySetter
  minConfidence : g.minConfidence = f.minConfidence

/-- Cleaning and folding two lists gathers their forms. -/
theorem gathersForms_foldSingle (single other : List String) :
    GathersForms single other (foldSingle (cleanTags single) (cleanTags other)).1
      (foldSingle (cleanTags single) (cleanTags other)).2 := by
  have gathers : Gathers (cleanForms single) (cleanForms other)
      (foldSingle (cleanTags single) (cleanTags other)).1
      (foldSingle (cleanTags single) (cleanTags other)).2 := gathers_foldSingle _ _
  refine ⟨⟨_, _, formsOf_map cleanForm_iff single, formsOf_map cleanForm_iff other, gathers⟩, ?_⟩
  intro tag
  rw [gathers.mem_iff, cleanForms, cleanForms, mem_forms_iff cleanForm_iff,
    mem_forms_iff cleanForm_iff, ← and_or_left]
  simp only [or_and_right, exists_or]

theorem gathersEntries_cleanEntries (entries : List String) :
    GathersEntries entries (cleanEntries entries) :=
  ⟨_, formsOf_map trimmedForm_iff entries, firstOccurrences_eraseDups _⟩

/-- **What normalizing gives is the normal form of a filter**, and the filter
itself exactly if this is normal.  So a filter may be normalized twice, and
the statements of a request stay the same if its tags are.  The rules by which
tags are lower-cased know the alphabets. -/
theorem normalize_isNormalForm (f : TagFilter) :
    f.normalize.IsNormalForm f
      ∧ (f.normalize = f ↔ f.Normal)
      ∧ f.normalize.normalize = f.normalize
      ∧ (∀ (settings : Settings) (request : Request),
        settings.compile request.normalize.normalize = settings.compile request.normalize)
      ∧ ∀ a ∈ Text.alphabets, ∀ c d, a.Pairs c d → Text.IsSmallFormOf d c := by
  refine ⟨?_, ⟨?_, normalize_of_normal⟩, f.normalize_normalize, ?_, ?_⟩
  · exact
      { normal := f.normal_normalize
        clean := f.clean_normalize
        required := gathersForms_foldSingle _ _
        rejected := gathersForms_foldSingle _ _
        setters := gathersEntries_cleanEntries _
        namespaces := gathersEntries_cleanEntries _
        everySetter := rfl
        minConfidence := rfl }
  · intro same
    exact same ▸ f.normal_normalize
  · intro settings request
    have tags := request.criteria.tags.normalize_normalize
    rw [Request.normalize, Request.normalize, tags]
  · exact fun a known c d => Text.isSmallFormOf_of_pairs known

/-- A tag in two spellings with a sigma at its end, and one that gets longer. -/
def spelledTwice : TagFilter where
  requireAny := ["\u3000ΌΔΟΣ", "όδος "]
  requireAll := ["\u0130", "\t"]
  setters := [" ann", "ann"]

theorem normalize_isNormalForm_spelledTwice :
    spelledTwice.normalize = { requireAll := ["i\u0307", "όδος"], setters := ["ann"] }
      ∧ IsNormalForm { requireAll := ["i\u0307", "όδος"], setters := ["ann"] } spelledTwice
      ∧ ¬spelledTwice.Normal
      ∧ ⟨'Α', 'Ρ', 'α'⟩ ∈ Text.alphabets ∧ Text.Alphabet.Pairs ⟨'Α', 'Ρ', 'α'⟩ 'Δ' 'δ'
      ∧ Text.IsSmallFormOf 'δ' 'Δ' := by
  have form : spelledTwice.normalize
      = { requireAll := ["i\u0307", "όδος"], setters := ["ann"] } := by decide +kernel
  have greek : ⟨'Α', 'Ρ', 'α'⟩ ∈ Text.alphabets := by simp [Text.alphabets]
  have pair : Text.Alphabet.Pairs ⟨'Α', 'Ρ', 'α'⟩ 'Δ' 'δ' := ⟨by decide, by decide, by decide⟩
  obtain ⟨isForm, same, -, -, letters⟩ := normalize_isNormalForm spelledTwice
  rw [form] at isForm same
  exact ⟨form, isForm, same.not.mp (by decide), greek, pair, letters _ greek _ _ pair⟩

end MediaSearch.TagFilter
