/-
MediaSearch/Proofs/Text/Blank.lean

What trimming leaves of a text.

White space is said by ranges of code points (`blankRanges`).  Trimming takes
some of it off each end, and what is left neither begins nor ends with any
(`Trims`); there is one text of which this is true (`trims_iff`).  What is left
of a text after its start is trimmed starts with no white space, and trimming
the end takes nothing from the start; so neither end has anything to trim the
second time.

Main results: `trims_iff`, `trim_trim`.
-/
import MediaSearch.Text.Blank
import Mathlib.Data.List.DropRight

namespace MediaSearch.Text

/-! ### White space -/

/-- Whether a character lies in one of some ranges of code points. -/
def Among (ranges : List (Nat × Nat)) (c : Char) : Prop :=
  ∃ range ∈ ranges, range.1 ≤ c.toNat ∧ c.toNat ≤ range.2

instance (ranges : List (Nat × Nat)) (c : Char) : Decidable (Among ranges c) :=
  inferInstanceAs (Decidable (∃ range ∈ ranges, range.1 ≤ c.toNat ∧ c.toNat ≤ range.2))

/-- White space as ranges of code points. -/
def blankRanges : List (Nat × Nat) :=
  [(9, 13), (0x20, 0x20), (0x85, 0x85), (0xa0, 0xa0), (0x1680, 0x1680), (0x2000, 0x200a),
    (0x2028, 0x2029), (0x202f, 0x202f), (0x205f, 0x205f), (0x3000, 0x3000)]

theorem isBlank_iff (c : Char) : isBlank c = true ↔ Among blankRanges c := by
  simp [isBlank, Among, blankRanges]
  omega

theorem isBlank_eq_false_iff (c : Char) : isBlank c = false ↔ ¬Among blankRanges c := by
  rw [← isBlank_iff, Bool.not_eq_true]

/-! ### Trimming -/

theorem trimEnd_eq_rdropWhile (cs : List Char) : trimEnd cs = cs.rdropWhile isBlank := rfl

theorem trimChars_trimChars (cs : List Char) : trimChars (trimChars cs) = trimChars cs := by
  rw [trimChars, trimChars, trimEnd_eq_rdropWhile, trimEnd_eq_rdropWhile]
  have start : (cs.dropWhile isBlank).rdropWhile isBlank
      = ((cs.dropWhile isBlank).rdropWhile isBlank).dropWhile isBlank := by
    symm
    rw [List.dropWhile_eq_self_iff]
    intro nonempty
    -- the first character is that of the text whose start was trimmed
    have before : (cs.dropWhile isBlank).rdropWhile isBlank <+: cs.dropWhile isBlank :=
        List.rdropWhile_prefix _ _
    rw [before.getElem nonempty]
    exact List.dropWhile_get_zero_not _ _ _
  rw [← start, List.rdropWhile_idempotent]

/-- Whether characters neither begin nor end with white space. -/
structure Bare (cs : List Char) : Prop where
  head : ∀ c ∈ cs.head?, ¬Among blankRanges c
  last : ∀ c ∈ cs.getLast?, ¬Among blankRanges c

/-- Nothing is trimmed off characters that neither begin nor end with white
space, and off those only. -/
theorem trimChars_eq_self_iff {cs : List Char} : trimChars cs = cs ↔ Bare cs := by
  have start : cs.dropWhile isBlank = cs ↔ ∀ c ∈ cs.head?, ¬Among blankRanges c := by
    simp only [← isBlank_eq_false_iff]
    cases cs with
    | nil => simp
    | cons c cs => simp [List.dropWhile_eq_self_iff]
  have stop : trimEnd cs = cs ↔ ∀ c ∈ cs.getLast?, ¬Among blankRanges c := by
    simp only [← isBlank_eq_false_iff]
    rw [trimEnd_eq_rdropWhile, List.rdropWhile_eq_self_iff]
    cases cs with
    | nil => simp
    | cons c cs => simp [List.getLast?_eq_getLast_of_ne_nil]
  constructor
  · intro trimmed
    -- what is dropped first is not put back
    have whole : cs.dropWhile isBlank = cs := by
      apply (List.dropWhile_suffix _).eq_of_length_le
      calc
        cs.length = (trimChars cs).length := by rw [trimmed]
        _ ≤ (cs.dropWhile isBlank).length := (List.rdropWhile_prefix _ _).length_le
    rw [trimChars, whole] at trimmed
    exact ⟨start.mp whole, stop.mp trimmed⟩
  · intro bare
    rw [trimChars, start.mpr bare.head, stop.mpr bare.last]

/-- Whether characters are what is left of others without the white space at
both ends. -/
structure Trims (cs kept : List Char) : Prop where
  ends : ∃ front back, cs = front ++ kept ++ back
    ∧ (∀ c ∈ front, Among blankRanges c) ∧ ∀ c ∈ back, Among blankRanges c
  bare : Bare kept

/-- White space at the end is trimmed, whatever stands before it. -/
theorem trimEnd_append {back : List Char} (blank : ∀ c ∈ back, isBlank c = true)
    (cs : List Char) : trimEnd (cs ++ back) = trimEnd cs := by
  have reversed : ∀ c ∈ back.reverse, isBlank c = true := by simpa using blank
  rw [trimEnd, List.reverse_append, List.dropWhile_append_of_pos reversed, trimEnd]

/-- **What trimming leaves is all but the white space at both ends.** -/
theorem trims_iff {cs kept : List Char} : Trims cs kept ↔ trimChars cs = kept := by
  constructor
  · rintro ⟨⟨front, back, rfl, blankFront, blankBack⟩, bare⟩
    simp only [← isBlank_iff] at blankFront blankBack
    have trimmed := trimChars_eq_self_iff.mpr bare
    rw [List.append_assoc, trimChars, List.dropWhile_append_of_pos blankFront]
    cases kept with
    | nil =>
      -- with nothing to keep, the white space of both ends is dropped at the start
      rw [List.nil_append, List.dropWhile_eq_nil_iff.mpr blankBack]
      rfl
    | cons c rest =>
      have visible : ¬isBlank c = true := by
        rw [isBlank_iff]
        exact bare.head c rfl
      rw [trimChars, List.dropWhile_cons_of_neg visible] at trimmed
      rw [List.cons_append, List.dropWhile_cons_of_neg visible, ← List.cons_append,
        trimEnd_append blankBack, trimmed]
  · rintro rfl
    refine ⟨⟨cs.takeWhile isBlank, (cs.dropWhile isBlank).rtakeWhile isBlank, ?_, ?_, ?_⟩,
      trimChars_eq_self_iff.mp (trimChars_trimChars cs)⟩
    · rw [trimChars, trimEnd_eq_rdropWhile, List.append_assoc, List.rdropWhile_append_rtakeWhile,
        List.takeWhile_append_dropWhile]
    · intro c dropped
      exact (isBlank_iff c).mp (List.mem_takeWhile_imp dropped)
    · intro c dropped
      exact (isBlank_iff c).mp (List.mem_rtakeWhile_imp dropped)

/-- The texts that trimming leaves alone. -/
theorem trim_eq_self_iff {s : String} : trim s = s ↔ Bare s.toList := by
  rw [← trimChars_eq_self_iff, ← String.toList_inj, trim, String.toList_ofList]

example : trim "\u3000 a b\t\u00a0" = "a b" := by decide +kernel

theorem trim_trim (s : String) : trim (trim s) = trim s := by
  rw [trim, trim, String.toList_ofList, trimChars_trimChars]

theorem mem_nonBlank {entries : List String} {s : String} (kept : s ∈ nonBlank entries) :
    trim s = s ∧ s.isEmpty = false := by
  rw [nonBlank, List.mem_filter, List.mem_map] at kept
  obtain ⟨⟨entry, -, rfl⟩, notEmpty⟩ := kept
  exact ⟨trim_trim entry, by simpa using notEmpty⟩

theorem nonBlank_eq_self {entries : List String}
    (clean : ∀ s ∈ entries, trim s = s ∧ s.isEmpty = false) : nonBlank entries = entries := by
  have trimmed : entries.map trim = entries := by
    rw [List.map_congr_left fun s present => (clean s present).1]
    exact List.map_id' entries
  rw [nonBlank, trimmed, List.filter_eq_self]
  intro s present
  rw [(clean s present).2]
  rfl

@[simp] theorem nonBlank_nonBlank (entries : List String) :
    nonBlank (nonBlank entries) = nonBlank entries :=
  nonBlank_eq_self fun _ kept => mem_nonBlank kept

end MediaSearch.Text
