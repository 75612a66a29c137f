/-
MediaSearch/Proofs/Text/Lowercase.lean

Lower-casing by rules, and what it leaves alone.

What a character becomes between others is said by rules (`Lowers`): a capital
sigma by the place it has in its word, U+0130 by two characters, a capital of a
run by the character at its place among the images, and all others by
themselves (`IsLower`).  The table gives one answer for each character, since no
two runs meet (`caseRuns_apart`), so the rules say what lower-casing does
(`lowersTo_iff`).

What a character becomes consists of characters that stay as they are
(`Lowers.isLower`).  For the table this means that no image of a run belongs to
a run again.  Runs are evenly spaced, so it is enough to compare runs with each
other and not their characters: either the images lie beside the other run, or
they fall into the gaps of a run that takes every second character only
(`CaseRun.settles`).  Neither is an image a capital sigma, so no context
matters the second time; nor is one white space, so a text without white space
at its ends has none there afterwards.

Main results: `lowersTo_iff`, `lower_eq_self_iff`, `lower_lower`, `trim_lower`.
-/
import MediaSearch.Proofs.Text.Blank
import MediaSearch.Text.Lowercase
import Mathlib.Data.List.Pairwise

namespace MediaSearch.Text

/-! ### Runs of the table -/

namespace CaseRun

/-- Whether a code point is one of the capitals of a run. -/
def Holds (r : CaseRun) (c : Nat) : Prop :=
  r.first ≤ c ∧ c ≤ r.last ∧ (c - r.first) % r.stride = 0

instance (r : CaseRun) (c : Nat) : Decidable (r.Holds c) :=
  inferInstanceAs (Decidable (_ ∧ _))

/-- Whether no image of the run lies between two code points. -/
def avoids (r : CaseRun) (first last : Nat) : Bool :=
  (r.image + (r.last - r.first)).blt first || last.blt r.image

/-- Whether no image of the run belongs to another run: all lie beside it, or
they are spaced like it and fall into its gaps. -/
def settles (r other : CaseRun) : Bool :=
  r.avoids other.first other.last
    || other.stride == 2 && (r.stride == 2 || r.first == r.last)
      && (r.image + other.first) % 2 == 1

theorem lower?_eq_some_iff {r : CaseRun} {c image : Nat} :
    r.lower? c = some image ↔ r.Holds c ∧ image = r.image + (c - r.first) := by
  unfold lower? Holds
  split
  case isTrue inside => simp [inside, eq_comm]
  case isFalse outside => simp [outside]

theorem lower?_eq_none_iff {r : CaseRun} {c : Nat} : r.lower? c = none ↔ ¬r.Holds c :=
  ite_eq_right_iff.trans (by simp [Holds])

variable {r other : CaseRun} {c : Nat}

theorem lt_or_lt_of_avoids {first last : Nat} (apart : r.avoids first last = true)
    (holds : r.Holds c) :
    r.image + (c - r.first) < first ∨ last < r.image + (c - r.first) := by
  obtain ⟨-, before, -⟩ := holds
  rw [avoids, Bool.or_eq_true, Nat.blt_eq, Nat.blt_eq] at apart
  omega

/-- Images do not belong to a run that they settle beside or in the gaps of. -/
theorem not_holds_of_settles (settled : r.settles other = true) (holds : r.Holds c) :
    ¬other.Holds (r.image + (c - r.first)) := by
  rintro ⟨first, last, inStep⟩
  rw [settles, Bool.or_eq_true] at settled
  rcases settled with apart | spaced
  · have beside := lt_or_lt_of_avoids apart holds
    omega
  · simp only [Bool.and_eq_true, Bool.or_eq_true, beq_iff_eq] at spaced
    obtain ⟨⟨stride, alike⟩, odd⟩ := spaced
    obtain ⟨after, before, step⟩ := holds
    rw [stride] at inStep
    -- the images are as far from each other as the characters
    have even : (c - r.first) % 2 = 0 := by
      rcases alike with same | single
      · rwa [same] at step
      · omega
    omega

end CaseRun

/-- No image in the table belongs to a run of it. -/
theorem caseRuns_settled : ∀ r ∈ caseRuns, ∀ other ∈ caseRuns, r.settles other = true := by
  have all : (caseRuns.all fun r => caseRuns.all r.settles) = true := by decide +kernel
  intro r listed
  exact List.all_eq_true.mp (List.all_eq_true.mp all r listed)

/-- No image in the table is white space. -/
theorem caseRuns_visible :
    ∀ r ∈ caseRuns, ∀ range ∈ blankRanges, r.avoids range.1 range.2 = true := by
  decide +kernel

/-- All images in the table are characters, and none is one of the two that
have a rule of their own; U+0130 is in no run either. -/
theorem caseRuns_ordinary : ∀ r ∈ caseRuns, r.avoids 0xd800 0xdfff = true
    ∧ r.image + (r.last - r.first) < 0x110000
    ∧ r.avoids 0x130 0x130 = true ∧ r.avoids 0x3a3 0x3a3 = true ∧ ¬r.Holds 0x130 := by
  decide +kernel

/-- Runs stand in the order of their characters, so none is in two of them. -/
theorem caseRuns_apart {r other : CaseRun} (listed : r ∈ caseRuns) (also : other ∈ caseRuns)
    {c : Nat} (holds : r.Holds c) (too : other.Holds c) : r = other := by
  have ordered : caseRuns.Pairwise fun r s => r.last < s.first := by decide +kernel
  have apart : caseRuns.Pairwise fun r s => r.last < s.first ∨ s.last < r.first :=
    ordered.imp .inl
  have : Std.Symm fun r s : CaseRun => r.last < s.first ∨ s.last < r.first :=
    ⟨fun _ _ => Or.symm⟩
  by_contra different
  have beside := apart.forall listed also different
  obtain ⟨afterFirst, beforeLast, -⟩ := holds
  obtain ⟨afterFirst', beforeLast', -⟩ := too
  omega

/-! ### Characters by rules -/

/-- Whether a character stays as it is, in whatever context. -/
structure IsLower (c : Char) : Prop where
  notSigma : c ≠ 'Σ'
  notDotted : c ≠ '\u0130'
  outside : ∀ r ∈ caseRuns, ¬r.Holds c.toNat

instance (c : Char) : Decidable (IsLower c) :=
  decidable_of_iff (c ≠ 'Σ' ∧ c ≠ '\u0130' ∧ ∀ r ∈ caseRuns, ¬r.Holds c.toNat)
    ⟨fun ⟨sigma, dotted, outside⟩ => ⟨sigma, dotted, outside⟩,
      fun lower => ⟨lower.notSigma, lower.notDotted, lower.outside⟩⟩

/-- Whether the next of some characters is cased; those that are ignored do not
count. -/
def CasedNext (cs : List Char) : Prop :=
  ∃ ignored c rest, cs = ignored ++ c :: rest ∧ (∀ d ∈ ignored, Among caseIgnorableRanges d)
    ∧ ¬Among caseIgnorableRanges c ∧ Among casedRanges c

/-- Whether a word ends between characters: a cased one stands before that
place, nearest first, and none after it. -/
def EndsWord (before after : List Char) : Prop :=
  CasedNext before ∧ ¬CasedNext after

/-- What a character becomes between others. -/
inductive Lowers (before : List Char) (c : Char) (after : List Char) : List Char → Prop
  | finalSigma (sigma : c = 'Σ') (ends : EndsWord before after) : Lowers before c after ['ς']
  | innerSigma (sigma : c = 'Σ') (inside : ¬EndsWord before after) : Lowers before c after ['σ']
  | dotted (dotted : c = '\u0130') : Lowers before c after ['i', '\u0307']
  | capital {r : CaseRun} {d : Char} (notSigma : c ≠ 'Σ') (listed : r ∈ caseRuns)
      (holds : r.Holds c.toNat) (image : d.toNat = r.image + (c.toNat - r.first)) :
      Lowers before c after [d]
  | itself (lower : IsLower c) : Lowers before c after [c]

theorem inRanges_iff (ranges : List (Nat × Nat)) (c : Char) :
    inRanges ranges c.toNat = true ↔ Among ranges c := by
  simp [inRanges, Among]

theorem isCased_iff (c : Char) : isCased c = true ↔ Among casedRanges c :=
  inRanges_iff casedRanges c

theorem isCaseIgnorable_iff (c : Char) :
    isCaseIgnorable c = true ↔ Among caseIgnorableRanges c :=
  inRanges_iff caseIgnorableRanges c

/-- Looking for a cased character finds the next one that counts. -/
theorem meetsCased_iff (cs : List Char) : meetsCased cs = true ↔ CasedNext cs := by
  constructor
  · intro meets
    have split := List.takeWhile_append_dropWhile (p := isCaseIgnorable) (l := cs)
    have stops := List.head?_dropWhile_not isCaseIgnorable cs
    unfold meetsCased at meets
    cases found : cs.dropWhile isCaseIgnorable with
    | nil =>
      rw [found] at meets
      cases meets
    | cons c rest =>
      rw [found] at meets split stops
      -- what is passed over is as long as it can be
      refine ⟨cs.takeWhile isCaseIgnorable, c, rest, split.symm, ?_, ?_, ?_⟩
      · intro d ignored
        exact (isCaseIgnorable_iff d).mp (List.mem_takeWhile_imp ignored)
      · rw [← isCaseIgnorable_iff, Bool.not_eq_true]
        exact stops
      · exact (isCased_iff c).mp meets
  · rintro ⟨ignored, c, rest, rfl, skipped, counts, cased⟩
    simp only [← isCaseIgnorable_iff, ← isCased_iff] at skipped counts cased
    rw [meetsCased, List.dropWhile_append_of_pos skipped, List.dropWhile_cons_of_neg counts]
    exact cased

/-- The context of a sigma is looked at as the rules say. -/
theorem endsWord_iff (before after : List Char) :
    (meetsCased before && !meetsCased after) = true ↔ EndsWord before after := by
  rw [Bool.and_eq_true, Bool.not_eq_true', ← Bool.not_eq_true, meetsCased_iff, meetsCased_iff,
    EndsWord]

theorem toNat_eq_dotted_iff {c : Char} : c.toNat = 0x130 ↔ c = '\u0130' :=
  Char.toNat_inj (d := '\u0130')

/-- Lower-case characters have no other form. -/
theorem IsLower.lowerChar_eq {c : Char} (lower : IsLower c) : lowerChar c = [c] := by
  have none : caseRuns.findSome? (·.lower? c.toNat) = none := by
    rw [List.findSome?_eq_none_iff]
    intro r listed
    exact CaseRun.lower?_eq_none_iff.mpr (lower.outside r listed)
  rw [lowerChar, if_neg fun dotted => lower.notDotted (toNat_eq_dotted_iff.mp dotted), none]

/-- A capital of a run has the image at its place. -/
theorem lowerChar_of_holds {r : CaseRun} {c : Char} (listed : r ∈ caseRuns)
    (holds : r.Holds c.toNat) : lowerChar c = [Char.ofNat (r.image + (c.toNat - r.first))] := by
  have notDotted : c.toNat ≠ 0x130 := by
    intro dotted
    obtain ⟨-, -, -, -, outside⟩ := caseRuns_ordinary r listed
    exact outside (dotted ▸ holds)
  rw [lowerChar, if_neg notDotted]
  cases found : caseRuns.findSome? (·.lower? c.toNat) with
  | none =>
    have outside := List.findSome?_eq_none_iff.mp found r listed
    exact absurd holds (CaseRun.lower?_eq_none_iff.mp outside)
  | some image =>
    -- a character is in one run only, so any run that has it gives its form
    obtain ⟨other, also, given⟩ := List.exists_of_findSome?_eq_some found
    obtain ⟨too, rfl⟩ := CaseRun.lower?_eq_some_iff.mp given
    rw [caseRuns_apart listed also holds too]

/-- Images of the table are code points of characters. -/
theorem toNat_ofNat_image {r : CaseRun} {c : Nat} (listed : r ∈ caseRuns) (holds : r.Holds c) :
    (Char.ofNat (r.image + (c - r.first))).toNat = r.image + (c - r.first) := by
  obtain ⟨noSurrogate, bound, -⟩ := caseRuns_ordinary r listed
  have apart := CaseRun.lt_or_lt_of_avoids noSurrogate holds
  obtain ⟨-, before, -⟩ := holds
  have valid : (r.image + (c - r.first)).isValidChar := by
    unfold Nat.isValidChar
    omega
  rw [Char.ofNat, dif_pos valid]
  rfl

/-- What lower-casing makes of a character is what the rules say. -/
theorem lowers_lowerBetween (before : List Char) (c : Char) (after : List Char) :
    Lowers before c after (lowerBetween before c after) := by
  unfold lowerBetween
  -- the cases of the rule are those of the function, in its order
  by_cases sigma : c = 'Σ'
  · rw [if_pos sigma]
    split
    case isTrue ends => exact .finalSigma sigma ((endsWord_iff before after).mp ends)
    case isFalse inside => exact .innerSigma sigma ((endsWord_iff before after).not.mp inside)
  rw [if_neg sigma]
  by_cases dotted : c = '\u0130'
  · rw [lowerChar, if_pos (toNat_eq_dotted_iff.mpr dotted)]
    exact .dotted dotted
  by_cases capital : ∃ r ∈ caseRuns, r.Holds c.toNat
  · obtain ⟨r, listed, holds⟩ := capital
    rw [lowerChar_of_holds listed holds]
    exact .capital sigma listed holds (toNat_ofNat_image listed holds)
  · have lower : IsLower c := ⟨sigma, dotted, fun r listed holds => capital ⟨r, listed, holds⟩⟩
    rw [lower.lowerChar_eq]
    exact .itself lower

/-- **A character becomes what the rules say**, and nothing else. -/
theorem lowers_iff {before : List Char} {c : Char} {after form : List Char} :
    Lowers before c after form ↔ lowerBetween before c after = form := by
  refine ⟨?_, fun same => same ▸ lowers_lowerBetween before c after⟩
  intro lowers
  cases lowers with
  | finalSigma sigma ends =>
    rw [lowerBetween, if_pos sigma, if_pos ((endsWord_iff before after).mpr ends)]
  | innerSigma sigma inside =>
    rw [lowerBetween, if_pos sigma, if_neg ((endsWord_iff before after).not.mpr inside)]
  | dotted dotted =>
    subst dotted
    rfl
  | capital notSigma listed holds image =>
    rw [lowerBetween, if_neg notSigma, lowerChar_of_holds listed holds, ← image,
      Char.ofNat_toNat]
  | itself lower => rw [lowerBetween, if_neg lower.notSigma, lower.lowerChar_eq]

variable {before after : List Char} {c d : Char}

/-- An image in the table is lower case, and not white space. -/
theorem isLower_of_image {r : CaseRun} (listed : r ∈ caseRuns) (holds : r.Holds c.toNat)
    (image : d.toNat = r.image + (c.toNat - r.first)) : IsLower d ∧ ¬Among blankRanges d := by
  -- forms are told from capitals by where their runs are
  obtain ⟨-, -, notDotted, notSigma, -⟩ := caseRuns_ordinary r listed
  refine ⟨⟨?_, ?_, ?_⟩, ?_⟩
  · rintro rfl
    have apart := CaseRun.lt_or_lt_of_avoids notSigma holds
    rw [← image] at apart
    exact absurd apart (by decide)
  · rintro rfl
    have apart := CaseRun.lt_or_lt_of_avoids notDotted holds
    rw [← image] at apart
    exact absurd apart (by decide)
  · intro other also
    rw [image]
    exact CaseRun.not_holds_of_settles (caseRuns_settled r listed other also) holds
  · rintro ⟨range, among, inside⟩
    have apart := CaseRun.lt_or_lt_of_avoids (caseRuns_visible r listed range among) holds
    omega

/-- **What a character becomes is lower case**, and white space only if the
character is. -/
theorem Lowers.isLower {form : List Char} (lowers : Lowers before c after form)
    (member : d ∈ form) : IsLower d ∧ (Among blankRanges d → Among blankRanges c) := by
  have visible {e : Char} (lower : IsLower e) (noBlank : ¬Among blankRanges e) :
      IsLower e ∧ (Among blankRanges e → Among blankRanges c) :=
    ⟨lower, fun blank => absurd blank noBlank⟩
  -- whichever rule has given it, a form is small, and blank only if it is the character itself
  cases lowers with
  | finalSigma =>
    rw [List.mem_singleton.mp member]
    exact visible (by decide +kernel) (by decide)
  | innerSigma =>
    rw [List.mem_singleton.mp member]
    exact visible (by decide +kernel) (by decide)
  | dotted =>
    rcases List.mem_pair.mp member with rfl | rfl
    · exact visible (by decide +kernel) (by decide)
    · exact visible (by decide +kernel) (by decide)
  | capital _ listed holds image =>
    rw [List.mem_singleton.mp member]
    obtain ⟨lower, noBlank⟩ := isLower_of_image listed holds image
    exact visible lower noBlank
  | itself lower =>
    rw [List.mem_singleton.mp member]
    exact ⟨lower, id⟩

theorem lowerBetween_ne_nil (before : List Char) (c : Char) (after : List Char) :
    lowerBetween before c after ≠ [] := by
  have lowers := lowers_lowerBetween before c after
  intro nothing
  rw [nothing] at lowers
  cases lowers

/-! ### Letters that are known -/

/-- Capitals that follow one another, and the small letter of the first. -/
structure Alphabet where
  first : Char
  last : Char
  small : Char

/-- Whether characters stand in the same place among the capitals of an
alphabet and its small letters. -/
structure Alphabet.Pairs (a : Alphabet) (c d : Char) : Prop where
  notBefore : a.first.toNat ≤ c.toNat
  notAfter : c.toNat ≤ a.last.toNat
  place : d.toNat = a.small.toNat + (c.toNat - a.first.toNat)

/-- Some alphabets: Latin letters with and without accents, Greek, Cyrillic,
Armenian and Georgian ones, and those of full width.  Sigma is left out, since
its small form depends on its place. -/
def alphabets : List Alphabet :=
  [⟨'A', 'Z', 'a'⟩, ⟨'À', 'Ö', 'à'⟩, ⟨'Ø', 'Þ', 'ø'⟩, ⟨'Α', 'Ρ', 'α'⟩, ⟨'Τ', 'Ϋ', 'τ'⟩,
    ⟨'Ѐ', 'Џ', 'ѐ'⟩, ⟨'А', 'Я', 'а'⟩, ⟨'Ա', 'Ֆ', 'ա'⟩, ⟨'Ა', 'Ჺ', 'ა'⟩, ⟨'Ａ', 'Ｚ', 'ａ'⟩]

/-- Whether one character is the small form of another in all contexts and both
are letters, which decide whether a sigma beside them ends a word. -/
structure IsSmallFormOf (d c : Char) : Prop where
  lowers : ∀ before after, Lowers before c after [d]
  lower : IsLower d
  cased : Among casedRanges c ∧ Among casedRanges d
  counts : ¬Among caseIgnorableRanges c ∧ ¬Among caseIgnorableRanges d

/-- Each alphabet is part of a run of the table. -/
theorem alphabets_listed : ∀ a ∈ alphabets, ∃ r ∈ caseRuns, r.stride = 1
    ∧ r.first ≤ a.first.toNat ∧ a.last.toNat ≤ r.last
    ∧ a.small.toNat = r.image + (a.first.toNat - r.first) := by
  decide +kernel

/-- Both halves of an alphabet are cased, and neither is ignored. -/
theorem alphabets_cased : ∀ a ∈ alphabets,
    (∃ range ∈ casedRanges, range.1 ≤ a.first.toNat ∧ a.last.toNat ≤ range.2)
      ∧ (∃ range ∈ casedRanges, range.1 ≤ a.small.toNat
        ∧ a.small.toNat + (a.last.toNat - a.first.toNat) ≤ range.2)
      ∧ ∀ range ∈ caseIgnorableRanges, (range.2 < a.first.toNat ∨ a.last.toNat < range.1)
        ∧ (range.2 < a.small.toNat
          ∨ a.small.toNat + (a.last.toNat - a.first.toNat) < range.1) := by
  decide +kernel

theorem alphabets_noSigma :
    ∀ a ∈ alphabets, a.last.toNat < 'Σ'.toNat ∨ 'Σ'.toNat < a.first.toNat := by
  decide

/-- **The rules know the alphabets.** -/
theorem isSmallFormOf_of_pairs {a : Alphabet} (known : a ∈ alphabets) (pair : a.Pairs c d) :
    IsSmallFormOf d c := by
  obtain ⟨notBefore, notAfter, place⟩ := pair
  -- an alphabet is a run without gaps
  obtain ⟨r, listed, stride, start, stop, image⟩ := alphabets_listed a known
  have holds : r.Holds c.toNat := ⟨by omega, by omega, by rw [stride]; exact Nat.mod_one _⟩
  have form : d.toNat = r.image + (c.toNat - r.first) := by omega
  have notSigma : c ≠ 'Σ' := by
    rintro rfl
    have beside := alphabets_noSigma a known
    omega
  obtain ⟨⟨capitals, casedCapitals, first, last⟩, ⟨smalls, casedSmalls, first', last'⟩, counted⟩ :=
    alphabets_cased a known
  refine ⟨fun _ _ => .capital notSigma listed holds form, (isLower_of_image listed holds form).1,
    ⟨⟨capitals, casedCapitals, ?_⟩, ⟨smalls, casedSmalls, ?_⟩⟩, ?_, ?_⟩
  · omega
  · omega
  · rintro ⟨range, ignored, inside⟩
    have beside := counted range ignored
    omega
  · rintro ⟨range, ignored, inside⟩
    have beside := counted range ignored
    omega

/-! ### Texts -/

/-- What characters become that stand after others, nearest first. -/
inductive LowersTo : (before text form : List Char) → Prop
  | nil {before : List Char} : LowersTo before [] []
  | cons {before after form rest : List Char} {c : Char} (first : Lowers before c after form)
      (others : LowersTo (c :: before) after rest) : LowersTo before (c :: after) (form ++ rest)

/-- **Lower-casing a text is what the rules say for each of its characters.** -/
theorem lowersTo_iff {cs form : List Char} :
    LowersTo before cs form ↔ lowerAfter before cs = form := by
  constructor
  · intro lowers
    induction lowers with
    | nil => rfl
    | cons first _ ih => rw [lowerAfter, lowers_iff.mp first, ih]
  · rintro rfl
    induction cs generalizing before with
    | nil => exact .nil
    | cons c cs ih => exact .cons (lowers_lowerBetween before c cs) ih

-- a sigma at the end of a word, others inside and in front, and a letter that becomes two
example : lower "ΌΔΟΣ ΣΟΦΊΑΣ, İSTANBUL" = "όδος σοφίας, i̇stanbul" := by decide +kernel

theorem isLower_of_mem_lowerAfter {cs : List Char} (member : d ∈ lowerAfter before cs) :
    IsLower d := by
  induction cs generalizing before with
  | nil => cases member
  | cons c cs ih =>
    rw [lowerAfter, List.mem_append] at member
    rcases member with own | later
    · exact ((lowers_lowerBetween before c cs).isLower own).1
    · exact ih later

theorem lowerAfter_eq_self {cs : List Char} (lower : ∀ c ∈ cs, IsLower c) :
    lowerAfter before cs = cs := by
  induction cs generalizing before with
  | nil => rfl
  | cons c cs ih =>
    obtain ⟨own, rest⟩ := List.forall_mem_cons.mp lower
    rw [lowerAfter, lowers_iff.mp (.itself own), ih rest]
    rfl

/-- **The texts that lower-casing leaves alone** are those of lower-case
characters. -/
theorem lower_eq_self_iff {s : String} : lower s = s ↔ ∀ c ∈ s.toList, IsLower c := by
  constructor
  · intro same c member
    rw [← same, lower, String.toList_ofList] at member
    exact isLower_of_mem_lowerAfter member
  · intro lower
    rw [Text.lower, lowerAfter_eq_self lower, String.ofList_toList]

/-- **Lower-casing a lower-case text changes nothing.** -/
theorem lower_lower (s : String) : lower (lower s) = lower s := by
  rw [lower_eq_self_iff, lower, String.toList_ofList]
  exact fun _ => isLower_of_mem_lowerAfter

/-- The lower-case form starts with that of the first character. -/
theorem head?_lowerAfter (member : d ∈ (lowerAfter before (c :: after)).head?) :
    d ∈ lowerBetween before c after := by
  obtain ⟨e, rest, form⟩ := List.exists_cons_of_ne_nil (lowerBetween_ne_nil before c after)
  rw [lowerAfter, form, List.cons_append, List.head?_cons, Option.mem_some] at member
  rw [form, member]
  exact List.mem_cons_self

theorem lowerAfter_ne_nil {cs : List Char} (nonempty : cs ≠ []) : lowerAfter before cs ≠ [] := by
  obtain ⟨c, rest, rfl⟩ := List.exists_cons_of_ne_nil nonempty
  exact List.append_ne_nil_of_left_ne_nil (lowerBetween_ne_nil before c rest) _

/-- It ends with that of the last, wherever this stands. -/
theorem getLast?_lowerAfter {cs : List Char} (member : d ∈ (lowerAfter before cs).getLast?) :
    ∃ c ∈ cs.getLast?, ∃ before, d ∈ lowerBetween before c [] := by
  induction cs generalizing before with
  | nil => cases member
  | cons c cs ih =>
    -- no character vanishes, so the last form belongs to the last character
    by_cases last : cs = []
    · subst last
      rw [lowerAfter, lowerAfter, List.append_nil] at member
      exact ⟨c, rfl, before, List.mem_of_getLast? member⟩
    · have later : lowerAfter (c :: before) cs ≠ [] := lowerAfter_ne_nil last
      rw [lowerAfter, List.getLast?_append_of_ne_nil _ later] at member
      obtain ⟨e, ends, inside⟩ := ih member
      rw [List.getLast?_cons_of_ne_nil last]
      exact ⟨e, ends, inside⟩

/-- **Characters without white space at their ends have none there when they
are lower-cased.** -/
theorem Bare.lowerAfter {cs : List Char} (bare : Bare cs) : Bare (lowerAfter before cs) where
  head d member blank := by
    cases cs with
    | nil => cases member
    | cons c rest =>
      have source := (lowers_lowerBetween before c rest).isLower (head?_lowerAfter member)
      exact bare.head c rfl (source.2 blank)
  last d member blank := by
    obtain ⟨c, ends, before, own⟩ := getLast?_lowerAfter member
    have source := (lowers_lowerBetween before c []).isLower own
    exact bare.last c ends (source.2 blank)

/-- **Lower-casing a trimmed text leaves it trimmed.** -/
theorem trim_lower {s : String} (trimmed : trim s = s) : trim (lower s) = lower s := by
  have bare := trim_eq_self_iff.mp trimmed
  rw [trim_eq_self_iff, lower, String.toList_ofList]
  exact bare.lowerAfter

end MediaSearch.Text
