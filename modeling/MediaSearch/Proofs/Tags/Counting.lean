/-
MediaSearch/Proofs/Tags/Counting.lean

Having every tag, decided by counting.

The hits of an item name tags that were asked for and, where the filter names
setters, setters that were asked for.  So there are at most as many different
tags among them as were asked for, and exactly as many if none is missing.
Where every setter is required, pairs of a setter and a tag are counted, each
pair written as one text that both can be read off (`pairText_inj`).
-/
import MediaSearch.Proofs.Number.Decimal
import MediaSearch.Proofs.Tags.Hits
import Mathlib.Data.List.ProdSigma

namespace MediaSearch

open Sql

/-! ### Counts as numbers of a store -/

theorem Int64_ofNat_inj {m n : Nat} (left : m < UInt64.size) (right : n < UInt64.size) :
    Int64.ofNat m = Int64.ofNat n ↔ m = n := by
  constructor
  · intro same
    have bits : m % UInt64.size = n % UInt64.size :=
      congrArg (fun k : Int64 => k.toBitVec.toNat) same
    rwa [Nat.mod_eq_of_lt left, Nat.mod_eq_of_lt right] at bits
  · rintro rfl
    rfl

/-- A group has as many different texts as it should. -/
theorem Sql.meetsHaving_countDistinct {α κ : Type} [DecidableEq κ] {engine : Engine}
    {scopeOf : α → Scope} {group : List α} {counted : Expr} {text : α → String}
    (texts : ∀ a, counted.value engine [scopeOf a] = .text (text a)) {mark : α → κ}
    (same : ∀ a ∈ group, ∀ b ∈ group, text a = text b ↔ mark a = mark b) (times : Nat) :
    meetsHaving engine (some (.aggregate .countDistinct counted, .integer (Int64.ofNat times)))
        (group.map scopeOf) = true
      ↔ Int64.ofNat (distinctBy mark group).length = Int64.ofNat times := by
  -- texts are not null, so all of them are counted
  have present : (group.map fun a => Value.text (text a)).filter (fun v => v.key ≠ .null)
      = group.map fun a => .text (text a) := by
    rw [List.filter_eq_self]
    rintro v found
    obtain ⟨a, -, rfl⟩ := List.mem_map.mp found
    simp
  have counts : distinctBy (Value.key ∘ fun a => .text (text a)) group = distinctBy mark group :=
    distinctBy_congr fun a left b right => by
      rw [← same a left b right, Function.comp_apply, Function.comp_apply, Value.key_text_inj]
  rw [meetsHaving, Option.all_some, decide_eq_true_eq, Expr.value, List.map_map]
  simp only [Function.comp_def, texts]
  rw [Engine.aggregate, present, distinctBy_map, List.length_map, counts,
    Comparison.truth_eq_integer]

/-! ### Pairs as texts -/

/-- A setter and a tag as one text. -/
def pairText (setterId : Int64) (name : String) : String :=
  toString setterId ++ "-" ++ name

/-- A setter and a tag can be told from the text they are counted by, since a
number ends before the dash. -/
theorem pairText_inj {m n : Int64} {s t : String} :
    pairText m s = pairText n t ↔ m = n ∧ s = t := by
  constructor
  · intro same
    have chars := congrArg String.toList same
    simp only [pairText, String.toList_append, List.append_assoc] at chars
    -- a number has no dash after its first character
    obtain ⟨number, rest⟩ := int_dash_append_inj (m := m.toInt) (n := n.toInt) chars
    exact ⟨Int64.toInt_inj.mp number, String.toList_inj.mp rest⟩
  · rintro ⟨rfl, rfl⟩
    rfl

/-- The name of the setter of a tag. -/
def Library.setterName (lib : Library) (tag : Library.Tag) : String :=
  ((lib.setters.find? (·.id = tag.setterId)).map (·.name)).getD ""

theorem Library.setterName_eq {lib : Library} {tag : Library.Tag} {setter : Library.Setter}
    (known : setter ∈ lib.setters) (same : setter.id = tag.setterId) :
    lib.setterName tag = setter.name := by
  have found : lib.setters.find? (·.id = tag.setterId) = some setter := by
    cases search : lib.setters.find? (·.id = tag.setterId) with
    | none => simpa [same] using List.find?_eq_none.mp search setter known
    | some other =>
      have id : other.id = tag.setterId := by simpa using List.find?_some search
      rw [List.inj_on_of_nodup_map lib.nodup_setters (List.mem_of_find?_eq_some search) known
        (id.trans same.symm)]
  rw [setterName, found]
  rfl

/-- Setters with different ids have different names. -/
theorem Library.setterName_inj {lib : Library} (consistent : lib.Consistent)
    {a b : Library.Tag} (left : a ∈ lib.tags) (right : b ∈ lib.tags) :
    lib.setterName a = lib.setterName b ↔ a.setterId = b.setterId := by
  obtain ⟨setter, known, same⟩ := consistent.tagSetter a left
  obtain ⟨other, otherKnown, otherSame⟩ := consistent.tagSetter b right
  rw [setterName_eq known same, setterName_eq otherKnown otherSame, ← same, ← otherSame]
  constructor
  · exact fun names => congrArg (·.id)
      (List.inj_on_of_nodup_map consistent.setterNames known otherKnown names)
  · exact fun ids => congrArg (·.name)
      (List.inj_on_of_nodup_map lib.nodup_setters known otherKnown ids)

/-! ### Quotas -/

namespace TagScope

variable {lib : Library} {engine : Engine} {f : TagFilter} {least : Option Binary64}
  {names : List String} {id : Int64} {own : List (Library.Assignment × Library.Tag)}

/-- Without a setter for each tag, the tags are counted. -/
theorem quota_single (single : ¬ (f.everySetter = true ∧ f.setters ≠ [])) (tidy : f.Tidy) :
    (TagScope.of f least).quota names
      = (.ref (.of "tags_setters" "name"), names.length) := by
  have plain : (TagScope.of f least).everySetter = false := by
    rw [TagScope.of, tidy.nonBlank_setters]
    simpa using single
  simp [quota, plain]

/-- Otherwise the pairs of a setter and a tag are counted. -/
theorem quota_every (every : f.everySetter = true ∧ f.setters ≠ []) (tidy : f.Tidy) :
    (TagScope.of f least).quota names
      = (.concat (.concat (.ref (.of "tags_setters" "setter_id")) .dash)
          (.ref (.of "tags_setters" "name")), names.length * f.setters.length) := by
  have paired : (TagScope.of f least).everySetter = true := by
    rw [TagScope.of, tidy.nonBlank_setters]
    simpa using every
  have setters : (TagScope.of f least).setters = f.setters := tidy.nonBlank_setters
  simp [quota, paired, setters]

/-- The condition on the groups of the items that have every tag. -/
def full (scope : TagScope) (names : List String) : Option (Expr × Value) :=
  some (.aggregate .countDistinct (scope.quota names).1,
    .integer (Int64.ofNat (scope.quota names).2))

variable (mem_own : ∀ p, p ∈ own ↔ p ∈ lib.tagged ∧ p.1.itemId = id ∧ p.2.name ∈ names
  ∧ f.Counts least lib p.1 p.2)
include mem_own

/-- An item has a tag if one of its assignments that count is of it. -/
theorem has_iff_mem {name : String} (asked : name ∈ names) :
    f.Has least lib id name ↔ ∃ p ∈ own, p.2.name = name := by
  constructor
  · rintro ⟨given, assigned, tag, known, item, reference, named, counts⟩
    exact ⟨(given, tag), (mem_own _).mpr ⟨Library.mem_tagged.mpr ⟨assigned, known, reference⟩,
      item, named ▸ asked, counts⟩, named⟩
  · rintro ⟨p, found, named⟩
    obtain ⟨joined, item, -, counts⟩ := (mem_own p).mp found
    obtain ⟨assigned, known, reference⟩ := Library.mem_tagged.mp joined
    exact ⟨p.1, assigned, p.2, known, item, reference, named, counts⟩

/-- An item has a tag from a setter if one of its assignments that count is of both. -/
theorem hasFrom_iff_mem (consistent : lib.Consistent) {name setterName : String}
    (asked : name ∈ names) :
    f.HasFrom least lib id name setterName
      ↔ ∃ p ∈ own, p.2.name = name ∧ lib.setterName p.2 = setterName := by
  constructor
  · rintro ⟨given, assigned, tag, known, setter, listed, item, reference, named, same, ownName,
      counts⟩
    exact ⟨(given, tag), (mem_own _).mpr ⟨Library.mem_tagged.mpr ⟨assigned, known, reference⟩,
      item, named ▸ asked, counts⟩, named, (Library.setterName_eq listed same).trans ownName⟩
  · rintro ⟨p, found, named, ownName⟩
    obtain ⟨joined, item, -, counts⟩ := (mem_own p).mp found
    obtain ⟨assigned, known, reference⟩ := Library.mem_tagged.mp joined
    obtain ⟨setter, listed, same⟩ := consistent.tagSetter p.2 known
    exact ⟨p.1, assigned, p.2, known, setter, listed, item, reference, named, same,
      (Library.setterName_eq listed same).symm.trans ownName, counts⟩

/-- The counted tags are as many as were asked for if none is missing. -/
theorem full_single_iff (single : ¬ (f.everySetter = true ∧ f.setters ≠ [])) (tidy : f.Tidy)
    (distinct : names.Nodup) (fits : names.length < UInt64.size) :
    meetsHaving engine (full (TagScope.of f least) names) (own.map Library.taggedScope) = true
      ↔ ∀ name ∈ names, f.Has least lib id name := by
  have inside : ∀ p ∈ own, p.2.name ∈ names := fun p found => ((mem_own p).mp found).2.2.1
  -- the names that are found are among those asked for: they are all if there are as many
  have few := length_distinctBy_le _ inside
  have texts (p : Library.Assignment × Library.Tag) :
      (Expr.ref (.of "tags_setters" "name")).value engine [Library.taggedScope p]
        = .text p.2.name := by
    simp [Expr.value, Library.taggedScope, Library.Tag.row]
  rw [full, quota_single single tidy, meetsHaving_countDistinct texts fun _ _ _ _ => Iff.rfl,
    Int64_ofNat_inj (Nat.lt_of_le_of_lt few fits) fits,
    length_distinctBy_eq_iff _ distinct inside]
  exact forall₂_congr fun name asked => (has_iff_mem mem_own asked).symm

/-- The counted pairs are as many as were asked for if none is missing. -/
theorem full_every_iff (every : f.everySetter = true ∧ f.setters ≠ []) (tidy : f.Tidy)
    (consistent : lib.Consistent) (distinct : names.Nodup)
    (fits : names.length * f.setters.length < UInt64.size) :
    meetsHaving engine (full (TagScope.of f least) names) (own.map Library.taggedScope) = true
      ↔ ∀ name ∈ names, ∀ setterName ∈ f.setters, f.HasFrom least lib id name setterName := by
  -- what is counted tells pairs of a tag and a setter's name apart
  let mark (p : Library.Assignment × Library.Tag) : String × String :=
    (p.2.name, lib.setterName p.2)
  have known : ∀ p ∈ own, p.2 ∈ lib.tags := fun p found =>
    (Library.mem_tagged.mp ((mem_own p).mp found).1).2.1
  have inside : ∀ p ∈ own, mark p ∈ names ×ˢ f.setters := by
    intro p found
    obtain ⟨joined, -, named, counts⟩ := (mem_own p).mp found
    obtain ⟨setter, listed, asked, same⟩ := counts.setter every.2
    rw [List.mem_product, Library.setterName_eq listed same]
    exact ⟨named, asked⟩
  -- there are no more pairs than tags times setters, so 64 bits hold the count
  have few := length_distinctBy_le mark inside
  have same : ∀ p ∈ own, ∀ q ∈ own,
      pairText p.2.setterId p.2.name = pairText q.2.setterId q.2.name ↔ mark p = mark q := by
    intro p left q right
    rw [pairText_inj, Prod.mk.injEq, and_comm,
      Library.setterName_inj consistent (known p left) (known q right)]
  have texts (p : Library.Assignment × Library.Tag) :
      (Expr.concat (.concat (.ref (.of "tags_setters" "setter_id")) .dash)
        (.ref (.of "tags_setters" "name"))).value engine [Library.taggedScope p]
        = .text (pairText p.2.setterId p.2.name) := by
    simp [Expr.value, Library.taggedScope, Library.Tag.row, Engine.concat, Engine.text?, pairText]
  rw [← List.length_product names f.setters] at fits
  -- as many pairs as there can be are all pairs
  rw [full, quota_every every tidy, meetsHaving_countDistinct texts same,
    ← List.length_product names f.setters, Int64_ofNat_inj (Nat.lt_of_le_of_lt few fits) fits,
    length_distinctBy_eq_iff _ (distinct.product tidy.setters) inside]
  constructor
  · intro all name asked setterName listed
    obtain ⟨p, found, pair⟩ := all (name, setterName) (List.mem_product.mpr ⟨asked, listed⟩)
    exact (hasFrom_iff_mem mem_own consistent asked).mpr ⟨p, found, Prod.mk.inj pair⟩
  · rintro all ⟨name, setterName⟩ wanted
    obtain ⟨asked, listed⟩ := List.mem_product.mp wanted
    obtain ⟨p, found, named, ownName⟩ :=
      (hasFrom_iff_mem mem_own consistent asked).mp (all name asked setterName listed)
    exact ⟨p, found, Prod.ext named ownName⟩

/-- **Counting decides whether an item has every tag.** -/
theorem full_iff (tidy : f.Tidy) (consistent : lib.Consistent) (distinct : names.Nodup)
    (fits : ((TagScope.of f least).quota names).2 < UInt64.size) :
    meetsHaving engine (full (TagScope.of f least) names) (own.map Library.taggedScope) = true
      ↔ ∀ name ∈ names, f.HasFully least lib id name := by
  unfold TagFilter.HasFully
  by_cases every : f.everySetter = true ∧ f.setters ≠ []
  · rw [quota_every every tidy] at fits
    simp only [if_pos every]
    exact full_every_iff mem_own every tidy consistent distinct fits
  · rw [quota_single every tidy] at fits
    simp only [if_neg every]
    exact full_single_iff mem_own every tidy distinct fits

end TagScope

end MediaSearch
