/-
MediaSearch/Proofs/Sql/Grouping.lean

Lists without repetitions and lists cut into groups, up to a key.

`distinctBy key` keeps the first of all elements with the same key, and
`groupBy key` collects, for each key that occurs, all elements that have it.
Neither depends on more than the keys: which keys there are
(`mem_map_distinctBy`), and what belongs to each of them
(`groupBy_eq_map_keys`).

Main result: if a list of blocks has one key for each block, grouping the
elements gives back the blocks that are not empty (`groupBy_perm_blocks`).
-/
import Mathlib.Data.List.Perm.Basic
import Mathlib.Data.List.Perm.Lattice
import Mathlib.Data.List.Nodup
import Mathlib.Data.List.Perm.Subperm

namespace MediaSearch

variable {α β κ : Type} [DecidableEq κ] (key : α → κ)

/-- The first of all elements with the same key, for each key. -/
def distinctBy : List α → List α
  | [] => []
  | a :: as => a :: (distinctBy as).filter fun b => key b ≠ key a

/-- For each key that occurs, all elements with that key. -/
def groupBy (as : List α) : List (List α) :=
  (distinctBy key as).map fun a => as.filter fun b => key b = key a

/-! ### Elements of different keys -/

/-- Of equal elements one is left, and no order is changed. -/
theorem distinctBy_sublist (as : List α) : (distinctBy key as).Sublist as := by
  induction as with
  | nil => exact List.Sublist.refl _
  | cons a as ih => exact (List.filter_sublist.trans ih).cons_cons a

/-- What is left is different by its keys. -/
theorem nodup_map_distinctBy (as : List α) : ((distinctBy key as).map key).Nodup := by
  induction as with
  | nil => exact List.nodup_nil
  | cons a as ih =>
    rw [distinctBy, List.map_cons, List.nodup_cons]
    constructor
    · rw [List.mem_map]
      rintro ⟨b, kept, same⟩
      simp [same] at kept
    · exact ih.sublist (List.filter_sublist.map key)

/-- No key is lost. -/
theorem mem_map_distinctBy {as : List α} {k : κ} :
    k ∈ (distinctBy key as).map key ↔ k ∈ as.map key := by
  induction as with
  | nil => rfl
  | cons a as ih =>
    simp only [List.mem_map] at ih
    simp only [distinctBy, List.map_cons, List.mem_cons, List.mem_map, List.mem_filter,
      decide_eq_true_eq]
    constructor
    · rintro (same | ⟨b, ⟨kept, -⟩, same⟩)
      · exact .inl same
      · exact .inr (ih.mp ⟨b, kept, same⟩)
    · rintro (same | found)
      · exact .inl same
      · obtain ⟨b, kept, same⟩ := ih.mpr found
        -- what has the key of the first element is dropped, but the first one stands for it
        by_cases first : key b = key a
        · exact .inl (same.symm.trans first)
        · exact .inr ⟨b, ⟨kept, first⟩, same⟩

/-- A list with different keys is not changed. -/
theorem distinctBy_of_nodup {as : List α} (different : (as.map key).Nodup) :
    distinctBy key as = as := by
  induction as with
  | nil => rfl
  | cons a as ih =>
    rw [List.map_cons, List.nodup_cons] at different
    rw [distinctBy, ih different.2, List.filter_eq_self.mpr]
    intro b present
    rw [decide_eq_true_eq]
    exact fun same => different.1 (same ▸ List.mem_map_of_mem present)

/-- Where elements with the same key are the same, nothing is lost. -/
theorem mem_distinctBy {as : List α} {a : α}
    (faithful : ∀ b ∈ as, key b = key a → b = a) : a ∈ distinctBy key as ↔ a ∈ as := by
  constructor
  · exact fun kept => (distinctBy_sublist key as).mem kept
  · intro present
    have found := (mem_map_distinctBy key).mpr (List.mem_map_of_mem present)
    obtain ⟨b, kept, same⟩ := List.mem_map.mp found
    exact faithful b ((distinctBy_sublist key as).mem kept) same ▸ kept

/-- Keys that tell the same elements apart keep the same ones. -/
theorem distinctBy_congr {μ : Type} [DecidableEq μ] {key : α → κ} {mark : α → μ} {as : List α}
    (same : ∀ a ∈ as, ∀ b ∈ as, key a = key b ↔ mark a = mark b) :
    distinctBy key as = distinctBy mark as := by
  induction as with
  | nil => rfl
  | cons a as ih =>
    have rest := ih fun a left b right =>
      same a (List.mem_cons_of_mem _ left) b (List.mem_cons_of_mem _ right)
    rw [distinctBy, distinctBy, rest]
    congr 1
    refine List.filter_congr fun b kept => ?_
    have present := List.mem_cons_of_mem a ((distinctBy_sublist mark as).mem kept)
    rw [decide_eq_decide, ne_eq, ne_eq, same b present a List.mem_cons_self]

theorem subperm_map_distinctBy {as : List α} {targets : List κ}
    (inside : ∀ a ∈ as, key a ∈ targets) : ((distinctBy key as).map key).Subperm targets := by
  refine (nodup_map_distinctBy key as).subperm fun k found => ?_
  obtain ⟨a, present, rfl⟩ := List.mem_map.mp ((mem_map_distinctBy key).mp found)
  exact inside a present

/-- There are no more different keys than keys that are allowed. -/
theorem length_distinctBy_le {as : List α} {targets : List κ}
    (inside : ∀ a ∈ as, key a ∈ targets) : (distinctBy key as).length ≤ targets.length := by
  rw [← List.length_map key]
  exact (subperm_map_distinctBy key inside).length_le

/-- **Counting decides whether all are there.**  Of keys that are all among
the targets, there are as many as targets exactly when every target occurs. -/
theorem length_distinctBy_eq_iff {as : List α} {targets : List κ} (different : targets.Nodup)
    (inside : ∀ a ∈ as, key a ∈ targets) :
    (distinctBy key as).length = targets.length ↔ ∀ t ∈ targets, ∃ a ∈ as, key a = t := by
  constructor
  · intro full t wanted
    rw [← List.length_map key] at full
    -- as many different keys as targets are a permutation of them
    have all := (subperm_map_distinctBy key inside).perm_of_length_le (Nat.le_of_eq full.symm)
    have found := (mem_map_distinctBy key).mp (all.mem_iff.mpr wanted)
    exact List.mem_map.mp found
  · intro covered
    refine Nat.le_antisymm (length_distinctBy_le key inside) ?_
    rw [← List.length_map key]
    refine (different.subperm fun t wanted => ?_).length_le
    rw [mem_map_distinctBy]
    exact List.mem_map.mpr (covered t wanted)

/-! ### Groups -/

/-- The groups are the parts of the keys that occur. -/
theorem groupBy_eq_map_keys (as : List α) :
    groupBy key as
      = ((distinctBy key as).map key).map fun k => as.filter fun a => key a = k := by
  rw [groupBy, List.map_map]
  rfl

/-- **Grouping gives back the blocks.**  If every element has the key of
some block, and the keys of the blocks differ, the groups are the blocks
that are not empty. -/
theorem groupBy_perm_blocks {blocks : List β} {mark : β → κ} {as : List α}
    (different : (blocks.map mark).Nodup) (covered : ∀ a ∈ as, key a ∈ blocks.map mark) :
    (groupBy key as).Perm
      ((blocks.map fun b => as.filter fun a => key a = mark b).filter fun g => !g.isEmpty) := by
  -- both sides list the elements of one key each, for the same keys
  let part (k : κ) : List α := as.filter fun a => key a = k
  have groups : groupBy key as = ((distinctBy key as).map key).map part :=
    groupBy_eq_map_keys key as
  have nonempty (k : κ) : (!(part k).isEmpty) = decide (k ∈ as.map key) := by
    rw [Bool.eq_iff_iff, Bool.not_eq_true', List.isEmpty_eq_false_iff, decide_eq_true_eq,
      Ne, List.filter_eq_nil_iff, List.mem_map]
    simp
  have parts : ((blocks.map fun b => as.filter fun a => key a = mark b).filter
      fun g => !g.isEmpty) = ((blocks.map mark).filter fun k => k ∈ as.map key).map part := by
    rw [show (blocks.map fun b => as.filter fun a => key a = mark b)
      = (blocks.map mark).map part by rw [List.map_map]; rfl, List.filter_map]
    congr 1
    exact List.filter_congr fun k _ => nonempty k
  rw [groups, parts]
  refine List.Perm.map part ?_
  rw [List.perm_ext_iff_of_nodup (nodup_map_distinctBy key as) (different.filter _)]
  intro k
  rw [mem_map_distinctBy, List.mem_filter, decide_eq_true_eq]
  refine ⟨fun found => ⟨?_, found⟩, And.right⟩
  obtain ⟨a, present, rfl⟩ := List.mem_map.mp found
  exact covered a present

/-- The part of a key among parts that each have one. -/
theorem filter_flatMap_key {blocks : List β} {part : β → List α} {mark : β → κ}
    (own : ∀ b ∈ blocks, ∀ a ∈ part b, key a = mark b) (different : (blocks.map mark).Nodup)
    {b : β} (present : b ∈ blocks) :
    (blocks.flatMap part).filter (fun a => key a = mark b) = part b := by
  induction blocks with
  | nil => cases present
  | cons c blocks ih =>
    rw [List.map_cons, List.nodup_cons] at different
    have tailOwn := fun d there => own d (List.mem_cons_of_mem c there)
    rw [List.flatMap_cons, List.filter_append]
    rcases List.mem_cons.mp present with rfl | later
    -- the first block: all of its own elements, and none of the later ones
    · have all : (part b).filter (fun a => key a = mark b) = part b := by
        rw [List.filter_eq_self]
        exact fun a member => decide_eq_true (own b present a member)
      have others : (blocks.flatMap part).filter (fun a => key a = mark b) = [] := by
        rw [List.filter_eq_nil_iff]
        intro a member same
        obtain ⟨d, there, among⟩ := List.mem_flatMap.mp member
        rw [decide_eq_true_eq, tailOwn d there a among] at same
        exact different.1 (same ▸ List.mem_map_of_mem there)
      rw [all, others, List.append_nil]
    -- a later block: nothing of the first one has its key
    · have none : (part c).filter (fun a => key a = mark b) = [] := by
        rw [List.filter_eq_nil_iff]
        intro a member same
        rw [decide_eq_true_eq, own c List.mem_cons_self a member] at same
        exact different.1 (same ▸ List.mem_map_of_mem later)
      rw [none, List.nil_append, ih tailOwn different.2 later]

/-- Grouping parts that each have a key gives back those that are not
empty. -/
theorem groupBy_flatMap_perm {blocks : List β} {part : β → List α} {mark : β → κ}
    (own : ∀ b ∈ blocks, ∀ a ∈ part b, key a = mark b) (different : (blocks.map mark).Nodup) :
    (groupBy key (blocks.flatMap part)).Perm ((blocks.map part).filter fun g => !g.isEmpty) := by
  have covered : ∀ a ∈ blocks.flatMap part, key a ∈ blocks.map mark := by
    intro a member
    obtain ⟨b, present, among⟩ := List.mem_flatMap.mp member
    exact own b present a among ▸ List.mem_map_of_mem present
  have parts : (blocks.map fun b => (blocks.flatMap part).filter fun a => key a = mark b)
      = blocks.map part :=
    List.map_congr_left fun b present => filter_flatMap_key key own different present
  rw [← parts]
  exact groupBy_perm_blocks key different covered

/-- A permutation of images is a list of images. -/
theorem exists_map_of_perm {f : α → β} {as : List α} {bs : List β} (same : bs.Perm (as.map f)) :
    ∃ kept : List α, bs = kept.map f ∧ kept.Perm as := by
  -- permuting and mapping commute, as relations of lists
  have composed : Relation.Comp (fun (xs : List β) (ys : List α) => xs = ys.map f) List.Perm
      bs as := by
    rw [List.eq_map_comp_perm]
    exact same
  exact composed

end MediaSearch
