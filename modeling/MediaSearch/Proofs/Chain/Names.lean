/-
MediaSearch/Proofs/Chain/Names.lean

The names of stages never collide.

The stage of a filter that is kept starts with `p`, that of an excluded one
with `n`, and no table of a library and no other stage starts with either
letter.  The number that follows tells stages of the same letter apart: it
ends at the first underscore, whatever the name of the kind.
-/
import MediaSearch.Chain
import MediaSearch.Proofs.Library.Content
import MediaSearch.Proofs.Number.Decimal

namespace MediaSearch.Chain

/-! ### First letters -/

/-- The name of a kept stage: its letter, its number and its kind. -/
theorem toList_keptStage (i : Nat) (kind : FilterKind) :
    (keptStage i kind).toList = 'p' :: (Nat.toDigits 10 i ++ '_' :: kind.name.toList) := by
  simp [keptStage, String.toList_append]

/-- The name of an excluded stage: its letter, its number and its kind. -/
theorem toList_excludedStage (i : Nat) (kind : FilterKind) :
    (excludedStage i kind).toList = 'n' :: (Nat.toDigits 10 i ++ '_' :: kind.name.toList) := by
  simp [excludedStage, String.toList_append]

/-- The names that are no stage of a filter. -/
def fixedNames : List String :=
  rootStage :: tagStage :: remainingStage :: "result" :: Library.tableNames

theorem mem_fixedNames_of_table {name : String} (table : name ∈ Library.tableNames) :
    name ∈ fixedNames := by
  simp [fixedNames, table]

/-- The stage of a kept filter hides no table and none of the other stages. -/
theorem keptStage_notMem_fixedNames (i : Nat) (kind : FilterKind) :
    keptStage i kind ∉ fixedNames := by
  intro fixed
  -- none of the fixed names starts with the letter of kept stages
  have letters : ∀ name ∈ fixedNames, name.toList.head? ≠ some 'p' := by decide
  exact letters _ fixed (by rw [toList_keptStage]; rfl)

/-- The stage of an excluded filter hides no table and none of the other stages. -/
theorem excludedStage_notMem_fixedNames (i : Nat) (kind : FilterKind) :
    excludedStage i kind ∉ fixedNames := by
  intro fixed
  -- nor with that of excluded ones
  have letters : ∀ name ∈ fixedNames, name.toList.head? ≠ some 'n' := by decide
  exact letters _ fixed (by rw [toList_excludedStage]; rfl)

/-- Kept and excluded stages differ in their letters. -/
theorem keptStage_ne_excludedStage (i j : Nat) (kind other : FilterKind) :
    keptStage i kind ≠ excludedStage j other := by
  intro same
  have chars := congrArg String.toList same
  rw [toList_keptStage, toList_excludedStage] at chars
  exact absurd (List.cons.inj chars).1 (by decide)

theorem eq_excludedStage_of_mem {i : Nat} {filters : List Filter} {name : String}
    (present : name ∈ (excludedStages i filters).map (·.1)) :
    ∃ j ≥ i, ∃ kind, name = excludedStage j kind := by
  induction filters generalizing i with
  | nil => cases present
  | cons f filters ih =>
    rw [excludedStages, List.map_cons] at present
    rcases List.mem_cons.mp present with rfl | later
    · exact ⟨i, Nat.le_refl i, f.kind, rfl⟩
    · obtain ⟨j, after, kind, same⟩ := ih later
      exact ⟨j, Nat.le_of_succ_le after, kind, same⟩

theorem notMem_excludedStages_of_fixed {i : Nat} {filters : List Filter} {name : String}
    (fixed : name ∈ fixedNames) : name ∉ (excludedStages i filters).map (·.1) := by
  intro present
  obtain ⟨j, -, kind, rfl⟩ := eq_excludedStage_of_mem present
  exact excludedStage_notMem_fixedNames j kind fixed

theorem keptStage_notMem_excludedStages (i j : Nat) (kind : FilterKind) (filters : List Filter) :
    keptStage i kind ∉ (excludedStages j filters).map (·.1) := by
  intro present
  obtain ⟨k, -, other, same⟩ := eq_excludedStage_of_mem present
  exact keptStage_ne_excludedStage i k kind other same

/-! ### Numbers -/

/-- Kept stages with one name have one number. -/
theorem keptStage_inj {i j : Nat} {kind other : FilterKind}
    (same : keptStage i kind = keptStage j other) : i = j := by
  have chars := congrArg String.toList same
  rw [toList_keptStage, toList_keptStage] at chars
  exact (decimal_append_inj (by decide) (List.cons.inj chars).2).1

/-- Excluded stages with one name have one number. -/
theorem excludedStage_inj {i j : Nat} {kind other : FilterKind}
    (same : excludedStage i kind = excludedStage j other) : i = j := by
  have chars := congrArg String.toList same
  rw [toList_excludedStage, toList_excludedStage] at chars
  exact (decimal_append_inj (by decide) (List.cons.inj chars).2).1

end MediaSearch.Chain
