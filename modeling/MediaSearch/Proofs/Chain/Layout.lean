/-
MediaSearch/Proofs/Chain/Layout.lean

The layout of a chain, from its filters alone.

A chain is built filter by filter, and what each step adds depends on the
number of filters before it and on the stage that it reads.  Said for all
filters at once (`keptStages`, `lastStage`, `keptRanks`) this is a list that
can be looked into: the folded steps give these lists (`foldl_keep_eq`), and
excluded filters only add to their ends (`exclude_eq`).

The stages that rank are some of the stages, in their order
(`keptRanks_sublist`), each with the query of its filter
(`exists_rankedStage`), and no two stages have one name.

Main results: `build_eq`, `nodup_stages_build`.
-/
import Mathlib.Data.List.Nodup
import MediaSearch.Proofs.Chain.Names

namespace MediaSearch.Chain

open Sql

/-! ### Filters that are kept -/

/-- The stages of filters that are kept, numbered from `i` on, the first of
which reads `upstream` and each other the one before it. -/
def keptStages (i : Nat) (upstream : String) : List Filter → List (String × Query)
  | [] => []
  | f :: fs =>
    (keptStage i f.kind, f.clause upstream) :: keptStages (i + 1) (keptStage i f.kind) fs

/-- The last of these stages, or what the first would read. -/
def lastStage (i : Nat) (upstream : String) : List Filter → String
  | [] => upstream
  | f :: fs => lastStage (i + 1) (keptStage i f.kind) fs

/-- The stages among them that rank. -/
def keptRanks (i : Nat) : List Filter → List RankedStage
  | [] => []
  | f :: fs => f.kind.rank?.toList.map (⟨·, keptStage i f.kind⟩) ++ keptRanks (i + 1) fs

/-- What keeping some filters one after the other adds to a chain. -/
theorem foldl_keep_eq (chain : Chain) (filters : List Filter) :
    filters.foldl keep chain
      = { stages := chain.stages ++ keptStages chain.active.length chain.result filters
          result := lastStage chain.active.length chain.result filters
          ranks := chain.ranks ++ keptRanks chain.active.length filters
          active := chain.active ++ filters.map Filter.kind } := by
  induction filters generalizing chain with
  | nil => simp [keptStages, lastStage, keptRanks]
  | cons f filters ih =>
    rw [List.foldl_cons, ih (chain.keep f)]
    simp [keep, keptStages, lastStage, keptRanks]

/-! ### Filters that are excluded -/

/-- The stages of excluded filters and, if there are any, the one that
takes out what they let through. -/
def closingStages (result : String) (filters : List Filter) : List (String × Query) :=
  match excludedStages 0 filters with
  | [] => []
  | excluded => excluded ++ [(remainingStage, without result (excluded.map (·.1)))]

/-- Excluding adds stages at the end, whether there are filters or not. -/
theorem exclude_eq (chain : Chain) (filters : List Filter) :
    chain.exclude filters
      = { chain with
          stages := chain.stages ++ closingStages chain.result filters
          result := if filters = [] then chain.result else remainingStage } := by
  cases filters with
  | nil => simp [exclude, closingStages, excludedStages]
  | cons f filters => simp [exclude, closingStages, excludedStages]

theorem excludedStages_subset_closing (result : String) (filters : List Filter) :
    excludedStages 0 filters ⊆ closingStages result filters := by
  cases filters with
  | nil => nofun
  | cons f filters => exact List.subset_append_left _ _

/-! ### Whole chains -/

variable (tags : Option Query) (kept excluded : List Filter)

/-- **A chain is laid out like this**, whatever its filters are. -/
theorem build_eq :
    let positive := kept.filter Filter.isValid
    let negative := excluded.filter Filter.isValid
    let last := lastStage 0 rootStage positive
    build tags kept excluded
      = { stages := (start tags).stages ++ keptStages 0 rootStage positive
            ++ closingStages last negative
          result := if negative = [] then last else remainingStage
          ranks := keptRanks 0 positive
          active := positive.map Filter.kind } := by
  intro positive negative last
  unfold build
  rw [foldl_keep_eq, exclude_eq]
  rfl

/-! ### Names -/

theorem names_start :
    (start tags).stages.map (·.1) = (tags.toList.map fun _ => tagStage) ++ [rootStage] := by
  cases tags <;> rfl

theorem exists_of_mem_keptStages {i : Nat} {upstream name : String} {filters : List Filter}
    (present : name ∈ (keptStages i upstream filters).map (·.1)) :
    ∃ j ≥ i, ∃ kind, name = keptStage j kind := by
  induction filters generalizing i upstream with
  | nil => cases present
  | cons f filters ih =>
    rw [keptStages, List.map_cons] at present
    rcases List.mem_cons.mp present with rfl | later
    · exact ⟨i, Nat.le_refl i, f.kind, rfl⟩
    · obtain ⟨j, after, kind, same⟩ := ih later
      exact ⟨j, Nat.le_of_succ_le after, kind, same⟩

/-- Kept stages have different numbers, and so different names. -/
theorem nodup_keptStages (i : Nat) (upstream : String) (filters : List Filter) :
    ((keptStages i upstream filters).map (·.1)).Nodup := by
  induction filters generalizing i upstream with
  | nil => exact List.nodup_nil
  | cons f filters ih =>
    refine List.nodup_cons.mpr ⟨fun again => ?_, ih _ _⟩
    -- later stages have greater numbers
    obtain ⟨j, after, kind, same⟩ := exists_of_mem_keptStages again
    have number := keptStage_inj same
    omega

theorem nodup_excludedStages (i : Nat) (filters : List Filter) :
    ((excludedStages i filters).map (·.1)).Nodup := by
  induction filters generalizing i with
  | nil => exact List.nodup_nil
  | cons f filters ih =>
    refine List.nodup_cons.mpr ⟨fun again => ?_, ih _⟩
    obtain ⟨j, after, kind, same⟩ := eq_excludedStage_of_mem again
    have number := excludedStage_inj same
    omega

/-- The closing stages are those of excluded filters and `remaining`. -/
theorem names_closingStages {result name : String} {filters : List Filter}
    (present : name ∈ (closingStages result filters).map (·.1)) :
    name ∈ (excludedStages 0 filters).map (·.1) ∨ name = remainingStage := by
  cases filters with
  | nil => cases present
  | cons f filters =>
    rw [closingStages, excludedStages, List.map_append, List.mem_append] at present
    exact present.imp_right List.mem_singleton.mp

/-- No closing stage hides another. -/
theorem nodup_closingStages (result : String) (filters : List Filter) :
    ((closingStages result filters).map (·.1)).Nodup := by
  cases filters with
  | nil => exact List.nodup_nil
  | cons f filters =>
    have stages : (closingStages result (f :: filters)).map (·.1)
        = (excludedStages 0 (f :: filters)).map (·.1) ++ [remainingStage] := by
      rw [closingStages, excludedStages, List.map_append]
      rfl
    rw [stages]
    refine (nodup_excludedStages 0 (f :: filters)).append (List.nodup_singleton _) ?_
    intro name before own
    obtain rfl := List.mem_singleton.mp own
    exact notMem_excludedStages_of_fixed (by decide) before

/-- The names of stages that are no stage of a filter. -/
theorem mem_names_start {name : String} (present : name ∈ (start tags).stages.map (·.1)) :
    name = tagStage ∨ name = rootStage := by
  rw [names_start] at present
  cases tags with
  | none => exact .inr (List.mem_singleton.mp present)
  | some q => simpa using present

/-- **No two stages of a chain have one name.** -/
theorem nodup_stages_build : ((build tags kept excluded).stages.map (·.1)).Nodup := by
  rw [build_eq, List.map_append, List.map_append]
  have first : ((start tags).stages.map (·.1)).Nodup := by
    rw [names_start]
    cases tags with
    | none => exact List.nodup_singleton _
    | some q => exact (by decide : [tagStage, rootStage].Nodup)
  -- the letters tell the stages of filters from all others
  have fixed {name : String} (present : name ∈ (start tags).stages.map (·.1)) :
      name ∈ fixedNames ∧ name ≠ remainingStage := by
    rcases mem_names_start tags present with rfl | rfl <;> decide
  refine (first.append (nodup_keptStages _ _ _) ?_).append (nodup_closingStages _ _) ?_
  · intro name before own
    obtain ⟨j, -, kind, rfl⟩ := exists_of_mem_keptStages own
    exact keptStage_notMem_fixedNames j kind (fixed before).1
  · intro name before own
    rcases names_closingStages own with own | rfl
    · rcases List.mem_append.mp before with before | before
      · exact notMem_excludedStages_of_fixed (fixed before).1 own
      · obtain ⟨j, -, kind, rfl⟩ := exists_of_mem_keptStages before
        exact keptStage_notMem_excludedStages j 0 kind _ own
    · rcases List.mem_append.mp before with before | before
      · exact (fixed before).2 rfl
      · obtain ⟨j, -, kind, same⟩ := exists_of_mem_keptStages before
        exact keptStage_notMem_fixedNames j kind (same ▸ by decide)

/-- No stage has the name of a table. -/
theorem table_notMem_stages {name : String} (table : name ∈ Library.tableNames) :
    name ∉ (build tags kept excluded).stages.map (·.1) := by
  intro present
  have fixed := mem_fixedNames_of_table table
  rw [build_eq, List.map_append, List.map_append] at present
  rcases List.mem_append.mp present with before | closing
  · rcases List.mem_append.mp before with first | own
    · rcases mem_names_start tags first with rfl | rfl
      · exact absurd table (by decide)
      · exact absurd table (by decide)
    · obtain ⟨j, -, kind, rfl⟩ := exists_of_mem_keptStages own
      exact keptStage_notMem_fixedNames j kind fixed
  · rcases names_closingStages closing with own | rfl
    · exact notMem_excludedStages_of_fixed fixed own
    · exact absurd table (by decide)

theorem lastStage_cases (i : Nat) (upstream : String) (filters : List Filter) :
    lastStage i upstream filters = upstream
      ∨ ∃ j kind, lastStage i upstream filters = keptStage j kind := by
  induction filters generalizing i upstream with
  | nil => exact .inl rfl
  | cons f filters ih =>
    rcases ih (i + 1) (keptStage i f.kind) with own | later
    · exact .inr ⟨i, f.kind, own⟩
    · exact .inr later

/-- The stage with the files that are left is none of an excluded filter. -/
theorem result_build_notMem (i : Nat) (others : List Filter) :
    (build tags kept excluded).result ∉ (excludedStages i others).map (·.1) := by
  rw [build_eq]
  show (if _ then _ else _) ∉ _
  split
  · rcases lastStage_cases 0 rootStage (kept.filter Filter.isValid) with root | ⟨j, kind, own⟩
    · rw [root]
      exact notMem_excludedStages_of_fixed (by decide)
    · rw [own]
      exact keptStage_notMem_excludedStages j i kind others
  · exact notMem_excludedStages_of_fixed (by decide)

/-! ### Stages that rank -/

/-- The ranks are those that the kinds of the filters give. -/
theorem map_rank_keptRanks (i : Nat) (filters : List Filter) :
    (keptRanks i filters).map (·.rank) = filters.filterMap fun f => f.kind.rank? := by
  induction filters generalizing i with
  | nil => rfl
  | cons f filters ih =>
    rw [keptRanks, List.map_append, ih]
    cases rank : f.kind.rank? <;> simp [rank]

/-- The stages that rank are some of the stages, in their order. -/
theorem keptRanks_sublist (i : Nat) (upstream : String) (filters : List Filter) :
    ((keptRanks i filters).map (·.stage)).Sublist
      ((keptStages i upstream filters).map (·.1)) := by
  induction filters generalizing i upstream with
  | nil => exact .slnil
  | cons f filters ih =>
    have rest := ih (i + 1) (keptStage i f.kind)
    rw [keptRanks, keptStages, List.map_append, List.map_cons]
    cases f.kind.rank? with
    | none => exact rest.cons _
    | some rank => exact rest.cons_cons _

/-- A filter has one stage that ranks, if its kind gives a rank. -/
theorem exists_rankedStage {filters : List Filter} {f : Filter} (present : f ∈ filters)
    {rank : Rank} (gives : f.kind.rank? = some rank) (i : Nat) (upstream : String) :
    ∃ r ∈ keptRanks i filters, r.rank = rank
      ∧ ∃ before, (r.stage, f.clause before) ∈ keptStages i upstream filters := by
  induction filters generalizing i upstream with
  | nil => cases present
  | cons first filters ih =>
    -- the filter is the first one, or its stage comes later with a higher number
    rcases List.mem_cons.mp present with rfl | later
    · refine ⟨⟨rank, keptStage i f.kind⟩, ?_, rfl, upstream, List.mem_cons_self⟩
      rw [keptRanks, gives]
      exact List.mem_cons_self
    · obtain ⟨r, listed, same, before, staged⟩ := ih later (i + 1) (keptStage i first.kind)
      exact ⟨r, List.mem_append_right _ listed, same, before, List.mem_cons_of_mem _ staged⟩

end MediaSearch.Chain
