/-
MediaSearch/Proofs/Chain/Excluded.lean

What excluded filters take away.

Every excluded filter has a stage that reads `root`.  The rows of `remaining`
are those of the result before it whose ids are in none of these stages
(`relation_without`), and since what is left comes from `root`, these are the
candidates that no excluded filter lets through (`Holds.exclude`).
-/
import MediaSearch.Proofs.Chain.Stages

namespace MediaSearch

open Sql

/-! ### Pairs of ids -/

/-- A row of a file and an item. -/
def pairRow (ids : Int64 × Int64) : List Value :=
  [.integer ids.1, .integer ids.2]

/-- A candidate of which only the ids are known. -/
def Candidate.bare (ids : Int64 × Int64) : Candidate :=
  ⟨ids.1, ids.2, []⟩

/-- A candidate of which only the ids are known has these ids. -/
theorem ids_bare (pairs : List (Int64 × Int64)) :
    (pairs.map Candidate.bare).map Candidate.ids = pairs := by
  rw [List.map_map]
  exact List.map_id pairs

/-- A stage of nothing but ids. -/
def pairStage (pairs : List (Int64 × Int64)) : Relation :=
  ⟨["file_id", "item_id"], pairs.map pairRow⟩

theorem stage_bare (pairs : List (Int64 × Int64)) :
    stage [] (pairs.map Candidate.bare) = pairStage pairs := by
  rw [stage, pairStage, List.map_map]
  rfl

/-- Rows of pairs are compared as the pairs are. -/
theorem tellsApart_pairRow : TellsApart pairRow := by
  intro p q same
  simpa [pairRow, Value.key_integer_inj, Prod.ext_iff] using same

variable {engine : Engine} {tables : Tables}

/-- The ids of a stage. -/
theorem relation_idsOf {source : Source} {extra : List String} {candidates : List Candidate}
    (relation : source.relation engine tables = stage extra candidates) :
    (Chain.idsOf source).relation engine tables = pairStage (candidates.map Candidate.ids) := by
  -- nothing is joined to the stage
  have joined : [].foldl (joinRows engine tables)
      ((source.relation engine tables).scopes source.name)
      = candidates.map fun c => [(source.name, ("file_id" :: "item_id" :: extra).zip c.row)] := by
    rw [relation]
    exact Relation.scopes_map _ _ _ _
  rw [Chain.idsOf, Query.relation, rows_select_joins rfl _ joined, List.map_map, pairStage,
    List.map_map]
  have row (c : Candidate) : [(⟨.ref (.bare "file_id"), none⟩ : Column),
      ⟨.ref (.bare "item_id"), none⟩].map (fun column => column.expr.value engine
        [[(source.name, ("file_id" :: "item_id" :: extra).zip c.row)]]) = pairRow c.ids := by
    simp [Expr.value, Candidate.row, pairRow, Candidate.ids]
  simp only [Function.comp_def, row]
  rfl

/-- Rows of pairs that are in any of several lists. -/
theorem combineAll_union (parts : List (List (Int64 × Int64))) :
    ∃ pairs : List (Int64 × Int64),
      SetOperator.union.combineAll (parts.map (List.map pairRow)) = pairs.map pairRow
        ∧ ∀ p, p ∈ pairs ↔ ∃ part ∈ parts, p ∈ part := by
  -- the rows so far are always those of some pairs, each one once
  have fold (first : List (Int64 × Int64)) (rest : List (List (Int64 × Int64))) :
      ∃ pairs : List (Int64 × Int64),
        (rest.map (List.map pairRow)).foldl SetOperator.union.combine (first.map pairRow)
          = pairs.map pairRow
        ∧ ∀ p, p ∈ pairs ↔ p ∈ first ∨ ∃ part ∈ rest, p ∈ part := by
    induction rest generalizing first with
    | nil => exact ⟨first, rfl, by simp⟩
    | cons part rest ih =>
      let key (p : Int64 × Int64) : List Key := (pairRow p).map Value.key
      obtain ⟨pairs, rows, mem_pairs⟩ := ih (distinctBy key (first ++ part))
      refine ⟨pairs, ?_, fun p => ?_⟩
      · rw [List.map_cons, List.foldl_cons, SetOperator.combine, ← List.map_append,
          distinctBy_map]
        exact rows
      · have kept : p ∈ distinctBy key (first ++ part) ↔ p ∈ first ++ part :=
          mem_distinctBy key fun q _ same => tellsApart_pairRow q p same
        rw [mem_pairs, kept, List.mem_append]
        simp [or_assoc]
  cases parts with
  | nil => exact ⟨[], rfl, by simp⟩
  | cons first rest =>
    obtain ⟨pairs, rows, mem_pairs⟩ := fold first rest
    exact ⟨pairs, rows, fun p => by simp [mem_pairs]⟩

/-- The union of the ids of stages. -/
theorem relation_union (engine : Engine) {others : List (String × List Candidate)}
    (nonempty : others ≠ [])
    (stages : ∀ o ∈ others, ∃ extra, tables.relation o.1 = stage extra o.2) :
    ∃ pairs : List (Int64 × Int64),
      (Query.compound .union ((others.map (·.1)).map fun name =>
        Chain.idsOf (.named name none))).relation engine tables = pairStage pairs
      ∧ ∀ p, p ∈ pairs ↔ ∃ o ∈ others, p ∈ o.2.map Candidate.ids := by
  obtain ⟨pairs, rows, mem_pairs⟩ := combineAll_union (others.map fun o => o.2.map Candidate.ids)
  refine ⟨pairs, ?_, fun p => by simp [mem_pairs]⟩
  have parts : partRows engine tables ((others.map (·.1)).map fun name =>
      Chain.idsOf (.named name none))
        = (others.map fun o => o.2.map Candidate.ids).map (List.map pairRow) := by
    rw [partRows_eq_map, List.map_map, List.map_map, List.map_map]
    refine List.map_congr_left fun o member => ?_
    obtain ⟨extra, relation⟩ := stages o member
    have ids : (Chain.idsOf (.named o.1 none)).relation engine tables
        = pairStage (o.2.map Candidate.ids) := relation_idsOf relation
    exact congrArg Relation.rows ids
  -- the columns are those of the first part, so there must be one
  obtain ⟨o, rest, rfl⟩ := List.exists_cons_of_ne_nil nonempty
  rw [Query.relation, Query.rows, parts, rows, List.map_map, pairStage]
  congr 1
  rw [List.map_map]
  exact List.map_id _

/-- The ids of candidates that are in none of some stages. -/
def Candidate.outside (left : List Candidate) (others : List (String × List Candidate)) :
    List (Int64 × Int64) :=
  (left.map ids).filter fun p => !others.any fun o => p ∈ o.2.map ids

/-- The rows of a stage whose ids are in none of the others. -/
theorem relation_without {result : String} {others : List (String × List Candidate)}
    {extra : List String} {left : List Candidate} (nonempty : others ≠ [])
    (result_eq : tables.relation result = stage extra left)
    (distinct : (left.map Candidate.ids).Nodup)
    (stages : ∀ o ∈ others, ∃ extra, tables.relation o.1 = stage extra o.2) :
    (Chain.without result (others.map (·.1))).relation engine tables
      = pairStage (Candidate.outside left others) := by
  obtain ⟨pairs, union, mem_pairs⟩ := relation_union engine nonempty stages
  have excluded : (Chain.idsOf (.query (.compound .union ((others.map (·.1)).map fun name =>
      Chain.idsOf (.named name none))) none)).relation engine tables = pairStage pairs := by
    have source : (Source.query (.compound .union ((others.map (·.1)).map fun name =>
        Chain.idsOf (.named name none))) none).relation engine tables
          = stage [] (pairs.map Candidate.bare) := by
      rw [stage_bare]
      exact union
    rw [relation_idsOf source, ids_bare]
  have kept : (Chain.idsOf (.named result none)).relation engine tables
      = pairStage (left.map Candidate.ids) := relation_idsOf result_eq
  -- being in the union is being in one of the stages
  have among (p : Int64 × Int64) : decide (p ∉ pairs)
      = !others.any fun o => p ∈ o.2.map Candidate.ids := by
    rw [Bool.eq_iff_iff, decide_eq_true_eq, mem_pairs]
    simp
  have outside : Candidate.outside left others
      = (left.map Candidate.ids).filter fun p => decide (p ∉ pairs) := by
    simp only [Candidate.outside, among]
  rw [Chain.without, relation_compound_pair, kept, excluded, outside, pairStage, pairStage,
    pairStage, tellsApart_pairRow.combine_except distinct]
  rfl

namespace Chain

/-! ### Stages of excluded filters -/

variable {lib : Library} {root left : List Candidate} {chain : Chain}
  {pick : Filter → Int64 × Int64 → Option (List Value)}

/-- What the stages of excluded filters hold: the candidates of `root` that
each filter lets through. -/
structure Excluded (engine : Engine) (lib : Library) (root : List Candidate)
    (pick : Filter → Int64 × Int64 → Option (List Value)) (tables : Tables) (i : Nat)
    (filters : List Filter) (others : List (String × List Candidate)) : Prop where
  shown : lib.Shows (stageTables engine tables (excludedStages i filters))
  names : others.map (·.1) = (excludedStages i filters).map (·.1)
  stages : ∀ o ∈ others, ∃ extra,
    (stageTables engine tables (excludedStages i filters)).relation o.1 = stage extra o.2
  distinct : ∀ o ∈ others, (o.2.map (·.file)).Nodup
  any_eq : ∀ ids ∈ root.map Candidate.ids,
    (others.any fun o => ids ∈ o.2.map Candidate.ids) = filters.any fun f => (pick f ids).isSome

/-- The stage of an excluded filter is none of the later ones. -/
theorem excludedStage_notMem_later (i : Nat) (kind : FilterKind) (filters : List Filter) :
    excludedStage i kind ∉ (excludedStages (i + 1) filters).map (·.1) := by
  intro present
  obtain ⟨j, after, other, name⟩ := eq_excludedStage_of_mem present
  exact Nat.ne_of_lt after (excludedStage_inj name)

/-- The stages of excluded filters hold what they should, whatever number they
start from: each reads `root`, which none of them hides. -/
theorem exists_excluded
    (decides : ∀ f, Filter.Decides engine lib (fun upstream => f.clause upstream) f.rankColumns
      (pick f)) (distinct : (root.map (·.file)).Nodup) (filters : List Filter) (i : Nat)
    {tables : Tables} (shown : lib.Shows tables)
    (root_eq : tables.relation rootStage = stage [] root) :
    ∃ others : List (String × List Candidate),
      Excluded engine lib root pick tables i filters others := by
  induction filters generalizing i tables with
  | nil => exact ⟨[], shown, rfl, by simp, by simp, by simp⟩
  | cons f filters ih =>
    obtain ⟨kept, relation, same⟩ := decides f shown root_eq (Candidate.nodup_ids distinct)
    have ids := Candidate.perm_map_ids_of_choose same
    let name := excludedStage i f.kind
    have fresh : name ∉ fixedNames := excludedStage_notMem_fixedNames _ _
    -- the later stages still read the same `root`
    have first : Tables.relation ((name, (f.clause rootStage).relation engine tables) :: tables)
        rootStage = stage [] root := by
      have other : rootStage ≠ name := fun same => fresh (by simp [fixedNames, ← same])
      rw [Tables.relation_cons, if_neg other, root_eq]
    obtain ⟨others, rest⟩ := ih (i + 1)
      (shown.cons (fun table => fresh (mem_fixedNames_of_table table)) _) first
    refine ⟨(name, kept) :: others, ?_⟩
    constructor
    case shown => exact rest.shown
    case names =>
      rw [List.map_cons, rest.names]
      rfl
    case stages =>
      rw [List.forall_mem_cons]
      refine ⟨⟨f.rankColumns, ?_⟩, rest.stages⟩
      show (stageTables engine ((name, _) :: tables) (excludedStages (i + 1) filters)).relation
        name = _
      rw [relation_stageTables (excludedStage_notMem_later i f.kind filters),
        Tables.relation_cons, if_pos rfl]
      exact relation
    case distinct =>
      rw [List.forall_mem_cons]
      exact ⟨Candidate.nodup_files_of_perm distinct ids, rest.distinct⟩
    case any_eq =>
      intro pair member
      have own : decide (pair ∈ kept.map Candidate.ids) = (pick f pair).isSome := by
        rw [Bool.eq_iff_iff, decide_eq_true_eq, ids.mem_iff, List.mem_filter,
          and_iff_right member]
      rw [List.any_cons, List.any_cons, rest.any_eq pair member, own]

/-! ### The stage `remaining` -/

/-- The chain ends with `remaining`, after the stages of what is excluded. -/
theorem tables_exclude (f : Filter) (filters : List Filter) :
    let excluded := excludedStages 0 (f :: filters)
    (chain.exclude (f :: filters)).tables engine lib
      = (remainingStage, (without chain.result (excluded.map (·.1))).relation engine
          (stageTables engine (chain.tables engine lib) excluded))
        :: stageTables engine (chain.tables engine lib) excluded := by
  intro excluded
  show stageTables engine lib.tables (chain.stages ++ excluded
    ++ [(remainingStage, without chain.result (excluded.map (·.1)))]) = _
  rw [stageTables_snoc, stageTables_append]
  rfl

/-- A stage of the chain is one it had before, one of what is excluded, or
`remaining`. -/
theorem mem_stages_exclude {f : Filter} {filters : List Filter} {entry : String × Query}
    (present : entry ∈ (chain.exclude (f :: filters)).stages) :
    entry ∈ chain.stages ∨ entry.1 ∈ (excludedStages 0 (f :: filters)).map (·.1)
      ∨ entry.1 = remainingStage := by
  rcases List.mem_append.mp present with before | last
  · exact (List.mem_append.mp before).imp_right fun added => .inl (List.mem_map_of_mem added)
  · exact .inr (.inr (by rw [List.mem_singleton.mp last]))

/-- No stage of an excluded filter hides the result so far. -/
theorem Holds.result_notMem_excluded (holds : chain.Holds engine lib root left)
    (filters : List Filter) : chain.result ∉ (excludedStages 0 filters).map (·.1) := by
  rcases holds.result_name with name | name | ⟨i, -, kind, name⟩ <;> rw [name]
  · exact notMem_excludedStages_of_fixed (by decide)
  · exact notMem_excludedStages_of_fixed (by decide)
  · exact keptStage_notMem_excludedStages i 0 kind _

/-- What `remaining` holds. -/
theorem Holds.relation_remaining (holds : chain.Holds engine lib root left)
    {f : Filter} {filters : List Filter} {others : List (String × List Candidate)}
    (excluded : Excluded engine lib root pick (chain.tables engine lib) 0 (f :: filters) others) :
    ((chain.exclude (f :: filters)).tables engine lib).relation remainingStage
      = stage [] ((Candidate.outside left others).map Candidate.bare) := by
  obtain ⟨extra, result⟩ := holds.result_eq
  have nonempty : others ≠ [] := by
    rintro rfl
    cases excluded.names
  -- the result so far can still be seen past the excluded stages
  have seen : (stageTables engine (chain.tables engine lib)
      (excludedStages 0 (f :: filters))).relation chain.result = stage extra left :=
    (relation_stageTables (holds.result_notMem_excluded _)).trans result
  rw [tables_exclude, Tables.relation_cons, if_pos rfl, ← excluded.names, stage_bare]
  exact relation_without nonempty seen (Candidate.nodup_ids holds.distinct) excluded.stages

section Exclude

variable {f : Filter} {filters : List Filter} {others : List (String × List Candidate)}

/-- The new stages hide none that has another name. -/
theorem relation_exclude_of_ne {name : String} (other : name ≠ remainingStage)
    (unhidden : name ∉ (excludedStages 0 (f :: filters)).map (·.1)) :
    ((chain.exclude (f :: filters)).tables engine lib).relation name
      = (chain.tables engine lib).relation name := by
  rw [tables_exclude, Tables.relation_cons, if_neg other, relation_stageTables unhidden]

/-- What is outside the excluded stages is what no excluded filter lets
through: being in a stage is being let through, for what comes from `root`. -/
theorem Holds.outside_eq (holds : chain.Holds engine lib root left)
    (excluded : Excluded engine lib root pick (chain.tables engine lib) 0 filters others) :
    Candidate.outside left others = (left.map Candidate.ids).filter fun ids =>
      !filters.any fun f => (pick f ids).isSome := by
  refine List.filter_congr fun p member => ?_
  obtain ⟨c, there, rfl⟩ := List.mem_map.mp member
  rw [excluded.any_eq c.ids (holds.within c there)]

/-- Every stage holds a file at most once if `remaining` does. -/
theorem Holds.stages_exclude (holds : chain.Holds engine lib root left)
    (excluded : Excluded engine lib root pick (chain.tables engine lib) 0 (f :: filters) others)
    {kept : List Candidate}
    (last : ((chain.exclude (f :: filters)).tables engine lib).relation remainingStage
      = stage [] kept) (once : (kept.map (·.file)).Nodup) :
    ∀ entry ∈ (chain.exclude (f :: filters)).stages, entry.1 ≠ tagStage →
      ∃ extra candidates,
        ((chain.exclude (f :: filters)).tables engine lib).relation entry.1
          = stage extra candidates
        ∧ (candidates.map (·.file)).Nodup := by
  intro entry present notTags
  -- the stage is the last one, an excluded one, or was there before
  by_cases final : entry.1 = remainingStage
  · exact ⟨[], kept, final ▸ last, once⟩
  by_cases added : entry.1 ∈ (excludedStages 0 (f :: filters)).map (·.1)
  · rw [← excluded.names] at added
    obtain ⟨o, member, name⟩ := List.mem_map.mp added
    obtain ⟨columns, found⟩ := excluded.stages o member
    refine ⟨columns, o.2, ?_, excluded.distinct o member⟩
    rw [tables_exclude, Tables.relation_cons, if_neg final, ← name]
    exact found
  · have old : entry ∈ chain.stages :=
      (mem_stages_exclude present).resolve_right fun new => new.elim added final
    rw [relation_exclude_of_ne final added]
    exact holds.stages entry old notTags

/-- The stages that rank have all that is left: they are stages of kept
filters, which neither `remaining` nor the stage of an excluded filter hides. -/
theorem Holds.ranks_exclude (holds : chain.Holds engine lib root left) {kept : List Candidate}
    (before : ∀ c ∈ kept, ∃ b ∈ left, b.ids = c.ids) :
    ∀ r ∈ (chain.exclude (f :: filters)).ranks,
      RanksAll ((chain.exclude (f :: filters)).tables engine lib) r kept := by
  intro r present
  obtain ⟨i, -, kind, name⟩ := holds.rank_names r present
  have other : r.stage ≠ remainingStage := by
    rw [name]
    intro same
    exact keptStage_notMem_fixedNames i kind (by rw [same]; decide)
  have unhidden := keptStage_notMem_excludedStages i 0 kind (f :: filters)
  exact (holds.ranks r present).of_fewer (relation_exclude_of_ne other (name ▸ unhidden)) before

end Exclude

/-- **Excluded filters take away what any of them lets through.** -/
theorem Holds.exclude
    (decides : ∀ f, Filter.Decides engine lib (fun upstream => f.clause upstream) f.rankColumns
      (pick f)) (distinct : (root.map (·.file)).Nodup)
    (holds : chain.Holds engine lib root left) (filters : List Filter) :
    ∃ kept : List Candidate, (chain.exclude filters).Holds engine lib root kept
      ∧ (kept.map Candidate.ids).Perm ((left.map Candidate.ids).filter fun ids =>
        !filters.any fun f => (pick f ids).isSome) := by
  cases filters with
  | nil => exact ⟨left, holds, by simp⟩
  | cons f filters =>
    obtain ⟨others, excluded⟩ :=
      exists_excluded decides distinct (f :: filters) 0 holds.shown holds.root_eq
    let kept := (Candidate.outside left others).map Candidate.bare
    have last : ((chain.exclude (f :: filters)).tables engine lib).relation remainingStage
        = stage [] kept := holds.relation_remaining excluded
    have perm : (kept.map Candidate.ids).Perm ((left.map Candidate.ids).filter fun ids =>
        !(f :: filters).any fun f => (pick f ids).isSome) :=
      .of_eq ((ids_bare _).trans (holds.outside_eq excluded))
    have once := Candidate.nodup_files_of_perm holds.distinct perm
    have before (c : Candidate) (member : c ∈ kept) := exists_of_perm perm member
    refine ⟨kept, ?_, perm⟩
    constructor
    case shown =>
      rw [tables_exclude]
      exact excluded.shown.cons (by decide) _
    case root_eq =>
      rw [relation_exclude_of_ne (by decide) (notMem_excludedStages_of_fixed (by decide)),
        holds.root_eq]
    case result_eq => exact ⟨[], last⟩
    case within => exact holds.within_of_fewer before
    case distinct => exact once
    case stages => exact holds.stages_exclude excluded last once
    case ranks => exact holds.ranks_exclude before
    case result_name => exact .inr (.inl rfl)
    case rank_names => exact holds.rank_names
    case nodup_ranks => exact holds.nodup_ranks

end Chain

end MediaSearch
