/-
MediaSearch/Proofs/Compile/Named.lean

Every name in a statement is plain.

Statements are made from names of the library's own: tables and columns, and
the names of stages, which are letters, digits and the names of kinds.  None
of them has a quote or a question mark (`clause_isNamed` for filters,
`query?_isNamed` for tags, `named_build` for chains), so all statements have
as many placeholders as parameters, and compiling them never fails.

Main results: `Settings.compile_eq_ok`, `ItemRule.compile_eq_ok`.
-/
import MediaSearch.Compile
import MediaSearch.Proofs.Chain.Names
import MediaSearch.Proofs.Filter.Named
import MediaSearch.Proofs.Tags.Query

namespace MediaSearch

open Sql Fragment

/-! ### Tag queries -/

namespace TagScope

/-- The conditions on the assignments of tags name columns only; tags, setters
and namespaces are values. -/
theorem conditions_isNamed (scope : TagScope) (names : List String) :
    conditionsNamed (scope.conditions names) = true := by
  unfold conditions
  refine conditionsNamed_append (conditionsNamed_append (conditionsNamed_append ?_ ?_) ?_) ?_
  · rw [conditionsNamed, Condition.isNamed]
    decide
  · exact Library.atLeast_isNamed (by decide) _
  · exact Library.setBy_isNamed (by decide) _
  · exact Library.startsWithOneOf_isNamed (by decide) _

/-- Leaving out what a query lists adds no names but those of the query. -/
theorem notIn_isNamed {r : Ref} (named : r.isNamed = true) {excluded : Option Query}
    (plain : ∀ q, excluded = some q → q.isNamed = true) :
    conditionsNamed (excluded.toList.map (.notInQuery r)) = true := by
  cases excluded with
  | none => rfl
  | some q => simp [conditionsNamed, Condition.isNamed, named, plain q rfl]

/-- Where there is no query, all its names are plain. -/
theorem none_isNamed : ∀ q, (none : Option Query) = some q → q.isNamed = true := nofun

/-- A query of assignments that groups them or not. -/
theorem select_isNamed {conditions : List Condition} (met : conditionsNamed conditions = true)
    {grouping : List Expr} (keys : grouping.all Expr.isNamed = true)
    {having : Option (Expr × Value)} (counted : having.all (fun (e, _) => e.isNamed) = true) :
    (Query.select { assignments conditions with grouping, having }).isNamed = true := by
  have columns : List.all [⟨.ref itemId, some "item_id"⟩] Column.isNamed = true := by decide
  have joined : List.all [⟨"tags_setters", none, .ref (.of "tags_setters" "id"),
      .ref (.of "tags_items" "tag_id")⟩] Join.isNamed = true := by decide
  have source : (Source.named "tags_items" none).isNamed = true := by decide
  rw [assignments, Query.isNamed, columns, source, joined, met, keys, counted]
  rfl

theorem matching_isNamed (scope : TagScope) (names : List String) :
    (scope.matching names).isNamed = true :=
  select_isNamed (scope.conditions_isNamed names) rfl rfl

variable {excluded : Option Query}

theorem withAny_isNamed (scope : TagScope) (names : List String)
    (plain : ∀ q, excluded = some q → q.isNamed = true) :
    (scope.withAny names excluded).isNamed = true :=
  select_isNamed (conditionsNamed_append (scope.conditions_isNamed names)
    (notIn_isNamed (by decide) plain)) (by decide) rfl

theorem withAll_isNamed (scope : TagScope) (names : List String)
    (plain : ∀ q, excluded = some q → q.isNamed = true) :
    (scope.withAll names excluded).isNamed = true := by
  have quota : (scope.quota names).1.isNamed = true := by
    unfold TagScope.quota
    split
    · exact (by decide : (Expr.concat (.concat (.ref (.of "tags_setters" "setter_id")) .dash)
        (.ref (.of "tags_setters" "name"))).isNamed = true)
    · exact (by decide : (Expr.ref (.of "tags_setters" "name")).isNamed = true)
  exact select_isNamed (conditionsNamed_append (scope.conditions_isNamed names)
    (notIn_isNamed (by decide) plain)) (by decide) quota

end TagScope

theorem allItems_isNamed {excluded : Option Query}
    (plain : ∀ q, excluded = some q → q.isNamed = true) : (allItems excluded).isNamed = true := by
  have met := TagScope.notIn_isNamed (r := .of "items" "id") (by decide) plain
  have columns : List.all [⟨.ref (.of "items" "id"), some "item_id"⟩] Column.isNamed = true := by
    decide
  have source : (Source.named "items" none).isNamed = true := by decide
  rw [allItems, Query.isNamed, columns, source, met]
  rfl

namespace TagFilter

theorem rejected_isNamed {f : TagFilter} {scope : TagScope} {q : Query}
    (chosen : f.rejected scope = some q) : q.isNamed = true := by
  unfold rejected at chosen
  split at chosen
  · cases chosen
  · rw [← Option.some.inj chosen]
    exact scope.matching_isNamed f.rejectAny

/-- What a filter requires is named, whichever of its lists are given. -/
theorem positive?_isNamed {f : TagFilter} {scope : TagScope} {q : Query}
    (chosen : f.positive? scope = some q) : q.isNamed = true := by
  have rejected : ∀ q, f.rejected scope = some q → q.isNamed = true := fun _ => rejected_isNamed
  rw [positive?_eq] at chosen
  split at chosen
  · split at chosen
    · obtain ⟨other, same, rfl⟩ := Option.map_eq_some_iff.mp chosen
      refine allItems_isNamed ?_
      rintro q ⟨⟩
      exact rejected other same
    · rw [← Option.some.inj chosen]
      exact scope.withAny_isNamed _ rejected
  · split at chosen
    · rw [← Option.some.inj chosen]
      exact scope.withAll_isNamed _ rejected
    · rw [← Option.some.inj chosen, Query.isNamed, partsNamed_pair,
        scope.withAll_isNamed _ rejected, scope.withAny_isNamed _ TagScope.none_isNamed]
      rfl

theorem operand_isNamed {q : Query} (named : q.isNamed = true) : (operand q).isNamed = true := by
  unfold operand
  split
  · have columns : List.all [⟨.ref (.bare "item_id"), none⟩] Column.isNamed = true := by decide
    rw [Query.isNamed, columns, Source.isNamed, named]
    rfl
  · exact named

/-- What is required, without what is rejected, is named. -/
theorem minuend_isNamed (f : TagFilter) (least : Option Binary64) :
    (f.minuend least).isNamed = true := by
  unfold minuend
  cases positive : f.positive? (.of f least) with
  | none => exact allItems_isNamed TagScope.none_isNamed
  | some base => exact operand_isNamed (positive?_isNamed positive)

/-- The names in the query of a tag filter are plain. -/
theorem query?_isNamed {f : TagFilter} {least : Option Binary64} {q : Query}
    (chosen : f.query? least = some q) : q.isNamed = true := by
  rw [query?_eq] at chosen
  split at chosen
  · exact positive?_isNamed chosen
  · rw [← Option.some.inj chosen, Query.isNamed, partsNamed_pair, minuend_isNamed,
      TagScope.withAll_isNamed _ _ TagScope.none_isNamed]
    rfl

end TagFilter

/-! ### Chains -/

namespace Chain

theorem isPlain_kindName (kind : FilterKind) : isPlain kind.name = true := by
  cases kind <;> decide

/-- A number between plain names leaves the name of a stage plain. -/
theorem isPlain_keptStage (i : Nat) (kind : FilterKind) : isPlain (keptStage i kind) = true :=
  isPlain_append (isPlain_append (isPlain_append (by decide) (isPlain_toString i)) (by decide))
    (isPlain_kindName kind)

theorem isPlain_excludedStage (i : Nat) (kind : FilterKind) :
    isPlain (excludedStage i kind) = true :=
  isPlain_append (isPlain_append (isPlain_append (by decide) (isPlain_toString i)) (by decide))
    (isPlain_kindName kind)

theorem isPlain_rankColumn (rank : Rank) : isPlain rank.column = true := by
  cases rank <;> decide

/-- Whether all names in a chain are plain. -/
structure Named (chain : Chain) : Prop where
  stages : stagesNamed chain.stages = true
  result : isPlain chain.result = true
  ranks : ∀ r ∈ chain.ranks, isPlain r.stage = true

/-- The first stage is named if the tag query is. -/
theorem named_start {tags : Option Query} (plain : ∀ q, tags = some q → q.isNamed = true) :
    (start tags).Named where
  stages := by
    cases tags with
    | none => decide
    | some q =>
      have root : stagesNamed [(rootStage, rootQuery true)] = true := by decide
      have name : isPlain tagStage = true := by decide
      have first : stagesNamed [(tagStage, q)] = true := by
        rw [stagesNamed, name, plain q rfl]
        rfl
      exact stagesNamed_append first root
  result := by
    show isPlain rootStage = true
    decide
  ranks := nofun

/-- A kept filter adds a stage that is named. -/
theorem Named.keep {chain : Chain} (named : chain.Named) (f : Filter) :
    (chain.keep f).Named where
  stages := by
    refine stagesNamed_append named.stages ?_
    rw [stagesNamed, isPlain_keptStage, Filter.clause_isNamed named.result f]
    rfl
  result := isPlain_keptStage _ _
  ranks := by
    intro r present
    rcases List.mem_append.mp present with before | own
    · exact named.ranks r before
    · obtain ⟨rank, -, rfl⟩ := List.mem_map.mp own
      exact isPlain_keptStage _ _

theorem Named.foldl_keep {chain : Chain} (named : chain.Named) (filters : List Filter) :
    (filters.foldl Chain.keep chain).Named := by
  induction filters generalizing chain with
  | nil => exact named
  | cons f filters ih => exact ih (named.keep f)

theorem excludedStages_isNamed (i : Nat) (filters : List Filter) :
    stagesNamed (excludedStages i filters) = true := by
  have root : isPlain rootStage = true := by decide
  induction filters generalizing i with
  | nil => rfl
  | cons f filters ih =>
    rw [excludedStages, stagesNamed, isPlain_excludedStage, Filter.clause_isNamed root f, ih]
    rfl

theorem idsOf_isNamed {source : Source} (named : source.isNamed = true) :
    (idsOf source).isNamed = true := by
  have columns : List.all [⟨.ref (.bare "file_id"), none⟩, ⟨.ref (.bare "item_id"), none⟩]
      Column.isNamed = true := by decide
  rw [idsOf, Query.isNamed, columns, named]
  rfl

theorem without_isNamed {result : String} (plain : isPlain result = true) {others : List String}
    (names : ∀ name ∈ others, isPlain name = true) : (without result others).isNamed = true := by
  have stage {name : String} (plain : isPlain name = true) :
      (idsOf (.named name none)).isNamed = true :=
    idsOf_isNamed (Bool.and_eq_true_iff.mpr ⟨plain, rfl⟩)
  have united : (Source.query (.compound .union (others.map fun name =>
      idsOf (.named name none))) none).isNamed = true := by
    rw [Source.isNamed, Query.isNamed, Bool.and_eq_true]
    refine ⟨partsNamed_iff.mpr fun q present => ?_, rfl⟩
    obtain ⟨name, listed, rfl⟩ := List.mem_map.mp present
    exact stage (names name listed)
  rw [without, Query.isNamed, partsNamed, partsNamed, stage plain, idsOf_isNamed united]
  rfl

/-- Excluded filters add stages that are named. -/
theorem Named.exclude {chain : Chain} (named : chain.Named) (filters : List Filter) :
    (chain.exclude filters).Named := by
  unfold Chain.exclude
  -- these two are all that matters of the excluded stages
  have plain : ∀ name ∈ (excludedStages 0 filters).map (·.1), isPlain name = true := by
    intro name present
    obtain ⟨j, -, kind, rfl⟩ := eq_excludedStage_of_mem present
    exact isPlain_excludedStage j kind
  have added := excludedStages_isNamed 0 filters
  generalize excludedStages 0 filters = excluded at plain added
  cases excluded with
  | nil => exact named
  | cons first rest =>
    have remaining : isPlain remainingStage = true := by decide
    have last : stagesNamed [(remainingStage,
        without chain.result ((first :: rest).map (·.1)))] = true := by
      rw [stagesNamed, remaining, without_isNamed named.result plain]
      rfl
    exact ⟨stagesNamed_append (stagesNamed_append named.stages added) last, remaining,
      named.ranks⟩

/-- **The names in a chain are plain.** -/
theorem named_build {tags : Option Query} (plain : ∀ q, tags = some q → q.isNamed = true)
    (kept excluded : List Filter) : (build tags kept excluded).Named :=
  ((named_start plain).foldl_keep _).exclude _

/-- The columns of the ranks, read from their stages or from the result. -/
theorem Named.ranked_isNamed {chain : Chain} (named : chain.Named) :
    (chain.ranks.map (rankedResultColumn chain.result)).all Column.isNamed = true := by
  refine List.all_eq_true.mpr fun c present => ?_
  obtain ⟨r, listed, rfl⟩ := List.mem_map.mp present
  have stage : isPlain (if r.stage = chain.result then "result" else r.stage) = true := by
    split
    · decide
    · exact named.ranks r listed
  have column := isPlain_rankColumn r.rank
  exact Bool.and_eq_true_iff.mpr
    ⟨isPlain_append (isPlain_append stage (by decide)) column, column⟩

/-- The joins of the stages that rank. -/
theorem Named.rankJoins_isNamed {chain : Chain} (named : chain.Named) :
    (chain.ranks.flatMap (rankJoin chain.result)).all Join.isNamed = true := by
  refine List.all_eq_true.mpr fun j present => ?_
  obtain ⟨r, listed, part⟩ := List.mem_flatMap.mp present
  unfold rankJoin at part
  -- the stage that is read already is not joined
  split at part
  · cases part
  · obtain rfl := List.mem_singleton.mp part
    have stage := named.ranks r listed
    have file : isPlain "file_id" = true := by decide
    have left : Expr.isNamed (.ref (.of r.stage "file_id")) = true :=
      isPlain_append (isPlain_append stage (by decide)) file
    have right : Expr.isNamed (.ref (.of "result" "file_id")) = true := by decide
    rw [Join.isNamed, stage, left, right]
    rfl

/-- The query that reads a named chain is named. -/
theorem Named.body_isNamed {chain : Chain} (named : chain.Named) : chain.body.isNamed = true := by
  have own : resultColumns.all Column.isNamed = true := by decide
  have fixed : List.all [⟨"files", none, .ref (.of "files" "id"), .ref (.of "result" "file_id")⟩,
      ⟨"items", none, .ref (.of "items" "id"), .ref (.of "result" "item_id")⟩]
      Join.isNamed = true := by decide
  have source : (Source.named chain.result (some "result")).isNamed = true :=
    Bool.and_eq_true_iff.mpr ⟨named.result, by decide⟩
  rw [body, Query.isNamed, named.stages, Query.isNamed, List.all_append, own,
    named.ranked_isNamed, source, List.all_append, fixed, named.rankJoins_isNamed]
  rfl

end Chain

/-! ### Statements -/

theorem countRows_isNamed {q : Query} (named : q.isNamed = true) :
    (countRows q).isNamed = true := by
  have columns : List.all [⟨.countAll, some "total"⟩] Column.isNamed = true := by decide
  rw [countRows, Query.isNamed, columns, Source.isNamed, named]
  rfl

theorem ResolvedOrder.keys_isNamed (order : ResolvedOrder) :
    order.keys.all (fun (e, _) => e.isNamed) = true := by
  obtain ⟨orderBy, direction⟩ := order
  have file : (Expr.ref (.of "result" "file_id")).isNamed = true := by decide
  have target : (Expr.ref orderBy.target).isNamed = true := by
    cases orderBy with
    | lastModified | path => decide
    | rank r => exact Chain.isPlain_rankColumn r
  simp [keys, file, target]

namespace Settings

/-- The chain of any criteria is named. -/
theorem chain_named (settings : Settings) (criteria : Criteria) :
    (settings.chain criteria).Named :=
  Chain.named_build (fun _ => TagFilter.query?_isNamed) _ _

/-- The statements a request is compiled to. -/
def statements (settings : Settings) (request : Request) : CompiledSearch :=
  let chain := settings.chain request.criteria
  let order := ResolvedOrder.resolve request.paging.orderBy request.paging.direction chain.active
  let (limit, offset) := settings.window request.paging
  { count := countRows chain.body
    fetch := .page chain.body order.keys limit offset
    order, limit, offset }

/-- Both statements of a request are balanced. -/
theorem balanced_statements (settings : Settings) (request : Request) :
    (settings.statements request).count.fragment.Balanced
      ∧ (settings.statements request).fetch.fragment.Balanced := by
  have body := (settings.chain_named request.criteria).body_isNamed
  -- the page and its window change neither names nor balance
  have fetch (order : ResolvedOrder) (limit offset : Int64) :
      ((settings.chain request.criteria).body.page order.keys limit offset).isNamed = true := by
    rw [Query.isNamed, body, order.keys_isNamed]
    rfl
  exact ⟨balanced_of_isNamed _ (countRows_isNamed body), balanced_of_isNamed _ (fetch _ _ _)⟩

/-- **Compiling a request never fails.** -/
theorem compile_eq_ok (settings : Settings) (request : Request) :
    settings.compile request = .ok (settings.statements request) := by
  obtain ⟨count, fetch⟩ := settings.balanced_statements request
  have checkCount := count.checkArity
  have checkFetch := fetch.checkArity
  unfold statements at checkCount checkFetch
  unfold compile
  simp only [checkCount, checkFetch]
  rfl

end Settings

namespace ItemRule

/-- The statement of a rule is balanced. -/
theorem balanced_query (rule : ItemRule) : rule.query.fragment.Balanced := by
  have chain : (Chain.build none rule.positive rule.negative).Named :=
    Chain.named_build TagScope.none_isNamed _ _
  have column : List.all [⟨.ref (.of "result" "item_id"), some "item_id"⟩] Column.isNamed
      = true := by decide
  have source : (Source.named (Chain.build none rule.positive rule.negative).result
      (some "result")).isNamed = true :=
    Bool.and_eq_true_iff.mpr ⟨chain.result, by decide⟩
  refine balanced_of_isNamed _ ?_
  rw [query, Query.isNamed, chain.stages, Query.isNamed, column, source]
  rfl

/-- **Compiling a rule never fails.** -/
theorem compile_eq_ok (rule : ItemRule) : rule.compile = .ok rule.query.fragment := by
  rw [compile, rule.balanced_query.checkArity]
  rfl

end ItemRule

end MediaSearch
