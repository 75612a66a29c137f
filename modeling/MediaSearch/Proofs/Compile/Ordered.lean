/-
MediaSearch/Proofs/Compile/Ordered.lean

What a search is ordered by is there.

Four tables have to agree: the rank that a kind of filter gives, the column
that its stage selects, the order that a request asks for, and the stages
that the outer `SELECT` joins.  A rank can only be ordered by if a filter of
its kind is kept (`ResolvedOrder.mem_active`); that filter has one stage,
which selects the column of the rank (`Filter.labels_clause`); and the outer
`SELECT` reads it from there under the same name (`readsRank_build`).  No two
kept filters of a request are of one kind, so no name is there twice.

Main result: `Settings.compile_ordered`.
-/
import MediaSearch.Proofs.Chain.Layout
import MediaSearch.Proofs.Compile.Named

namespace MediaSearch

open Sql

/-! ### Ranks -/

/-- Ranks have different columns. -/
theorem Rank.column_injective : Function.Injective Rank.column := by
  intro r s same
  cases r <;> cases s <;> first | rfl | exact absurd same (by decide)

/-- The columns that the stage of a filter selects: those of all stages, and
that of its rank. -/
theorem Filter.labels_clause (f : Filter) (upstream : String) :
    ∃ inner, f.clause upstream = .select inner
      ∧ inner.columns.map (·.label)
        = [some "file_id", some "item_id"] ++ f.kind.rank?.toList.map (some ·.column) := by
  cases f <;> exact ⟨_, rfl, rfl⟩

/-- A set has no more than one filter of a kind. -/
theorem FilterSet.kinds_toList {α : Type} (wrap : α → Filter) (kind : FilterKind)
    (same : ∀ f, (wrap f).kind = kind) (f : Option α) :
    ((f.map wrap).toList.map Filter.kind).Sublist [kind] := by
  cases f with
  | none => exact List.nil_sublist _
  | some f =>
    show [(wrap f).kind].Sublist [kind]
    rw [same f]

/-- A request has at most one filter of each kind. -/
theorem FilterSet.nodup_kinds (s : FilterSet) : (s.toList.map Filter.kind).Nodup := by
  -- the list has the kinds in a fixed order, and each of them at most once
  have among : (s.toList.map Filter.kind).Sublist
      ([.files] ++ [.bookmarks] ++ [.pathText] ++ [.extractedText] ++ [.anyText]
        ++ [.extractedTextEmbeddings] ++ [.imageEmbeddings] ++ [.itemSimilarity]) := by
    simp only [toList, List.map_append]
    refine .append (.append (.append (.append (.append (.append (.append ?_ ?_) ?_) ?_) ?_) ?_)
      ?_) ?_
    · exact kinds_toList .files .files (fun _ => rfl) s.files
    · exact kinds_toList .bookmarks .bookmarks (fun _ => rfl) s.bookmarks
    · exact kinds_toList .pathText .pathText (fun _ => rfl) s.pathText
    · exact kinds_toList .extractedText .extractedText (fun _ => rfl) s.extractedText
    · exact kinds_toList .anyText .anyText (fun _ => rfl) s.anyText
    · exact kinds_toList .extractedTextEmbeddings .extractedTextEmbeddings (fun _ => rfl)
        s.extractedTextEmbeddings
    · exact kinds_toList .imageEmbeddings .imageEmbeddings (fun _ => rfl) s.imageEmbeddings
    · exact kinds_toList .itemSimilarity .itemSimilarity (fun _ => rfl) s.itemSimilarity
  exact among.nodup (by decide)

/-- Filters of different kinds give different ranks. -/
theorem nodup_ranks {filters : List Filter} (kinds : (filters.map Filter.kind).Nodup) :
    (filters.filterMap fun f => f.kind.rank?).Nodup := by
  have ranks : (filters.map Filter.kind).filterMap FilterKind.rank?
      = filters.filterMap fun f => f.kind.rank? := List.filterMap_map
  rw [← ranks]
  refine kinds.filterMap fun k l r given also => ?_
  exact ((FilterKind.rank?_eq_some_iff k r).mp given).symm.trans
    ((FilterKind.rank?_eq_some_iff l r).mp also)

/-! ### Orders -/

namespace ResolvedOrder

variable {requested : Option OrderBy} {direction : Option SortDirection}
  {active : List FilterKind} {r : Rank}

/-- A rank can be ordered by only if a filter that gives it is active. -/
theorem kind_mem_of_isActive (isActive : (OrderBy.rank r).isActive active = true) :
    r.kind ∈ active := by
  simpa [OrderBy.isActive, OrderBy.source] using isActive

/-- A rank that a search is ordered by is one of an active filter, whether it
was asked for or not. -/
theorem mem_active (resolved : (resolve requested direction active).orderBy = .rank r) :
    r.kind ∈ active := by
  unfold resolve at resolved
  -- an order that is asked for has been checked, and one that is preferred was found
  cases requested with
  | some order =>
    simp only at resolved
    split at resolved
    · next isActive =>
      obtain rfl : order = .rank r := resolved
      exact kind_mem_of_isActive isActive
    · exact nomatch resolved
  | none =>
    have preferred : preferred active = .rank r := resolved
    unfold ResolvedOrder.preferred at preferred
    split at preferred
    · next other found =>
      obtain rfl := OrderBy.rank.inj preferred
      simpa using List.find?_some found
    · exact nomatch preferred

/-- A rank that is asked for in vain gives the default order, whatever the
direction was to be. -/
theorem resolve_inactive (inactive : r.kind ∉ active) :
    resolve (some (.rank r)) direction active = ⟨.lastModified, .descending⟩ := by
  have off : ¬(OrderBy.rank r).isActive active = true := fun isActive =>
    inactive (kind_mem_of_isActive isActive)
  rw [resolve, if_neg off]
  rfl

end ResolvedOrder

/-! ### The outer query -/

namespace Sql

/-- The tables and stages that a `SELECT` reads, after the names that they
have there. -/
def Select.bound (clauses : Select Condition Source) : List (String × String) :=
  (match clauses.source with
    | .named name label => [(label.getD name, name)]
    | .query _ _ => [])
  ++ clauses.joins.map fun j => (j.label.getD j.table, j.table)

end Sql

/-- A `SELECT` over stages reads a rank from the stage of a filter: a column
with the name of the rank is that of the same name in the stage. -/
structure ReadsRank (stages : List (String × Query)) (clauses : Select Condition Source)
    (f : Filter) (rank : Rank) : Prop where
  gives : f.kind.rank? = some rank
  selected : ∀ upstream, ∃ inner, f.clause upstream = .select inner
    ∧ inner.columns.map (·.label) = [some "file_id", some "item_id", some rank.column]
  read : ∃ label stage upstream,
    ⟨.ref (.of label rank.column), some rank.column⟩ ∈ clauses.columns
      ∧ (label, stage) ∈ clauses.bound
      ∧ (stage, f.clause upstream) ∈ stages

/-- What a `SELECT` over stages can be sorted by: a column of the table of
files, or a rank that it reads from the stage of one of the filters. -/
inductive CanSortBy (stages : List (String × Query)) (clauses : Select Condition Source)
    (filters : List Filter) : Ref → Prop where
  | file {column : String} (joined : ("files", "files") ∈ clauses.bound)
      (table : "files" ∉ stages.map (·.1))
      (there : ∀ lib : Library, column ∈ (lib.tables.relation "files").columns) :
      CanSortBy stages clauses filters (.of "files" column)
  | rank {f : Filter} {rank : Rank} (kept : f ∈ filters)
      (reads : ReadsRank stages clauses f rank) :
      CanSortBy stages clauses filters (.bare rank.column)

namespace Chain

/-- The outer `SELECT` of a body. -/
def clauses (chain : Chain) : Select Condition Source where
  columns := resultColumns ++ chain.ranks.map (rankedResultColumn chain.result)
  source := .named chain.result (some "result")
  joins :=
    [⟨"files", none, .ref (.of "files" "id"), .ref (.of "result" "file_id")⟩,
      ⟨"items", none, .ref (.of "items" "id"), .ref (.of "result" "item_id")⟩]
    ++ chain.ranks.flatMap (rankJoin chain.result)

theorem body_eq (chain : Chain) :
    chain.body = .withStages chain.stages (.select chain.clauses) := rfl

/-- What a body reads: the last stage, the file and its item, and the other
stages that rank. -/
theorem bound_clauses (chain : Chain) :
    chain.clauses.bound = [("result", chain.result), ("files", "files"), ("items", "items")]
      ++ (chain.ranks.filter (·.stage ≠ chain.result)).map fun r => (r.stage, r.stage) := by
  have joined (ranks : List RankedStage) :
      (ranks.flatMap (rankJoin chain.result)).map (fun j => (j.label.getD j.table, j.table))
        = (ranks.filter (·.stage ≠ chain.result)).map fun r => (r.stage, r.stage) := by
    induction ranks with
    | nil => rfl
    | cons r ranks ih =>
      rw [List.flatMap_cons, List.map_append, ih, rankJoin]
      by_cases own : r.stage = chain.result <;> simp [own]
  simp [clauses, Select.bound, joined]

/-- The labels of the columns of results, with those of the ranks at the end. -/
theorem labels_clauses (chain : Chain) :
    chain.clauses.columns.map (·.label)
      = [some "path", some "sha256", some "last_modified", some "mime_type"]
        ++ (chain.ranks.map (·.rank)).map (some ·.column) := by
  simp [clauses, resultColumns, rankedResultColumn]

/-- The column of a stage that ranks reads this stage. -/
theorem mem_bound_of_rank {chain : Chain} {r : RankedStage} (present : r ∈ chain.ranks) :
    ∃ label, ⟨.ref (.of label r.rank.column), some r.rank.column⟩ ∈ chain.clauses.columns
      ∧ (label, r.stage) ∈ chain.clauses.bound := by
  refine ⟨if r.stage = chain.result then "result" else r.stage,
    List.mem_append_right _ (List.mem_map_of_mem present), ?_⟩
  rw [bound_clauses]
  -- the last stage is read under another name, and it is not joined again
  by_cases own : r.stage = chain.result
  · rw [if_pos own, own]
    exact List.mem_cons_self
  · rw [if_neg own]
    have other : r ∈ chain.ranks.filter (·.stage ≠ chain.result) :=
      List.mem_filter.mpr ⟨present, decide_eq_true own⟩
    exact List.mem_append_right _ (List.mem_map_of_mem other)

section Build

variable (tags : Option Query) (kept excluded : List Filter)

theorem mem_bound_files : ("files", "files") ∈ (build tags kept excluded).clauses.bound := by
  rw [bound_clauses]
  exact List.mem_append_left _ (by simp)

/-- A kept filter that ranks is read from its stage. -/
theorem readsRank_build {f : Filter} (present : f ∈ kept.filter Filter.isValid) {rank : Rank}
    (gives : f.kind.rank? = some rank) :
    ReadsRank (build tags kept excluded).stages (build tags kept excluded).clauses f rank where
  gives := gives
  selected upstream := by
    obtain ⟨inner, same, labels⟩ := f.labels_clause upstream
    rw [gives] at labels
    exact ⟨inner, same, labels⟩
  read := by
    obtain ⟨r, listed, rfl, upstream, staged⟩ := exists_rankedStage present gives 0 rootStage
    have ranked : r ∈ (build tags kept excluded).ranks := by
      rw [build_eq]
      exact listed
    obtain ⟨label, column, bound⟩ := mem_bound_of_rank ranked
    refine ⟨label, r.stage, upstream, column, bound, ?_⟩
    rw [build_eq]
    exact List.mem_append_left _ (List.mem_append_right _ staged)

/-- The stages that rank are stages of kept filters. -/
theorem exists_keptStage_of_rank {r : RankedStage}
    (present : r ∈ (build tags kept excluded).ranks) : ∃ j kind, r.stage = keptStage j kind := by
  rw [build_eq] at present
  have among := (keptRanks_sublist 0 rootStage (kept.filter Filter.isValid)).subset
    (List.mem_map_of_mem present)
  obtain ⟨j, -, kind, same⟩ := exists_of_mem_keptStages among
  exact ⟨j, kind, same⟩

/-- No two things that a body reads have one name. -/
theorem nodup_bound_build : ((build tags kept excluded).clauses.bound.map (·.1)).Nodup := by
  have names : ((build tags kept excluded).ranks.map (·.stage)).Nodup := by
    rw [build_eq]
    exact (keptRanks_sublist 0 rootStage _).nodup (nodup_keptStages _ _ _)
  rw [bound_clauses, List.map_append, List.map_map]
  have first : ["result", "files", "items"].Nodup := by decide
  refine first.append (names.sublist (List.filter_sublist.map _)) fun name fixed own => ?_
  obtain ⟨r, ranked, rfl⟩ := List.mem_map.mp own
  obtain ⟨j, kind, same⟩ :=
    exists_keptStage_of_rank tags kept excluded (List.mem_filter.mp ranked).1
  have known : ∀ n ∈ ["result", "files", "items"], n ∈ fixedNames := by decide
  exact keptStage_notMem_fixedNames j kind (same ▸ known _ fixed)

/-- A body reads no stage of an excluded filter. -/
theorem excludedStage_notMem_bound {i : Nat} {others : List Filter} {name : String}
    (present : name ∈ (excludedStages i others).map (·.1)) :
    name ∉ (build tags kept excluded).clauses.bound.map (·.2) := by
  intro read
  rw [bound_clauses, List.map_append, List.map_map] at read
  -- what is read are the result, two tables and the stages that rank
  rcases List.mem_append.mp read with fixed | own
  · simp only [List.map_cons, List.map_nil, List.mem_cons, List.not_mem_nil, or_false] at fixed
    rcases fixed with rfl | rfl | rfl
    · exact result_build_notMem tags kept excluded i others present
    · exact notMem_excludedStages_of_fixed (by decide) present
    · exact notMem_excludedStages_of_fixed (by decide) present
  · obtain ⟨r, ranked, rfl⟩ := List.mem_map.mp own
    obtain ⟨j, kind, same⟩ :=
      exists_keptStage_of_rank tags kept excluded (List.mem_filter.mp ranked).1
    exact keptStage_notMem_excludedStages j i kind others (same ▸ present)

end Build

end Chain

/-! ### Requests -/

/-- The names of the columns of a search: those of a file and those of ranks,
none of which is there twice. -/
theorem FilterSet.nodup_labels (s : FilterSet) :
    ([some "path", some "sha256", some "last_modified", some "mime_type"]
      ++ ((s.toList.filter Filter.isValid).filterMap fun f => f.kind.rank?).map
        (some ·.column)).Nodup := by
  have kinds : ((s.toList.filter Filter.isValid).map Filter.kind).Nodup :=
    (List.filter_sublist.map _).nodup s.nodup_kinds
  have injective : Function.Injective fun r : Rank => some r.column := fun r s same =>
    Rank.column_injective (Option.some.inj same)
  have columns := (nodup_ranks kinds).map injective
  have first : [some "path", some "sha256", some "last_modified", some "mime_type"].Nodup := by
    decide
  refine first.append columns fun label fixed own => ?_
  -- no rank has the label of a column of files or items
  obtain ⟨rank, -, rfl⟩ := List.mem_map.mp own
  revert fixed
  cases rank <;> decide

namespace Settings

/-- The kinds that are active are those of the kept filters. -/
theorem active_chain (settings : Settings) (criteria : Criteria) :
    (settings.chain criteria).active
      = (criteria.filters.toList.filter Filter.isValid).map Filter.kind :=
  congrArg Chain.active (Chain.build_eq _ _ _)

/-- The order of a request can be sorted by. -/
theorem canSortBy_statements (settings : Settings) (request : Request) :
    let chain := settings.chain request.criteria
    CanSortBy chain.stages chain.clauses (request.criteria.filters.toList.filter Filter.isValid)
      (settings.statements request).order.orderBy.target := by
  intro chain
  have joined : ("files", "files") ∈ chain.clauses.bound := Chain.mem_bound_files _ _ _
  have table : "files" ∉ chain.stages.map (·.1) :=
    Chain.table_notMem_stages _ _ _ (by decide)
  -- a column of files is there anyway, and a rank has an active filter that gives it
  cases resolved : (settings.statements request).order.orderBy with
  | lastModified => exact .file joined table fun lib => by rw [lib.shows_tables.files]; simp
  | path => exact .file joined table fun lib => by rw [lib.shows_tables.files]; simp
  | rank r =>
    have among : r.kind ∈ chain.active := ResolvedOrder.mem_active resolved
    rw [active_chain] at among
    obtain ⟨f, kept, kind⟩ := List.mem_map.mp among
    have gives : f.kind.rank? = some r := (FilterKind.rank?_eq_some_iff _ _).mpr kind.symm
    exact .rank kept (Chain.readsRank_build _ _ _ kept gives)

/-- **What a search is sorted by is there.**  It is a column of the files,
or the rank of a filter that is kept and valid, which the outer `SELECT`
reads from the stage of this filter.  Of these ranks it selects one column
each and of others none; no name of its columns, of what it reads or of a
stage is there twice, and no stage of an excluded filter is read.  A rank
without such a filter is not sorted by, but the time of modification. -/
theorem compile_ordered (settings : Settings) (request : Request) :
    let kept := request.criteria.filters.toList.filter Filter.isValid
    let excluded := Chain.excludedStages 0 (request.criteria.exclude.filter Filter.isValid)
    ∃ compiled stages clauses rest, settings.compile request = .ok compiled
      ∧ compiled.fetch = .page (.withStages stages (.select clauses))
        ((.ref compiled.order.orderBy.target, compiled.order.direction) :: rest)
        compiled.limit compiled.offset
      ∧ CanSortBy stages clauses kept compiled.order.orderBy.target
      ∧ (∀ f ∈ kept, ∀ rank, f.kind.rank? = some rank → ReadsRank stages clauses f rank)
      ∧ clauses.columns.map (·.label)
        = [some "path", some "sha256", some "last_modified", some "mime_type"]
          ++ (kept.filterMap fun f => f.kind.rank?).map (some ·.column)
      ∧ (clauses.columns.map (·.label)).Nodup
      ∧ (clauses.bound.map (·.1)).Nodup
      ∧ (stages.map (·.1)).Nodup
      ∧ (∀ stage ∈ excluded, stage ∈ stages ∧ stage.1 ∉ clauses.bound.map (·.2))
      ∧ ∀ rank, request.paging.orderBy = some (.rank rank) → (∀ f ∈ kept, f.kind ≠ rank.kind) →
        compiled.order = ⟨.lastModified, .descending⟩ := by
  intro kept excluded
  let chain := settings.chain request.criteria
  have ranks : chain.ranks.map (·.rank) = kept.filterMap fun f => f.kind.rank? := by
    rw [← Chain.map_rank_keptRanks 0]
    exact congrArg (fun c => c.ranks.map (·.rank)) (Chain.build_eq _ _ _)
  have labels := chain.labels_clauses
  rw [ranks] at labels
  refine ⟨_, chain.stages, chain.clauses, _, settings.compile_eq_ok request, rfl,
    settings.canSortBy_statements request,
    fun f present rank => Chain.readsRank_build _ _ _ present,
    labels, ?_, Chain.nodup_bound_build _ _ _, Chain.nodup_stages_build _ _ _, ?_, ?_⟩
  · rw [labels]
    exact request.criteria.filters.nodup_labels
  · intro stage present
    refine ⟨?_, Chain.excludedStage_notMem_bound _ _ _ (List.mem_map_of_mem present)⟩
    show stage ∈ (Chain.build _ _ _).stages
    rw [Chain.build_eq]
    exact List.mem_append_right _ (Chain.excludedStages_subset_closing _ _ present)
  · intro rank asked missing
    -- what no filter gives is not active, so the order falls back
    have inactive : rank.kind ∉ chain.active := by
      intro among
      rw [active_chain] at among
      obtain ⟨f, present, kind⟩ := List.mem_map.mp among
      exact missing f present kind
    show ResolvedOrder.resolve _ _ _ = _
    rw [asked]
    exact ResolvedOrder.resolve_inactive inactive

/-- A search that wants bookmarks in the order of another filter, which it
has only excluded. -/
def bookmarked : Request where
  criteria :=
    { filters := { bookmarks := some {}, pathText := some { expression := "dog" } }
      exclude := [.extractedText { expression := "cat" }] }
  paging := { orderBy := some (.rank .extractedText), direction := some .ascending }

/-- It is sorted by the time of modification, but selects both of its ranks. -/
theorem compile_ordered_bookmarked :
    ∃ compiled stages clauses rest, Settings.compile {} bookmarked = .ok compiled
      ∧ compiled.fetch = .page (.withStages stages (.select clauses))
        ((.ref (.of "files" "last_modified"), .descending) :: rest)
        compiled.limit compiled.offset
      ∧ clauses.columns.map (·.label)
        = [some "path", some "sha256", some "last_modified", some "mime_type",
          some "time_added", some "rank_path_fts"]
      ∧ ReadsRank stages clauses (.bookmarks {}) .timeAdded := by
  obtain ⟨compiled, stages, clauses, rest, ok, fetch, -, reads, labels, -, -, -, -, falls⟩ :=
    compile_ordered {} bookmarked
  have kept : bookmarked.criteria.filters.toList.filter Filter.isValid
      = [.bookmarks {}, .pathText { expression := "dog" }] := by decide
  rw [kept] at reads labels falls
  have order := falls .extractedText rfl (by decide)
  rw [order] at fetch
  exact ⟨compiled, stages, clauses, rest, ok, fetch, labels,
    reads _ List.mem_cons_self _ rfl⟩

end Settings

end MediaSearch
