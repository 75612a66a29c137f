/-
MediaSearch/Proofs/Chain/Graph.lean

Which stages of a chain read which.

The text of a query reads the stages that it names after `FROM` or `JOIN`.
Tables of a library have other names than stages, so what is left of the
tables that the query of a stage reads is the stage that it was made for
(`stagesRead_clause`), and the graph of a chain can be told from its filters
alone (`graphOf`): filters that are kept form a line that starts at `root`,
excluded ones hang on `root`, and `remaining` reads the end of the line and
all excluded ones.

Main result: `build_wellFormed`.
-/
import MediaSearch.Proofs.Chain.Words
import MediaSearch.Proofs.Tags.Folding

namespace MediaSearch.Chain

open Sql Library

/-! ### Graphs -/

/-- The stages of a chain that the text of a query names as tables, each
once. -/
def stagesRead (chain : Chain) (q : Query) : List String :=
  ((tablesIn q.fragment.text).filter (· ∈ chain.stages.map (·.1))).eraseDups

/-- The stages of a chain, each with the stages it reads. -/
def graph (chain : Chain) : List (String × List String) :=
  chain.stages.map fun (name, q) => (name, chain.stagesRead q)

/-- Whether each stage reads earlier ones only. -/
inductive Layered : List (String × List String) → Prop where
  | nil : Layered []
  | snoc {rows : List (String × List String)} {name : String} {reads : List String}
      (layered : Layered rows) (earlier : reads ⊆ rows.map (·.1)) :
      Layered (rows ++ [(name, reads)])

/-- The names of stages that are kept. -/
def keptNames (filters : List Filter) : List String :=
  filters.zipIdx.map fun (f, i) => keptStage i f.kind

/-- The names of stages that are excluded. -/
def excludedNames (filters : List Filter) : List String :=
  filters.zipIdx.map fun (f, i) => excludedStage i f.kind

/-- The last of the stages that are kept, or the one they start from. -/
def lastName (filters : List Filter) : String :=
  (keptNames filters).getLastD rootStage

/-- Stages each of which reads the one before it. -/
def line (upstream : String) (names : List String) : List (String × List String) :=
  names.zip ((upstream :: names).map fun name => [name])

/-- The graph of some filters, the stage of the tags coming first if there is
one. -/
def graphOf (tagged : List (String × List String)) (positive negative : List Filter) :
    List (String × List String) :=
  tagged
    ++ [(rootStage, tagged.map (·.1))]
    ++ line rootStage (keptNames positive)
    ++ (excludedNames negative).map (·, [rootStage])
    ++ if negative = [] then []
      else [(remainingStage, lastName positive :: excludedNames negative)]

/-- Whether a chain has the graph of some filters, with names of its own for
all stages, and tells the last stage, the kinds and the ranks of those that
are kept. -/
structure WellFormed (chain : Chain) (tags : Option Query) (positive negative : List Filter) :
    Prop where
  graph : chain.graph
    = graphOf (tags.toList.map fun q => (tagStage, chain.stagesRead q)) positive negative
  distinct : (chain.stages.map (·.1)).Nodup
  result : chain.result = if negative = [] then lastName positive else remainingStage
  active : chain.active = positive.map Filter.kind
  ranks : chain.ranks = positive.zipIdx.filterMap fun (f, i) =>
    f.kind.rank?.map (⟨·, keptStage i f.kind⟩)

/-! ### Names -/

theorem map_fst_keptStages (i : Nat) (upstream : String) (filters : List Filter) :
    (keptStages i upstream filters).map (·.1)
      = (filters.zipIdx i).map fun (f, i) => keptStage i f.kind := by
  induction filters generalizing i upstream with
  | nil => rfl
  | cons f filters ih => rw [keptStages, List.map_cons, ih, List.zipIdx_cons, List.map_cons]

theorem map_fst_excludedStages (i : Nat) (filters : List Filter) :
    (excludedStages i filters).map (·.1)
      = (filters.zipIdx i).map fun (f, i) => excludedStage i f.kind := by
  induction filters generalizing i with
  | nil => rfl
  | cons f filters ih => rw [excludedStages, List.map_cons, ih, List.zipIdx_cons, List.map_cons]

theorem lastStage_eq (i : Nat) (upstream : String) (filters : List Filter) :
    lastStage i upstream filters
      = ((filters.zipIdx i).map fun (f, i) => keptStage i f.kind).getLastD upstream := by
  induction filters generalizing i upstream with
  | nil => rfl
  | cons f filters ih =>
    rw [lastStage, ih, List.zipIdx_cons, List.map_cons, List.getLastD_cons]

/-- The stages that rank are those of the filters that give a rank, in their order. -/
theorem keptRanks_eq (i : Nat) (filters : List Filter) :
    keptRanks i filters = (filters.zipIdx i).filterMap fun (f, i) =>
      f.kind.rank?.map (⟨·, keptStage i f.kind⟩) := by
  induction filters generalizing i with
  | nil => rfl
  | cons f filters ih =>
    rw [keptRanks, ih, List.zipIdx_cons]
    cases rank : f.kind.rank? <;> simp [rank]

/-- The last stage is one of the kept ones, or `root` if there is none. -/
theorem lastName_mem (filters : List Filter) :
    lastName filters ∈ rootStage :: keptNames filters :=
  List.getLastD_mem_cons

theorem closingStages_eq (result : String) (filters : List Filter) :
    closingStages result filters = excludedStages 0 filters
      ++ if filters = [] then []
        else [(remainingStage, without result (excludedNames filters))] := by
  cases filters with
  | nil => rfl
  | cons f filters =>
    have names := map_fst_excludedStages 0 (f :: filters)
    rw [if_neg (List.cons_ne_nil f filters), excludedNames, ← names]
    rfl

/-! ### Layers -/

namespace Layered

variable {rows more : List (String × List String)}

/-- Stages that read what is there already. -/
theorem append (layered : Layered rows) (earlier : ∀ row ∈ more, row.2 ⊆ rows.map (·.1)) :
    Layered (rows ++ more) := by
  induction more generalizing rows with
  | nil => rwa [List.append_nil]
  | cons row more ih =>
    rw [List.forall_mem_cons] at earlier
    rw [List.append_cons]
    apply ih (layered.snoc earlier.1)
    intro other present
    rw [List.map_append]
    exact List.Subset.trans (earlier.2 other present) (List.subset_append_left _ _)

/-- Stages in a line, each of which reads the one before it, can be added
after any stage. -/
theorem append_line (layered : Layered rows) {upstream : String}
    (present : upstream ∈ rows.map (·.1)) (names : List String) :
    Layered (rows ++ line upstream names) := by
  induction names generalizing rows upstream with
  | nil => exact (List.append_nil rows).symm ▸ layered
  | cons name names ih =>
    have first : Layered (rows ++ [(name, [upstream])]) :=
      layered.snoc (List.cons_subset.mpr ⟨present, List.nil_subset _⟩)
    have own : name ∈ (rows ++ [(name, [upstream])]).map (·.1) := by simp
    show Layered (rows ++ (name, [upstream]) :: line name names)
    rw [List.append_cons]
    exact ih first own

end Layered

theorem map_fst_line (upstream : String) (names : List String) :
    (line upstream names).map (·.1) = names :=
  List.map_fst_zip (by simp)

/-- **The graph of filters has layers** if the stage of the tags reads no
other. -/
theorem layered_graphOf {tagged : List (String × List String)} (layered : Layered tagged)
    (positive negative : List Filter) : Layered (graphOf tagged positive negative) := by
  have root : rootStage ∈ (tagged ++ [(rootStage, tagged.map (·.1))]).map (·.1) := by simp
  have first := (layered.snoc (List.Subset.refl _)).append_line root (keptNames positive)
  -- excluded stages read `root`, and `remaining` reads the last kept stage and all of these
  refine (first.append ?_).append ?_
  · intro row present
    obtain ⟨name, -, rfl⟩ := List.mem_map.mp present
    rw [List.map_append]
    exact List.cons_subset.mpr ⟨List.mem_append_left _ root, List.nil_subset _⟩
  · intro row present
    split at present
    · cases present
    · obtain rfl := List.mem_singleton.mp present
      rw [List.map_append, List.map_append, map_fst_line, List.cons_subset]
      constructor
      · -- the last stage is one of the line, or where it starts
        apply List.mem_append_left
        rcases List.mem_cons.mp (lastName_mem positive) with same | own
        · exact List.mem_append_left _ (same ▸ root)
        · exact List.mem_append_right _ own
      · refine List.Subset.trans ?_ (List.subset_append_right _ _)
        simp [Function.comp_def]

/-! ### What stages read -/

theorem eraseDups_eq_singleton {xs : List String} {x : String} (present : x ∈ xs)
    (only : ∀ y ∈ xs, y = x) : xs.eraseDups = [x] := by
  cases xs with
  | nil => cases present
  | cons y ys =>
    obtain rfl := only y List.mem_cons_self
    have others : ys.filter (fun z => !z == y) = [] := by
      rw [List.filter_eq_nil_iff]
      intro z later
      simp [only z (List.mem_cons_of_mem y later)]
    rw [List.eraseDups_cons, others]
    rfl

section Reads

variable {chain : Chain} (apart : ∀ name ∈ tableNames, name ∉ chain.stages.map (·.1))

/-- Stages that are read once each. -/
theorem stagesRead_of_nodup {q : Query} (within : Within (chain.stages.map (·.1)) q.names q.reads)
    (distinct : q.reads.Nodup) : chain.stagesRead q = q.reads := by
  have all : q.reads.filter (· ∈ chain.stages.map (·.1)) = q.reads := by
    rw [List.filter_eq_self]
    intro name read
    exact decide_eq_true (within.reads read)
  rw [stagesRead, within.tablesIn_eq, all, TagFilter.eraseDups_of_nodup distinct]

include apart

/-- Tables of a library are no stages. -/
theorem stagesRead_of_tables {q : Query} (within : Within tableNames q.names q.reads) :
    chain.stagesRead q = [] := by
  have none : q.reads.filter (· ∈ chain.stages.map (·.1)) = [] := by
    rw [List.filter_eq_nil_iff]
    intro name read
    exact mt of_decide_eq_true (apart name (within.reads read))
  rw [stagesRead, within.tablesIn_eq, none]
  rfl

/-- Where one stage is read, it may be read more than once. -/
theorem stagesRead_eq_singleton {q : Query} {upstream : String}
    (within : Within (upstream :: tableNames) q.names q.reads) (reads : upstream ∈ q.reads)
    (listed : upstream ∈ chain.stages.map (·.1)) : chain.stagesRead q = [upstream] := by
  rw [stagesRead, within.tablesIn_eq]
  apply eraseDups_eq_singleton
  · exact List.mem_filter.mpr ⟨reads, decide_eq_true listed⟩
  · intro name read
    obtain ⟨read, staged⟩ := List.mem_filter.mp read
    rcases List.mem_cons.mp (within.reads read) with same | table
    · exact same
    · exact absurd (of_decide_eq_true staged) (apart name table)

/-- **The stage of a filter reads the one it was made for.** -/
theorem stagesRead_clause {f : Filter} (valid : f.isValid = true) {upstream : String}
    (word : isWord upstream = true) (listed : upstream ∈ chain.stages.map (·.1)) :
    chain.stagesRead (f.clause upstream) = [upstream] :=
  stagesRead_eq_singleton apart (f.clause_within word) (f.upstream_mem_reads valid upstream)
    listed

/-- The first stage reads that of the tag query, if there is one. -/
theorem stagesRead_rootQuery (tagged : Bool)
    (listed : tagged = true → tagStage ∈ chain.stages.map (·.1)) :
    chain.stagesRead (rootQuery tagged) = if tagged then [tagStage] else [] := by
  cases tagged with
  | false => exact stagesRead_of_tables apart (by decide)
  | true => exact stagesRead_eq_singleton apart (by decide) (by decide) (listed rfl)

/-- Each kept stage reads the one before it and nothing else of the chain. -/
theorem map_keptStages {filters : List Filter} (valid : ∀ f ∈ filters, f.isValid = true) {i : Nat}
    {upstream : String} (word : isWord upstream = true)
    (listed : upstream :: (keptStages i upstream filters).map (·.1) ⊆ chain.stages.map (·.1)) :
    ((keptStages i upstream filters).map fun (name, q) => (name, chain.stagesRead q))
      = line upstream ((keptStages i upstream filters).map (·.1)) := by
  induction filters generalizing i upstream with
  | nil => rfl
  | cons f filters ih =>
    rw [List.forall_mem_cons] at valid
    rw [List.cons_subset] at listed
    -- a stage is read by the one after it
    have first := stagesRead_clause apart valid.1 word listed.1
    have rest := ih valid.2 (isWord_keptStage i f.kind) listed.2
    rw [keptStages, List.map_cons, rest, List.map_cons]
    dsimp only
    rw [first]
    rfl

/-- Each excluded stage reads `root` and nothing else of the chain. -/
theorem map_excludedStages {filters : List Filter} (valid : ∀ f ∈ filters, f.isValid = true)
    (listed : rootStage ∈ chain.stages.map (·.1)) (i : Nat) :
    ((excludedStages i filters).map fun (name, q) => (name, chain.stagesRead q))
      = ((excludedStages i filters).map (·.1)).map (·, [rootStage]) := by
  induction filters generalizing i with
  | nil => rfl
  | cons f filters ih =>
    rw [List.forall_mem_cons] at valid
    have first := stagesRead_clause apart valid.1 isWord_rootStage listed
    rw [excludedStages, List.map_cons, ih valid.2 (i + 1), List.map_cons, List.map_cons]
    dsimp only
    rw [first]

end Reads

theorem reads_without (result : String) (others : List String) :
    (without result others).reads = result :: others := by
  simp [without, idsOf, Query.reads, partReads, Source.reads, conditionReads, partReads_eq_flatMap,
    List.flatMap_map]

/-! ### Chains laid out -/

/-- Whether a chain has the stages of valid filters, no two of one name and
none with the name of a table. -/
structure LaidOut (chain : Chain) (tags : Option Query) (positive negative : List Filter) :
    Prop where
  stages : chain.stages = (start tags).stages ++ keptStages 0 rootStage positive
    ++ closingStages (lastName positive) negative
  distinct : (chain.stages.map (·.1)).Nodup
  apart : ∀ name ∈ tableNames, name ∉ chain.stages.map (·.1)
  positive : ∀ f ∈ positive, f.isValid = true
  negative : ∀ f ∈ negative, f.isValid = true

namespace LaidOut

variable {chain : Chain} {tags : Option Query} {positive negative : List Filter}

/-- The names of the stages, from first to last. -/
theorem map_fst_stages (laid : chain.LaidOut tags positive negative) :
    chain.stages.map (·.1)
      = (tags.toList.map fun _ => tagStage) ++ (rootStage :: keptNames positive)
        ++ excludedNames negative ++ if negative = [] then [] else [remainingStage] := by
  rw [laid.stages, closingStages_eq, List.map_append, List.map_append, List.map_append,
    names_start, map_fst_keptStages, map_fst_excludedStages, apply_ite (List.map _)]
  simp [keptNames, excludedNames]

theorem map_start (laid : chain.LaidOut tags positive negative) :
    ((start tags).stages.map fun (name, q) => (name, chain.stagesRead q))
      = (tags.toList.map fun q => (tagStage, chain.stagesRead q))
        ++ [(rootStage, (tags.toList.map fun q => (tagStage, chain.stagesRead q)).map (·.1))] := by
  have root := stagesRead_rootQuery laid.apart tags.isSome fun given => by
    obtain ⟨q, rfl⟩ := Option.isSome_iff_exists.mp given
    rw [laid.map_fst_stages]
    simp
  cases tags with
  | none => simpa [start] using root
  | some q => simpa [start] using root

/-- The stage `remaining` reads the last kept stage and all excluded ones. -/
theorem stagesRead_without (laid : chain.LaidOut tags positive negative) :
    chain.stagesRead (without (lastName positive) (excludedNames negative))
      = lastName positive :: excludedNames negative := by
  have last := lastName_mem positive
  have names := laid.map_fst_stages
  have distinct := laid.distinct
  rw [names] at distinct
  obtain ⟨-, others, apart⟩ := List.nodup_append'.mp (List.nodup_append'.mp distinct).1
  have listed : lastName positive :: excludedNames negative ⊆ chain.stages.map (·.1) := by
    rw [names, List.cons_subset]
    exact ⟨List.mem_append_left _ (List.mem_append_left _ (List.mem_append_right _ last)),
      List.Subset.trans (List.subset_append_right _ _) (List.subset_append_left _ _)⟩
  have words : AllWords (lastName positive :: excludedNames negative) := by
    have own := isWord_lastStage 0 positive
    have rest := allWords_excludedStages 0 negative
    rw [lastStage_eq] at own
    rw [map_fst_excludedStages] at rest
    exact allWords_cons.mpr ⟨own, rest⟩
  rw [stagesRead_of_nodup ((within_without words).mono listed), reads_without]
  rw [reads_without, List.nodup_cons]
  -- the last kept stage is no excluded one, so nothing is read twice
  exact ⟨fun again => apart (List.mem_append_right _ last) again, others⟩

/-- **The graph of a chain is that of its filters.** -/
theorem graph_eq (laid : chain.LaidOut tags positive negative) :
    chain.graph
      = graphOf (tags.toList.map fun q => (tagStage, chain.stagesRead q)) positive negative := by
  -- the kept stages and what they start from are stages of the chain
  have listed : rootStage :: (keptStages 0 rootStage positive).map (·.1)
      ⊆ chain.stages.map (·.1) := by
    rw [laid.map_fst_stages, map_fst_keptStages, List.append_assoc, List.append_assoc]
    exact List.Subset.trans (List.subset_append_left _ _) (List.subset_append_right _ _)
  have kept := map_keptStages laid.apart laid.positive isWord_rootStage listed
  have excluded := map_excludedStages laid.apart laid.negative (List.cons_subset.mp listed).1 0
  rw [graph, laid.stages, closingStages_eq, List.map_append, List.map_append, List.map_append,
    laid.map_start, kept, excluded, map_fst_keptStages, map_fst_excludedStages,
    apply_ite (List.map _), List.map_singleton, List.map_nil, ← List.append_assoc]
  dsimp only
  rw [laid.stagesRead_without]
  rfl

end LaidOut

/-! ### Chains of filters -/

/-- A chain that is built is laid out by its valid filters. -/
theorem laidOut_build (tags : Option Query) (kept excluded : List Filter) :
    (build tags kept excluded).LaidOut tags (kept.filter Filter.isValid)
      (excluded.filter Filter.isValid) where
  stages := by
    rw [build_eq]
    dsimp only
    rw [lastStage_eq]
    rfl
  distinct := nodup_stages_build tags kept excluded
  apart := fun _ => table_notMem_stages tags kept excluded
  positive := fun _ present => (List.mem_filter.mp present).2
  negative := fun _ present => (List.mem_filter.mp present).2

/-- **Chains are well-formed**, for every query of tags or none and all
filters: the stages and what each of them reads, their names, the result, the
kinds that are active and the ranks are those of the valid filters.  Where a
tag filter gives the query of the tags, this reads no stage, and so every
stage reads earlier ones alone. -/
theorem build_wellFormed (tags : Option Query) (kept excluded : List Filter) :
    (build tags kept excluded).WellFormed tags (kept.filter Filter.isValid)
        (excluded.filter Filter.isValid)
      ∧ ∀ (f : TagFilter) (least : Option Binary64),
        (∀ q ∈ f.query? least, (build (f.query? least) kept excluded).stagesRead q = [])
          ∧ Layered (build (f.query? least) kept excluded).graph := by
  constructor
  · exact
      { graph := (laidOut_build tags kept excluded).graph_eq
        distinct := nodup_stages_build tags kept excluded
        result := by
          rw [build_eq]
          dsimp only
          rw [lastStage_eq]
          rfl
        active := by rw [build_eq]
        ranks := by
          rw [build_eq]
          exact keptRanks_eq 0 _ }
  · intro f least
    have laid := laidOut_build (f.query? least) kept excluded
    -- the query of a tag filter reads tables of the library only
    have outside : ∀ q ∈ f.query? least,
        (build (f.query? least) kept excluded).stagesRead q = [] := fun q chosen =>
      stagesRead_of_tables laid.apart (TagFilter.query?_within chosen)
    refine ⟨outside, ?_⟩
    rw [laid.graph_eq]
    apply layered_graphOf
    cases tags : f.query? least with
    | none => exact .nil
    | some q =>
      have reads := outside q tags
      rw [tags] at reads
      rw [Option.toList_some, List.map_singleton, reads]
      exact .snoc .nil (List.nil_subset _)

-- an invalid filter leaves no trace, not even in the numbers of the others
example : (build none
      [.files ⟨[], [], none, none, true⟩, .pathText ⟨"", false⟩, .files ⟨[], [], none, none, true⟩]
      [.bookmarks ⟨[], "user", true⟩]).stages.map (·.1)
    = ["root", "p0_files", "p1_files", "n0_bookmarks", "remaining"] := by
  decide +kernel

end MediaSearch.Chain
