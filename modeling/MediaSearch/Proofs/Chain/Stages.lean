/-
MediaSearch/Proofs/Chain/Stages.lean

What the stages of a chain hold.

A chain is built by one step for each filter that is kept and one step for
all that are excluded.  What a step must preserve is `Chain.Holds`: the
tables of the library can still be seen, `root` is still there, every stage
holds a file at most once, and every file that is left is in all the stages
that rank.  The first stage has it (`holds_start`), a kept filter preserves
it and takes away the candidates it does not let through (`Holds.keep`).
-/
import MediaSearch.Proofs.Chain.Names
import MediaSearch.Proofs.Filter.Clause
import MediaSearch.Proofs.Sql.Listing

namespace MediaSearch

open Sql

namespace Chain

/-- The tables a query sees after the stages of a chain. -/
def tables (chain : Chain) (engine : Engine) (lib : Library) : Tables :=
  stageTables engine lib.tables chain.stages

/-- Stages see the ones before them, wherever the list is divided. -/
theorem stageTables_append {engine : Engine} {tables : Tables}
    (first second : List (String × Query)) :
    stageTables engine tables (first ++ second)
      = stageTables engine (stageTables engine tables first) second := by
  induction first generalizing tables with
  | nil => rfl
  | cons entry first ih =>
    obtain ⟨name, q⟩ := entry
    rw [List.cons_append, stageTables, stageTables, ih]

/-- A further stage is the first table. -/
theorem stageTables_snoc {engine : Engine} {tables : Tables} (stages : List (String × Query))
    (name : String) (q : Query) :
    stageTables engine tables (stages ++ [(name, q)])
      = (name, q.relation engine (stageTables engine tables stages))
        :: stageTables engine tables stages := by
  rw [stageTables_append]
  rfl

/-- Stages hide nothing but what has their names. -/
theorem relation_stageTables {engine : Engine} {tables : Tables} {stages : List (String × Query)}
    {name : String} (other : name ∉ stages.map (·.1)) :
    (stageTables engine tables stages).relation name = tables.relation name := by
  induction stages generalizing tables with
  | nil => rfl
  | cons entry stages ih =>
    obtain ⟨first, q⟩ := entry
    rw [List.map_cons, List.mem_cons, not_or] at other
    rw [stageTables, ih other.2, Tables.relation_cons, if_neg other.1]

/-- Whether a stage ranks the files of some candidates, each once. -/
structure RanksAll (tables : Tables) (r : RankedStage) (left : List Candidate) : Prop where
  ranked : ∃ candidates : List Candidate,
    tables.relation r.stage = stage [r.rank.column] candidates
      ∧ (candidates.map (·.file)).Nodup
      ∧ ∀ c ∈ left, c.ids ∈ candidates.map Candidate.ids

/-- What holds of a chain over a library, given what `root` holds and what is
left of it. -/
structure Holds (engine : Engine) (lib : Library) (root : List Candidate) (chain : Chain)
    (left : List Candidate) : Prop where
  shown : lib.Shows (chain.tables engine lib)
  root_eq : (chain.tables engine lib).relation rootStage = stage [] root
  result_eq : ∃ extra, (chain.tables engine lib).relation chain.result = stage extra left
  within : ∀ c ∈ left, c.ids ∈ root.map Candidate.ids
  distinct : (left.map (·.file)).Nodup
  stages : ∀ entry ∈ chain.stages, entry.1 ≠ tagStage → ∃ extra candidates,
    (chain.tables engine lib).relation entry.1 = stage extra candidates
      ∧ (candidates.map (·.file)).Nodup
  ranks : ∀ r ∈ chain.ranks, RanksAll (chain.tables engine lib) r left
  result_name : chain.result = rootStage ∨ chain.result = remainingStage
    ∨ ∃ i < chain.active.length, ∃ kind, chain.result = keptStage i kind
  rank_names : ∀ r ∈ chain.ranks, ∃ i < chain.active.length, ∃ kind, r.stage = keptStage i kind
  nodup_ranks : (chain.ranks.map (·.stage)).Nodup

/-! ### Candidates that are left -/

/-- What a filter leaves was there before. -/
theorem exists_of_perm {left kept : List Candidate} {meets : Int64 × Int64 → Bool}
    (same : (kept.map Candidate.ids).Perm ((left.map Candidate.ids).filter meets))
    {c : Candidate} (member : c ∈ kept) : ∃ b ∈ left, b.ids = c.ids := by
  have among := same.mem_iff.mp (List.mem_map_of_mem member)
  exact List.mem_map.mp (List.mem_filter.mp among).1

/-- A stage goes on to rank all candidates when they become fewer. -/
theorem RanksAll.of_fewer {tables more : Tables} {r : RankedStage} {left kept : List Candidate}
    (ranks : RanksAll tables r left) (seen : more.relation r.stage = tables.relation r.stage)
    (before : ∀ c ∈ kept, ∃ b ∈ left, b.ids = c.ids) : RanksAll more r kept := by
  obtain ⟨candidates, ranked, once, all⟩ := ranks.ranked
  refine ⟨candidates, seen.trans ranked, once, ?_⟩
  intro c member
  obtain ⟨b, there, sameIds⟩ := before c member
  exact sameIds ▸ all b there

/-! ### The first stage -/

section Start

variable {engine : Engine} {lib : Library} {root : List Candidate}

/-- Without filters what is left is what `root` holds. -/
theorem holds_of_root {tags : Option Query}
    (shown : lib.Shows (stageTables engine lib.tables (tags.toList.map (tagStage, ·))))
    (relation : (rootQuery tags.isSome).relation engine
      (stageTables engine lib.tables (tags.toList.map (tagStage, ·))) = stage [] root)
    (distinct : (root.map (·.file)).Nodup) :
    (start tags).Holds engine lib root root := by
  have tables : (start tags).tables engine lib = (rootStage, stage [] root)
      :: stageTables engine lib.tables (tags.toList.map (tagStage, ·)) := by
    rw [← relation]
    exact stageTables_snoc _ _ _
  have root_eq : ((start tags).tables engine lib).relation rootStage = stage [] root := by
    rw [tables, Tables.relation_cons, if_pos rfl]
  constructor
  case shown =>
    rw [tables]
    exact shown.cons (by decide) _
  case root_eq => exact root_eq
  case result_eq => exact ⟨[], root_eq⟩
  case within => exact fun c member => List.mem_map_of_mem member
  case distinct => exact distinct
  case stages =>
    intro entry present notTags
    -- but for the tag query, `root` is the only stage there is
    have name : entry.1 = rootStage := by
      rcases List.mem_append.mp present with tag | first
      · obtain ⟨q, -, rfl⟩ := List.mem_map.mp tag
        exact absurd rfl notTags
      · rw [List.mem_singleton.mp first]
    exact ⟨[], root, name ▸ root_eq, distinct⟩
  case ranks => exact fun r present => absurd present List.not_mem_nil
  case result_name => exact .inl rfl
  case rank_names => exact fun r present => absurd present List.not_mem_nil
  case nodup_ranks => exact List.nodup_nil

/-- A file as a candidate. -/
def candidateOf (file : Library.File) : Candidate :=
  ⟨file.id, file.itemId, []⟩

/-- A file as a row. -/
def fileScope (file : Library.File) : Scope :=
  [("files", ["id", "item_id", "path", "last_modified", "available"].zip file.row)]

/-- The columns of `root`. -/
def rootColumns : List Column :=
  [⟨.ref (.of "files" "id"), some "file_id"⟩, ⟨.ref (.of "files" "item_id"), some "item_id"⟩]

/-- The stage that a `SELECT` of the ids of files gives. -/
theorem relation_rootColumns {α : Type} {tables : Tables} (joins : List Join)
    (file : α → Library.File) (rest : α → Scope) {as : List α}
    (joined : joins.foldl (joinRows engine tables)
      (((Source.named "files" none).relation engine tables).scopes "files")
        = as.map fun a => fileScope (file a) ++ rest a) :
    (Query.select { columns := rootColumns, source := .named "files" none, joins }).relation engine
      tables = stage [] (as.map fun a => candidateOf (file a)) := by
  have row (a : α) : rootColumns.map
      (fun c => c.expr.value engine [fileScope (file a) ++ rest a])
        = (candidateOf (file a)).row := by
    simp [rootColumns, Expr.value, fileScope, Library.File.row, candidateOf, Candidate.row]
  rw [Query.relation, rows_select_joins rfl _ joined, List.map_map, stage, List.map_map]
  simp only [Function.comp_def, row]
  rfl

/-- Without a tag query, `root` holds all files. -/
theorem holds_start_none (engine : Engine) (lib : Library) :
    ∃ root : List Candidate, (start none).Holds engine lib root root
      ∧ ∀ ids, ids ∈ root.map Candidate.ids ↔ ∃ file ∈ lib.files, ids = (file.id, file.itemId) := by
  refine ⟨lib.files.map candidateOf, holds_of_root lib.shows_tables ?_ ?_, fun ids => ?_⟩
  · refine relation_rootColumns [] id (fun _ => []) ?_
    rw [Source.relation]
    show (lib.tables.relation "files").scopes "files" = _
    rw [lib.shows_tables.files, Relation.scopes_map]
    rfl
  · rw [List.map_map]
    exact lib.nodup_files
  · simp [candidateOf, Candidate.ids, eq_comm]

/-- With a tag query, `root` holds the files of the items it lists. -/
theorem holds_start_some {q : Query} {P : Int64 → Prop}
    (listed : (q.relation engine lib.tables).Lists "item_id" P) :
    ∃ root : List Candidate, (start (some q)).Holds engine lib root root
      ∧ ∀ ids, ids ∈ root.map Candidate.ids
        ↔ (∃ file ∈ lib.files, ids = (file.id, file.itemId)) ∧ P ids.2 := by
  obtain ⟨items, relation, distinct, mem_items⟩ := listed
  let found := pairsWith (fun (file : Library.File) (item : Int64) => item = file.itemId)
    lib.files items
  have shown : lib.Shows (stageTables engine lib.tables [(tagStage, q)]) :=
    lib.shows_tables.cons (by decide) _
  refine ⟨found.map fun p => candidateOf p.1, holds_of_root shown ?_ ?_, fun ids => ?_⟩
  -- the stage is what joining files and listed items gives
  · let tagged (p : Library.File × Int64) : Scope := [(tagStage, ["item_id"].zip (idRow p.2))]
    refine relation_rootColumns [⟨tagStage, none, .ref (.of tagStage "item_id"),
      .ref (.of "files" "item_id")⟩] Prod.fst tagged ?_
    have files : ((Source.named "files" none).relation engine
        (stageTables engine lib.tables [(tagStage, q)])).scopes "files"
          = lib.files.map fileScope := by
      rw [Source.relation, shown.files]
      exact Relation.scopes_map _ _ _ _
    have tags : (stageTables engine lib.tables [(tagStage, q)]).relation tagStage
        = ⟨["item_id"], items.map idRow⟩ := by
      rw [← relation]
      exact Tables.relation_cons _ _ _ _
    rw [show (some q).toList.map (tagStage, ·) = [(tagStage, q)] from rfl, files,
      List.foldl_cons, List.foldl_nil]
    refine joinRows_map tags fileScope _ (fun file item => ?_) lib.files
    simp [Expr.value, fileScope, Library.File.row, idRow, tagStage]
  -- a file has one item, which is listed once, so it is joined once
  · have different : (items.map id).Nodup := by rwa [List.map_id]
    have files : (found.map (·.1)).Sublist lib.files :=
      map_fst_pairsWith_sublist (fun file => length_filter_le_one different
        fun item same => of_decide_eq_true same) lib.files
    have ids := lib.nodup_files.sublist (files.map (·.id))
    rw [List.map_map] at ids ⊢
    exact ids
  · simp only [List.mem_map]
    constructor
    · rintro ⟨c, ⟨⟨file, item⟩, member, rfl⟩, rfl⟩
      obtain ⟨present, among, same⟩ := mem_pairsWith.mp member
      have same : item = file.itemId := of_decide_eq_true same
      exact ⟨⟨file, present, rfl⟩, (mem_items _).mp (same ▸ among)⟩
    · rintro ⟨⟨file, present, rfl⟩, allowed⟩
      refine ⟨candidateOf file, ⟨(file, file.itemId), ?_, rfl⟩, rfl⟩
      exact mem_pairsWith.mpr ⟨present, (mem_items _).mpr allowed, decide_eq_true rfl⟩

end Start

/-! ### Filters that are kept -/

variable {engine : Engine} {lib : Library} {root left : List Candidate} {chain : Chain}

/-- The stage of a kept filter is the first table, before all that there was. -/
theorem tables_keep (chain : Chain) (f : Filter) :
    (chain.keep f).tables engine lib
      = (keptStage chain.active.length f.kind,
          (f.clause chain.result).relation engine (chain.tables engine lib))
        :: chain.tables engine lib :=
  stageTables_snoc chain.stages _ _

/-- The new stage holds what the query of the filter gives. -/
theorem relation_keep_self (chain : Chain) (f : Filter) :
    ((chain.keep f).tables engine lib).relation (keptStage chain.active.length f.kind)
      = (f.clause chain.result).relation engine (chain.tables engine lib) := by
  rw [tables_keep, Tables.relation_cons, if_pos rfl]

/-- The new stage hides no other one. -/
theorem relation_keep_of_ne {f : Filter} {name : String}
    (other : name ≠ keptStage chain.active.length f.kind) :
    ((chain.keep f).tables engine lib).relation name
      = (chain.tables engine lib).relation name := by
  rw [tables_keep, Tables.relation_cons, if_neg other]

/-- A stage of the chain is one it had before or the new one. -/
theorem mem_stages_keep {f : Filter} {entry : String × Query}
    (present : entry ∈ (chain.keep f).stages) :
    entry ∈ chain.stages ∨ entry.1 = keptStage chain.active.length f.kind :=
  (List.mem_append.mp present).imp_right fun added => by rw [List.mem_singleton.mp added]

/-- The ranks of a chain with one more filter. -/
theorem mem_ranks_keep {f : Filter} {r : RankedStage} :
    r ∈ (chain.keep f).ranks ↔ r ∈ chain.ranks
      ∨ f.kind.rank? = some r.rank ∧ r.stage = keptStage chain.active.length f.kind := by
  have ranks : (chain.keep f).ranks = chain.ranks
      ++ f.kind.rank?.toList.map (⟨·, keptStage chain.active.length f.kind⟩) := rfl
  rw [ranks, List.mem_append]
  obtain ⟨rank, stage⟩ := r
  cases f.kind.rank? <;> simp [eq_comm]

theorem length_active_keep (f : Filter) :
    (chain.keep f).active.length = chain.active.length + 1 := by
  simp [Chain.keep]

/-- What is left of the candidates was in `root`. -/
theorem Holds.within_of_fewer (holds : chain.Holds engine lib root left) {kept : List Candidate}
    (before : ∀ c ∈ kept, ∃ b ∈ left, b.ids = c.ids) :
    ∀ c ∈ kept, c.ids ∈ root.map Candidate.ids := by
  intro c member
  obtain ⟨b, there, sameIds⟩ := before c member
  exact sameIds ▸ holds.within b there

/-- The stages that rank are earlier ones, so that a new stage is none. -/
theorem Holds.keptStage_notMem_ranks (holds : chain.Holds engine lib root left)
    (kind : FilterKind) :
    keptStage chain.active.length kind ∉ chain.ranks.map (·.stage) := by
  intro present
  obtain ⟨r, listed, name⟩ := List.mem_map.mp present
  obtain ⟨i, earlier, other, stageName⟩ := holds.rank_names r listed
  exact absurd (keptStage_inj (stageName.symm.trans name)) (Nat.ne_of_lt earlier)

/-- The stages that rank are those of filters that are kept. -/
theorem Holds.rank_names_keep (holds : chain.Holds engine lib root left) (f : Filter) :
    ∀ r ∈ (chain.keep f).ranks,
      ∃ i < (chain.keep f).active.length, ∃ kind, r.stage = keptStage i kind := by
  intro r present
  rw [length_active_keep]
  rcases mem_ranks_keep.mp present with old | ⟨-, new⟩
  · obtain ⟨i, earlier, kind, stageName⟩ := holds.rank_names r old
    exact ⟨i, Nat.lt_succ_of_lt earlier, kind, stageName⟩
  · exact ⟨chain.active.length, Nat.lt_succ_self _, f.kind, new⟩

/-- No stage ranks twice. -/
theorem Holds.nodup_ranks_keep (holds : chain.Holds engine lib root left) (f : Filter) :
    ((chain.keep f).ranks.map (·.stage)).Nodup := by
  show ((chain.ranks ++ f.kind.rank?.toList.map
    (RankedStage.mk · (keptStage chain.active.length f.kind))).map RankedStage.stage).Nodup
  rw [List.map_append]
  cases f.kind.rank? with
  | none => simpa using holds.nodup_ranks
  | some rank =>
    refine holds.nodup_ranks.append (List.nodup_singleton _) ?_
    exact List.disjoint_singleton.mpr (holds.keptStage_notMem_ranks f.kind)

section Keep

variable {f : Filter} {kept : List Candidate}

/-- Every stage holds a file at most once if the new one does. -/
theorem Holds.stages_keep (holds : chain.Holds engine lib root left)
    (last : ((chain.keep f).tables engine lib).relation (keptStage chain.active.length f.kind)
      = stage f.rankColumns kept) (distinct : (kept.map (·.file)).Nodup) :
    ∀ entry ∈ (chain.keep f).stages, entry.1 ≠ tagStage → ∃ extra candidates,
      ((chain.keep f).tables engine lib).relation entry.1 = stage extra candidates
        ∧ (candidates.map (·.file)).Nodup := by
  intro entry present notTags
  by_cases new : entry.1 = keptStage chain.active.length f.kind
  · exact ⟨f.rankColumns, kept, new ▸ last, distinct⟩
  · have old : entry ∈ chain.stages := (mem_stages_keep present).resolve_right new
    rw [relation_keep_of_ne new]
    exact holds.stages entry old notTags

/-- The stages that rank have all that is left: the old ones had more before,
and the new one has what it lets through. -/
theorem Holds.ranks_keep (holds : chain.Holds engine lib root left)
    (last : ((chain.keep f).tables engine lib).relation (keptStage chain.active.length f.kind)
      = stage f.rankColumns kept) (distinct : (kept.map (·.file)).Nodup)
    (before : ∀ c ∈ kept, ∃ b ∈ left, b.ids = c.ids) :
    ∀ r ∈ (chain.keep f).ranks, RanksAll ((chain.keep f).tables engine lib) r kept := by
  intro r present
  -- the new stage hides no earlier one, and its own rank is the one column it adds
  rcases mem_ranks_keep.mp present with old | ⟨rank, new⟩
  · have different : r.stage ≠ keptStage chain.active.length f.kind := fun same =>
      holds.keptStage_notMem_ranks f.kind (same ▸ List.mem_map_of_mem old)
    exact (holds.ranks r old).of_fewer (relation_keep_of_ne different) before
  · have columns : f.rankColumns = [r.rank.column] := by
      rw [Filter.rankColumns, rank]
      rfl
    refine ⟨kept, ?_, distinct, fun c member => List.mem_map_of_mem member⟩
    rw [new, ← columns]
    exact last

/-- **A kept filter takes away the candidates it does not let through**, and
what holds of the chain goes on to hold. -/
theorem Holds.keep (holds : chain.Holds engine lib root left)
    {pick : Int64 × Int64 → Option (List Value)}
    (decides : Filter.Decides engine lib (fun upstream => f.clause upstream) f.rankColumns pick) :
    ∃ kept : List Candidate, (chain.keep f).Holds engine lib root kept
      ∧ (kept.map Candidate.ids).Perm
        ((left.map Candidate.ids).filter fun ids => (pick ids).isSome) := by
  obtain ⟨extra, result⟩ := holds.result_eq
  obtain ⟨kept, relation, same⟩ := decides holds.shown result (Candidate.nodup_ids holds.distinct)
  have ids := Candidate.perm_map_ids_of_choose same
  have distinct := Candidate.nodup_files_of_perm holds.distinct ids
  have before (c : Candidate) (member : c ∈ kept) := exists_of_perm ids member
  -- the name of the new stage is none of a table, so the library can still be seen
  have fresh : keptStage chain.active.length f.kind ∉ fixedNames :=
    keptStage_notMem_fixedNames _ _
  have last : ((chain.keep f).tables engine lib).relation (keptStage chain.active.length f.kind)
      = stage f.rankColumns kept := (relation_keep_self chain f).trans relation
  refine ⟨kept, ?_, ids⟩
  constructor
  case shown =>
    rw [tables_keep]
    exact holds.shown.cons (fun table => fresh (mem_fixedNames_of_table table)) _
  case root_eq =>
    have different : rootStage ≠ keptStage chain.active.length f.kind := fun same =>
      fresh (by simp [fixedNames, ← same])
    exact (relation_keep_of_ne different).trans holds.root_eq
  case result_eq => exact ⟨f.rankColumns, last⟩
  case within => exact holds.within_of_fewer before
  case distinct => exact distinct
  case stages => exact holds.stages_keep last distinct
  case ranks => exact holds.ranks_keep last distinct before
  case result_name =>
    refine .inr (.inr ⟨chain.active.length, ?_, f.kind, rfl⟩)
    rw [length_active_keep]
    exact Nat.lt_succ_self _
  case rank_names => exact holds.rank_names_keep f
  case nodup_ranks => exact holds.nodup_ranks_keep f

end Keep

/-- All filters that are kept take their candidates away. -/
theorem Holds.foldl_keep {pick : Filter → Int64 × Int64 → Option (List Value)}
    (decides : ∀ f, Filter.Decides engine lib (fun upstream => f.clause upstream) f.rankColumns
      (pick f)) (filters : List Filter) {chain : Chain} {left : List Candidate}
    (holds : chain.Holds engine lib root left) :
    ∃ kept : List Candidate, (filters.foldl Chain.keep chain).Holds engine lib root kept
      ∧ (kept.map Candidate.ids).Perm
        ((left.map Candidate.ids).filter fun ids => filters.all fun f => (pick f ids).isSome) := by
  induction filters generalizing chain left with
  | nil => exact ⟨left, holds, by simp⟩
  | cons f filters ih =>
    obtain ⟨middle, middleHolds, first⟩ := holds.keep (decides f)
    obtain ⟨kept, keptHolds, rest⟩ := ih middleHolds
    refine ⟨kept, keptHolds, rest.trans ?_⟩
    -- letting through one after the other is letting through at all
    have both := first.filter fun ids => filters.all fun g => (pick g ids).isSome
    rw [List.filter_filter] at both
    simpa [List.all_cons, Bool.and_comm] using both

end Chain

end MediaSearch
