/-
MediaSearch/Proofs/Filter/Found.lean

The rows that the queries of filters find.

For a pair of ids a query joins the rows of one table, or of two, and keeps
those that meet its conditions.  So what it finds is a list of rows, or of
pairs of them, with a condition that is said of the rows themselves
(`found_one`, `found_two`).  For each kind of filter this condition is what
the filter asks of the rows.
-/
import MediaSearch.Proofs.Filter.Clause
import MediaSearch.Proofs.Filter.Meaning

namespace MediaSearch

open Sql

namespace Filter

variable {engine : Engine} {lib : Library}

/-! ### Rows that are found -/

/-- The cells of a row of the table that is joined. -/
def joinCells (j : Join) (columns : List String) (row : List Value) : Scope :=
  [(j.label.getD j.table, columns.zip row)]

/-- Whether the condition of a join holds of a joined row. -/
def JoinHolds (engine : Engine) (j : Join) (joined : Scope) : Prop :=
  Comparison.eq.truth (j.left.value engine [joined]) (j.right.value engine [joined]) = some true

instance (j : Join) (joined : Scope) : Decidable (JoinHolds engine j joined) :=
  inferInstanceAs (Decidable (_ = _))

namespace Parts

variable {tables : Tables} {p : Parts} {β γ : Type}

/-- The rows of the first table that is joined. -/
theorem joinRows_first {j : Join} {columns : List String} {row : β → List Value} {bs : List β}
    (table : tables.relation j.table = ⟨columns, bs.map row⟩) (base : Scope) :
    joinRows engine tables [base] j
      = (bs.filter fun b => JoinHolds engine j (base ++ joinCells j columns (row b))).map
          fun b => base ++ joinCells j columns (row b) := by
  rw [joinRows, List.flatMap_singleton, table, Relation.scopes_map, List.map_map, List.filter_map]
  rfl

/-- What is found where one table is joined. -/
theorem found_one {j : Join} (joins : p.joins = [j]) {columns : List String}
    {row : β → List Value} {bs : List β}
    (table : tables.relation j.table = ⟨columns, bs.map row⟩) (ids : Int64 × Int64)
    {meets : β → Prop} [DecidablePred meets]
    (condition : ∀ b, let joined := idScope ids ++ joinCells j columns (row b)
      (JoinHolds engine j joined ∧ allTrue engine tables joined p.conditions = true) ↔ meets b) :
    p.found engine tables ids = (bs.filter fun b => meets b).map fun b =>
      rankedScope engine p.conditions (idScope ids ++ joinCells j columns (row b)) := by
  rw [found, joins, List.foldl_cons, List.foldl_nil, joinRows_first table, List.filter_map,
    List.filter_filter, List.map_map]
  congr 1
  -- the join and the conditions are checked one after the other, which is checking both
  refine List.filter_congr fun b _ => ?_
  rw [Bool.eq_iff_iff, Bool.and_eq_true, decide_eq_true_eq, decide_eq_true_eq, and_comm]
  exact condition b

/-- What is found where two tables are joined. -/
theorem found_two {j k : Join} (joins : p.joins = [j, k]) {columns columns' : List String}
    {row : β → List Value} {row' : γ → List Value} {bs : List β} {cs : List γ}
    (table : tables.relation j.table = ⟨columns, bs.map row⟩)
    (table' : tables.relation k.table = ⟨columns', cs.map row'⟩) (ids : Int64 × Int64)
    {meets : β → γ → Prop} [DecidableRel meets]
    (condition : ∀ b c, let first := idScope ids ++ joinCells j columns (row b)
      let joined := first ++ joinCells k columns' (row' c)
      (JoinHolds engine j first ∧ JoinHolds engine k joined
        ∧ allTrue engine tables joined p.conditions = true) ↔ meets b c) :
    p.found engine tables ids = (pairsWith (fun b c => meets b c) bs cs).map fun pair =>
      rankedScope engine p.conditions (idScope ids ++ joinCells j columns (row pair.1)
        ++ joinCells k columns' (row' pair.2)) := by
  let scopeOf (b : β) : Scope := idScope ids ++ joinCells j columns (row b)
  have second (chosen : List β) : joinRows engine tables (chosen.map scopeOf) k
      = (pairsWith (fun b c => JoinHolds engine k (scopeOf b ++ joinCells k columns' (row' c)))
          chosen cs).map fun pair => scopeOf pair.1 ++ joinCells k columns' (row' pair.2) :=
    joinRows_map table' scopeOf _ (fun b c => decide_eq_true_iff.symm) chosen
  -- conditions on the first row go into the pairs, and so do those on both
  rw [found, joins, List.foldl_cons, List.foldl_cons, List.foldl_nil, joinRows_first table, second,
    List.filter_map, List.map_map, pairsWith_filter, filter_pairsWith]
  congr 2
  funext b c
  rw [Bool.eq_iff_iff, Bool.and_eq_true, Bool.and_eq_true, decide_eq_true_eq, decide_eq_true_eq,
    decide_eq_true_eq, and_assoc]
  exact condition b c

/-- The rank is made of all that is found, if anything is. -/
theorem pick_eq_some_iff {ids : Int64 × Int64} {rest : List Value} :
    p.pick engine tables ids = some rest
      ↔ p.found engine tables ids ≠ [] ∧ rest = p.rankOf engine (p.found engine tables ids) := by
  unfold pick
  cases p.found engine tables ids with
  | nil => simp
  | cons scope scopes => simp [eq_comm]

/-- A rank that is an aggregate of a value of each row that is found. -/
theorem pick_aggregate_iff {kind : Rank} {function : Aggregate} {e : Expr}
    (rank : p.rank = [rankColumn kind (.aggregate function e)]) {ids : Int64 × Int64}
    {values : List Value}
    (found : (p.found engine tables ids).map (fun scope => e.value engine [scope]) = values)
    {rest : List Value} :
    p.pick engine tables ids = some rest
      ↔ values ≠ [] ∧ rest = [engine.aggregate function values] := by
  have aggregated : p.rankOf engine (p.found engine tables ids)
      = [engine.aggregate function values] := by
    rw [rankOf, rank, List.map_singleton, rankColumn, Expr.value, found]
  rw [pick_eq_some_iff, aggregated, ← found, ne_eq, ne_eq, List.map_eq_nil_iff]

/-- A rank that is a column of the one row that is found. -/
theorem pick_column_iff {kind : Rank} {r : Ref} (rank : p.rank = [rankColumn kind (.ref r)])
    {ids : Int64 × Int64} {value : Option Value}
    (found : (p.found engine tables ids).map (fun scope => scope.value r) = value.toList)
    {rest : List Value} :
    p.pick engine tables ids = some rest ↔ value.isSome = true ∧ rest = value.toList := by
  have column (scope : Scope) : p.rankOf engine [scope] = [scope.value r] := by
    rw [rankOf, rank]
    rfl
  rw [pick_eq_some_iff]
  -- what is found has one row at most, since there is one value at most
  cases value with
  | none =>
    rw [Option.toList_none, List.map_eq_nil_iff] at found
    simp [found]
  | some v =>
    obtain ⟨scope, single, rfl⟩ := List.map_eq_singleton_iff.mp found
    simp [single, column]

end Parts

/-! ### Files -/

/-- Something is found for a file if it is known, and its size, type and place
are as asked for. -/
theorem found_files_ne_nil_iff (f : FileFilter) (ids : Int64 × Int64) :
    (fileParts f).found engine lib.tables ids ≠ [] ↔ (files f).Accepts engine lib ids := by
  classical
  let among (file : Library.File) (item : Library.Item) : Prop :=
    file.id = ids.1 ∧ item.id = ids.2 ∧ f.Allows file item
  let scopeOf (file : Library.File) (item : Library.Item) : Scope :=
    idScope ids ++ [("files", file.cells)] ++ [("items", item.cells)]
  have condition (file : Library.File) (item : Library.Item) :
      (JoinHolds engine (joinOn "files" "id" fileId) (idScope ids ++ [("files", file.cells)])
        ∧ JoinHolds engine (joinOn "items" "id" itemId) (scopeOf file item)
        ∧ allTrue engine lib.tables (scopeOf file item) (fileParts f).conditions = true)
      ↔ among file item := by
    have fileJoined : JoinHolds engine (joinOn "files" "id" fileId)
        (idScope ids ++ [("files", file.cells)]) ↔ file.id = ids.1 := by
      simp [JoinHolds, joinOn, Expr.value, fileId, idScope, Library.File.cells, Library.File.row]
    have itemJoined : JoinHolds engine (joinOn "items" "id" itemId) (scopeOf file item)
        ↔ item.id = ids.2 := by
      simp [scopeOf, JoinHolds, joinOn, Expr.value, itemId, idScope, Library.Item.cells,
        Library.Item.row]
    have mimeType : (scopeOf file item).value (.of "items" "mime_type")
        = Library.optional .text item.mimeType := by
      simp [scopeOf, idScope, Library.Item.cells, Library.Item.row]
    have path : (scopeOf file item).value (.of "files" "path")
        = Library.optional .text (some file.path) := by
      simp [scopeOf, idScope, Library.File.cells, Library.File.row, Library.optional]
    have size : (scopeOf file item).value (.of "items" "size")
        = Library.optional .integer item.size := by
      simp [scopeOf, idScope, Library.Item.cells, Library.Item.row]
    have available : allTrue engine lib.tables (scopeOf file item)
        (if f.availableOnly then [.compare (.ref (.of "files" "available")) .eq (.number 1)]
          else []) = true ↔ (f.availableOnly = true → file.available = 1) := by
      cases f.availableOnly with
      | false => simp [allTrue]
      | true =>
        simp [allTrue, Condition.truth, Expr.value, scopeOf, idScope, Library.File.cells,
          Library.File.row]
    -- each list of conditions says what one field of the filter asks for
    rw [fileJoined, itemJoined, fileParts, allTrue_append, allTrue_append, allTrue_append,
      allTrue_append, Bool.and_eq_true, Bool.and_eq_true, Bool.and_eq_true, Bool.and_eq_true,
      Library.allTrue_startsWithOneOf_iff mimeType, Library.allTrue_startsWithOneOf_iff path,
      Library.allTrue_sizeAtLeast_iff size, Library.allTrue_sizeAtMost_iff size, available]
    simp only [among, FileFilter.Allows, and_assoc]
  have joins : (fileParts f).joins
      = [joinOn "files" "id" fileId, joinOn "items" "id" itemId] := rfl
  rw [Parts.found_two joins lib.shows_tables.files lib.shows_tables.items ids condition, ne_eq,
    List.map_eq_nil_iff, ← ne_eq, pairsWith_ne_nil_iff]
  simp [among, Accepts]

/-! ### Embeddings -/

/-- A distance is an aggregate over what the engine computes for each row. -/
theorem distance_eq (function : DistanceFunction) (aggregation : DistanceAggregation)
    (left right : Expr) :
    distance function aggregation left right
      = .aggregate (distanceAggregate aggregation) (.apply (distanceName function) left right) := by
  cases function <;> cases aggregation <;> rfl

/-- What is found are the embeddings of the item that the filter compares. -/
theorem found_imageEmbeddings (f : ImageEmbeddingFilter) (ids : Int64 × Int64) :
    (imageEmbeddingParts f).found engine lib.tables ids
      = (lib.embeddings.filter fun embedding => f.Compares lib ids.2 embedding).map
          fun embedding => rankedScope engine (imageEmbeddingParts f).conditions
            (idScope ids ++ [("embeddings", embedding.cells)]) := by
  have joins : (imageEmbeddingParts f).joins = [joinOn "embeddings" "item_id" itemId] := rfl
  refine Parts.found_one joins lib.shows_tables.embeddings ids fun embedding => ?_
  let scope : Scope := idScope ids ++ [("embeddings", embedding.cells)]
  have joined : JoinHolds engine (joinOn "embeddings" "item_id" itemId) scope
      ↔ embedding.itemId = ids.2 := by
    simp [scope, JoinHolds, joinOn, Expr.value, itemId, idScope, Library.Embedding.cells,
      Library.Embedding.row]
  have setter : scope.value (.of "embeddings" "setter_id") = .integer embedding.setterId := by
    simp [scope, idScope, Library.Embedding.cells, Library.Embedding.row]
  -- embeddings of texts are left out by their reference
  have image : (Condition.isNull (.of "embeddings" "text_id")).truth engine lib.tables scope
      = some true ↔ embedding.textId = none := by
    cases text : embedding.textId <;>
      simp [scope, Condition.truth, idScope, Library.Embedding.cells, Library.Embedding.row, text,
        Library.optional]
  show (JoinHolds engine _ scope ∧ allTrue engine lib.tables scope _ = true) ↔ _
  rw [joined, imageEmbeddingParts, allTrue_cons, allTrue_cons,
    Library.truth_ofModel_iff lib.shows_tables setter, image, ImageEmbeddingFilter.Compares]
  simp [allTrue, and_comm]

/-- What is found are the embeddings that the filter compares, each with its text. -/
theorem found_textEmbeddings (f : TextEmbeddingFilter) (ids : Int64 × Int64) :
    (textEmbeddingParts f).found engine lib.tables ids
      = (pairsWith (fun embedding text => f.Compares lib ids.2 embedding text) lib.embeddings
          lib.texts).map fun pair => rankedScope engine (textEmbeddingParts f).conditions
            (idScope ids ++ [("embeddings", pair.1.cells)]
              ++ [("extracted_text", pair.2.cells)]) := by
  have joins : (textEmbeddingParts f).joins = [joinOn "embeddings" "item_id" itemId,
    joinOn "extracted_text" "id" (.of "embeddings" "text_id")] := rfl
  refine Parts.found_two joins lib.shows_tables.embeddings lib.shows_tables.texts ids
    fun embedding text => ?_
  let first : Scope := idScope ids ++ [("embeddings", embedding.cells)]
  let scope : Scope := first ++ [("extracted_text", text.cells)]
  have embeddingJoined : JoinHolds engine (joinOn "embeddings" "item_id" itemId) first
      ↔ embedding.itemId = ids.2 := by
    simp [first, JoinHolds, joinOn, Expr.value, itemId, idScope, Library.Embedding.cells,
      Library.Embedding.row]
  have textJoined : JoinHolds engine (joinOn "extracted_text" "id" (.of "embeddings" "text_id"))
      scope ↔ embedding.textId = some text.id := by
    rw [← Library.truth_idColumn_iff]
    simp [scope, first, JoinHolds, joinOn, Expr.value, idScope, Library.Embedding.cells,
      Library.Embedding.row, Library.ExtractedText.cells, Library.ExtractedText.row]
  have model : scope.value (.of "embeddings" "setter_id") = .integer embedding.setterId := by
    simp [scope, first, idScope, Library.Embedding.cells, Library.Embedding.row]
  have textCells : scope.cells "extracted_text" = text.cells := by
    simp [scope, first, idScope]
  show (JoinHolds engine _ first ∧ JoinHolds engine _ scope
    ∧ allTrue engine lib.tables scope _ = true) ↔ _
  rw [embeddingJoined, textJoined, textEmbeddingParts, allTrue_cons,
    Library.truth_ofModel_iff lib.shows_tables model,
    Library.allTrue_textConditions_iff lib.shows_tables textCells, TextEmbeddingFilter.Compares]

/-- What is found are pairs of embeddings that the filter compares, one of the
item and one of the target. -/
theorem found_similarity (f : SimilarityFilter) (ids : Int64 × Int64) :
    (similarityParts f).found engine lib.tables ids
      = (pairsWith (fun candidate target => f.Compares lib ids.2 candidate target) lib.embeddings
          lib.embeddings).map fun pair => rankedScope engine (similarityParts f).conditions
            (idScope ids ++ [("candidate", pair.1.cells)] ++ [("target", pair.2.cells)]) := by
  let j : Join :=
    ⟨"embeddings", some "candidate", .ref (.of "candidate" "item_id"), .ref itemId⟩
  let k : Join :=
    ⟨"embeddings", some "target", .ref (.of "target" "setter_id"),
      .ref (.of "candidate" "setter_id")⟩
  have joins : (similarityParts f).joins = [j, k] := rfl
  refine Parts.found_two joins lib.shows_tables.embeddings lib.shows_tables.embeddings ids
    fun candidate target => ?_
  let first : Scope := idScope ids ++ [("candidate", candidate.cells)]
  let scope : Scope := first ++ [("target", target.cells)]
  have candidateJoined : JoinHolds engine j first ↔ candidate.itemId = ids.2 := by
    simp [j, first, JoinHolds, Expr.value, itemId, idScope, Library.Embedding.cells,
      Library.Embedding.row]
  have targetJoined : JoinHolds engine k scope ↔ target.setterId = candidate.setterId := by
    simp [k, scope, first, JoinHolds, Expr.value, idScope, Library.Embedding.cells,
      Library.Embedding.row]
  have targetItem : scope.value (.of "target" "item_id") = .integer target.itemId := by
    simp [scope, first, idScope, Library.Embedding.cells, Library.Embedding.row]
  have model : scope.value (.of "candidate" "setter_id") = .integer candidate.setterId := by
    simp [scope, first, idScope, Library.Embedding.cells, Library.Embedding.row]
  have other : (Condition.compare (.ref itemId) .ne (.ref (.of "target" "item_id"))).truth engine
      lib.tables scope = some true ↔ ids.2 ≠ target.itemId := by
    have item : scope.value itemId = .integer ids.2 := by
      simp [scope, first, itemId, idScope]
    rw [Condition.truth, Expr.value, Expr.value, List.headD_cons, item, targetItem,
      Comparison.truth_ne_integer]
  show (JoinHolds engine j first ∧ JoinHolds engine k scope
    ∧ allTrue engine lib.tables scope _ = true) ↔ _
  rw [candidateJoined, targetJoined, similarityParts, allTrue_cons, allTrue_cons, allTrue_cons,
    Library.truth_itemHashed_iff lib.shows_tables targetItem, other,
    Library.truth_ofModel_iff lib.shows_tables model, SimilarityFilter.Compares,
    SimilarityFilter.target?]
  -- the same facts in the order of the joins and in that of the meaning
  constructor
  · rintro ⟨item, setter, hashed, different, named, -⟩
    exact ⟨item, setter, named, different, hashed⟩
  · rintro ⟨item, setter, named, different, hashed⟩
    exact ⟨item, setter, hashed, different, named, rfl⟩

/-! ### Bookmarks -/

/-- The users whose bookmarks count: the one asked for, and everyone if that
is asked for. -/
theorem mem_bookmarkUsers_iff {f : BookmarkFilter} {user : String} :
    user ∈ bookmarkUsers f
      ↔ user = Text.trim f.user ∨ f.includeWildcard = true ∧ user = wildcardUser := by
  simp only [bookmarkUsers]
  split
  case isTrue both =>
    have wildcard : f.includeWildcard = true := (Bool.and_eq_true_iff.mp both).1
    simp [wildcard]
  case isFalse neither =>
    simp only [Bool.and_eq_true, bne_iff_ne, ne_eq, not_and, not_not] at neither
    -- the user is the wildcard already, or it does not count
    constructor
    · intro same
      exact .inl (List.mem_singleton.mp same)
    · rintro (rfl | ⟨wildcard, rfl⟩)
      · exact List.mem_singleton_self _
      · exact List.mem_singleton.mpr (neither wildcard).symm

/-- What is found are the bookmarks of the item that count. -/
theorem found_bookmarks (f : BookmarkFilter) (ids : Int64 × Int64) :
    (bookmarkParts f).found engine lib.tables ids
      = (lib.bookmarks.filter fun bookmark => f.Counts ids.2 bookmark).map
          fun bookmark => rankedScope engine (bookmarkParts f).conditions
            (idScope ids ++ [("bookmarks", bookmark.cells)]) := by
  have joins : (bookmarkParts f).joins = [joinOn "bookmarks" "item_id" itemId] := rfl
  refine Parts.found_one joins lib.shows_tables.bookmarks ids fun bookmark => ?_
  let scope : Scope := idScope ids ++ [("bookmarks", bookmark.cells)]
  have joined : JoinHolds engine (joinOn "bookmarks" "item_id" itemId) scope
      ↔ bookmark.itemId = ids.2 := by
    simp [scope, JoinHolds, joinOn, Expr.value, itemId, idScope, Library.Bookmark.cells,
      Library.Bookmark.row]
  have user : (Condition.oneOf (.of "bookmarks" "user") ((bookmarkUsers f).map .text)).truth
      engine lib.tables scope = some true ↔ bookmark.user ∈ bookmarkUsers f := by
    rw [← Value.text_isAmong_texts]
    simp [scope, Condition.truth, idScope, Library.Bookmark.cells, Library.Bookmark.row]
  have space : scope.value (.of "bookmarks" "namespace")
      = Library.optional .text (some bookmark.space) := by
    simp [scope, idScope, Library.Bookmark.cells, Library.Bookmark.row, Library.optional]
  show (JoinHolds engine _ scope ∧ allTrue engine lib.tables scope _ = true) ↔ _
  rw [joined, bookmarkParts, allTrue_cons, user, mem_bookmarkUsers_iff,
    Library.allTrue_oneOfTexts_iff space, BookmarkFilter.Counts]

/-! ### Full-text searches -/

/-- A row with ranks has the cells of the row and the rank of each index that
is searched. -/
theorem lookup_rankedScope (conditions : List Condition) (scope : Scope) (name : String) :
    (rankedScope engine conditions scope).lookup name
      = (scope.lookup name).map fun cells => cells ++ rankCells engine name cells conditions := by
  induction scope with
  | nil => rfl
  | cons entry scope ih =>
    obtain ⟨label, cells⟩ := entry
    rw [rankedScope, List.map_cons, List.lookup_cons, List.lookup_cons]
    by_cases same : (name == label) = true
    · obtain rfl := eq_of_beq same
      simp
    · simp only [same]
      exact ih

section Searches

variable {scope : Scope} {target : Ref} {expression : String} {entry : Cells}
  (joined : scope.lookup target.index = some entry)
include joined

/-- An entry is matched if the engine gives it a rank. -/
theorem truth_fullText_iff {tables : Tables} :
    (Condition.fullText target expression).truth engine tables scope = some true
      ↔ (engine.rank? target expression entry).isSome = true := by
  rw [Condition.truth, joined, Option.map_some, Option.some_inj]

/-- The rank of an entry, where a search of its index is the first of the
conditions. -/
theorem value_rank {conditions : List Condition} (unranked : entry.lookup "rank" = none) :
    (rankedScope engine (.fullText target expression :: conditions) scope).value
      (.of target.index "rank") = (engine.rank? target expression entry).getD .null := by
  have cells : (rankedScope engine (.fullText target expression :: conditions) scope).cells
      target.index = entry ++ ((engine.rank? target expression entry).map ("rank", ·)).toList := by
    rw [Scope.cells, lookup_rankedScope, joined, Option.map_some, Option.getD_some, rankCells,
      if_pos rfl]
  rw [Scope.value_of, cells, Cells.value, List.lookup_append, unranked, Option.none_or]
  cases engine.rank? target expression entry <;> simp

end Searches

/-! ### Searches in paths -/

section Paths

variable {p : Parts} {target : Ref} {expression : String} {ids : Int64 × Int64}

/-- A pair of ids with an entry of the index of paths. -/
def pathScope (ids : Int64 × Int64) (entry : Library.PathEntry) : Scope :=
  idScope ids ++ [("files_path_fts", entry.cells)]

/-- The rank of an entry for a search in the index of paths. -/
def pathEntryRank? (engine : Engine) (target : Ref) (expression : String)
    (entry : Library.PathEntry) : Option Value :=
  engine.fullText "files_path_fts" target.indexColumn expression entry.cells

variable (index : target.index = "files_path_fts")
  (asked : p.conditions = [.fullText target expression])
include index asked

/-- What is found are the entries of the file that the engine ranks. -/
theorem found_paths (joins : p.joins = [joinOn "files_path_fts" "rowid" fileId]) :
    p.found engine lib.tables ids
      = (lib.pathEntries.filter fun entry => decide (entry.rowid = ids.1
          ∧ (pathEntryRank? engine target expression entry).isSome = true)).map
            fun entry => rankedScope engine p.conditions (pathScope ids entry) := by
  refine Parts.found_one joins lib.shows_tables.pathEntries ids fun entry => ?_
  have joined : JoinHolds engine (joinOn "files_path_fts" "rowid" fileId) (pathScope ids entry)
      ↔ entry.rowid = ids.1 := by
    simp [pathScope, JoinHolds, joinOn, Expr.value, fileId, idScope, Library.PathEntry.cells,
      Library.PathEntry.row]
  have cells : (pathScope ids entry).lookup target.index = some entry.cells := by
    simp [pathScope, index, idScope, List.lookup_cons]
  show (JoinHolds engine _ (pathScope ids entry)
    ∧ allTrue engine lib.tables (pathScope ids entry) _ = true) ↔ _
  rw [joined, asked, allTrue_cons, truth_fullText_iff cells, Engine.rank?, index, pathEntryRank?]
  simp [allTrue]

/-- The rank of a row is the one that the engine gives the entry of the path. -/
theorem value_path_rank (entry : Library.PathEntry) :
    (rankedScope engine p.conditions (pathScope ids entry)).value (.of "files_path_fts" "rank")
      = (pathEntryRank? engine target expression entry).getD .null := by
  have cells : (pathScope ids entry).lookup target.index = some entry.cells := by
    simp [pathScope, index, idScope, List.lookup_cons]
  have unranked : entry.cells.lookup "rank" = none := rfl
  have value : (rankedScope engine [.fullText target expression] (pathScope ids entry)).value
      (.of target.index "rank") = (engine.rank? target expression entry.cells).getD .null :=
    value_rank cells unranked
  rw [index] at value
  rw [asked, value, Engine.rank?, index, pathEntryRank?]

/-- The rank of the path that a search finds. -/
theorem values_paths (joins : p.joins = [joinOn "files_path_fts" "rowid" fileId]) :
    (p.found engine lib.tables ids).map (fun scope => scope.value (.of "files_path_fts" "rank"))
      = (lib.pathRank? engine target.indexColumn expression ids.1).toList := by
  let rank? := pathEntryRank? engine target expression
  have few : (lib.pathEntries.filter (·.rowid = ids.1)).length ≤ 1 :=
    length_filter_le_one lib.nodup_pathEntries fun entry same => of_decide_eq_true same
  have split : (lib.pathEntries.filter fun entry =>
        decide (entry.rowid = ids.1 ∧ (rank? entry).isSome = true))
      = (lib.pathEntries.filter (·.rowid = ids.1)).filter fun entry => (rank? entry).isSome := by
    rw [List.filter_filter]
    exact List.filter_congr fun entry _ => by simp [Bool.and_comm]
  rw [found_paths index asked joins, List.map_map, Function.comp_def]
  simp only [value_path_rank index asked]
  rw [split, map_getD_filter_isSome, filter_eq_toList_find? few, Library.pathRank?]
  cases lib.pathEntries.find? (·.rowid = ids.1) with
  | none => rfl
  | some entry =>
    show [entry].filterMap rank? = (rank? entry).toList
    cases rank : rank? entry <;> simp [rank]

end Paths

/-! ### Searches in texts -/

section Texts

variable {p : Parts} {expression : String} {conditions : List Condition} {ids : Int64 × Int64}
  {among : Library.ExtractedText → Prop} [DecidablePred among]

/-- A pair of ids with a text and an entry of the index of texts. -/
def textScope (ids : Int64 × Int64) (text : Library.ExtractedText) (entry : Library.TextEntry) :
    Scope :=
  idScope ids ++ [("extracted_text", text.cells)] ++ [("extracted_text_fts", entry.cells)]

/-- The rank of an entry for a search in the index of texts. -/
def textEntryRank? (engine : Engine) (expression : String) (entry : Library.TextEntry) :
    Option Value :=
  engine.fullText "extracted_text_fts" none expression entry.cells

theorem lookup_textScope (text : Library.ExtractedText) (entry : Library.TextEntry) :
    (textScope ids text entry).lookup (Ref.bare "extracted_text_fts").index
      = some entry.cells := by
  simp [textScope, idScope, Ref.bare, Ref.index, List.lookup_cons]

variable (asked : p.conditions = .fullText (.bare "extracted_text_fts") expression :: conditions)
include asked

/-- What is found where the conditions after the search say which texts it
looks at. -/
theorem found_texts (joins : p.joins = extractedTextJoins)
    (restricts : ∀ scope text, Scope.cells scope "extracted_text" = text.cells →
      ((text.itemId = ids.2 ∧ allTrue engine lib.tables scope conditions = true) ↔ among text)) :
    p.found engine lib.tables ids
      = (pairsWith (fun text entry => decide ((among text ∧ entry.rowid = text.id)
          ∧ (textEntryRank? engine expression entry).isSome = true)) lib.texts
          lib.textEntries).map fun pair =>
            rankedScope engine p.conditions (textScope ids pair.1 pair.2) := by
  refine Parts.found_two joins lib.shows_tables.texts lib.shows_tables.textEntries ids
    fun text entry => ?_
  let first : Scope := idScope ids ++ [("extracted_text", text.cells)]
  have textJoined : JoinHolds engine (joinOn "extracted_text" "item_id" itemId) first
      ↔ text.itemId = ids.2 := by
    simp [first, JoinHolds, joinOn, Expr.value, itemId, idScope, Library.ExtractedText.cells,
      Library.ExtractedText.row]
  have entryJoined : JoinHolds engine
      (joinOn "extracted_text_fts" "rowid" (.of "extracted_text" "id")) (textScope ids text entry)
      ↔ entry.rowid = text.id := by
    simp [textScope, JoinHolds, joinOn, Expr.value, idScope, Library.ExtractedText.cells,
      Library.ExtractedText.row, Library.TextEntry.cells, Library.TextEntry.row]
  have textCells : (textScope ids text entry).cells "extracted_text" = text.cells := by
    simp [textScope, idScope]
  show (JoinHolds engine _ first ∧ JoinHolds engine _ (textScope ids text entry)
    ∧ allTrue engine lib.tables (textScope ids text entry) _ = true) ↔ _
  rw [textJoined, entryJoined, asked, allTrue_cons,
    truth_fullText_iff (lookup_textScope text entry),
    ← restricts (textScope ids text entry) text textCells]
  show _ ↔ _ ∧ (engine.rank? (.bare "extracted_text_fts") expression entry.cells).isSome = true
  tauto

/-- The rank of a row is the one that the engine gives the entry of the text. -/
theorem value_text_rank (text : Library.ExtractedText) (entry : Library.TextEntry) :
    (rankedScope engine p.conditions (textScope ids text entry)).value
      (.of "extracted_text_fts" "rank") = (textEntryRank? engine expression entry).getD .null := by
  have unranked : entry.cells.lookup "rank" = none := rfl
  rw [asked]
  exact value_rank (lookup_textScope text entry) unranked

/-- The ranks of the texts that a search finds. -/
theorem values_texts (joins : p.joins = extractedTextJoins)
    (restricts : ∀ scope text, Scope.cells scope "extracted_text" = text.cells →
      ((text.itemId = ids.2 ∧ allTrue engine lib.tables scope conditions = true) ↔ among text)) :
    (p.found engine lib.tables ids).map (fun scope => scope.value (.of "extracted_text_fts" "rank"))
      = lib.textRanks engine expression among := by
  let rank? (pair : Library.ExtractedText × Library.TextEntry) : Option Value :=
    textEntryRank? engine expression pair.2
  have split : (pairsWith (fun text entry => decide ((among text ∧ entry.rowid = text.id)
        ∧ (rank? (text, entry)).isSome = true)) lib.texts lib.textEntries)
      = (pairsWith (fun text entry => decide (among text ∧ entry.rowid = text.id)) lib.texts
          lib.textEntries).filter fun pair => (rank? pair).isSome := by
    rw [filter_pairsWith]
    congr 1
    funext text entry
    simp
  rw [found_texts asked joins restricts, List.map_map, Function.comp_def]
  simp only [value_text_rank asked]
  rw [Library.textRanks, ← map_getD_filter_isSome _ .null]
  exact congrArg (List.map fun pair => (rank? pair).getD .null) split

end Texts

end Filter

end MediaSearch
