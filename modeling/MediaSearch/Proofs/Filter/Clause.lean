/-
MediaSearch/Proofs/Filter/Clause.lean

Each filter decides about each file of a stage by itself.

Whether the stage of a filter lets a candidate through, and with which rank,
depends on the ids of the candidate and on the library, not on the stage it
comes from or on the other candidates there (`Decides`).  It lets no
candidate through twice: what could be found twice is grouped, except where a
key sees to it.

Main result: `clause_decides`.
-/
import MediaSearch.Proofs.Filter.Stage
import MediaSearch.Proofs.Library.Content

namespace MediaSearch

open Sql

namespace Filter

/-- Whether the stages that a clause makes let candidates through as `pick`
says, which also gives their ranks. -/
def Decides (engine : Engine) (lib : Library) (clause : String → Query) (extra : List String)
    (pick : Int64 × Int64 → Option (List Value)) : Prop :=
  ∀ {tables : Tables} {upstream : String} {columns : List String} {candidates : List Candidate},
    lib.Shows tables → tables.relation upstream = stage columns candidates →
    (candidates.map Candidate.ids).Nodup →
    ∃ kept : List Candidate, (clause upstream).relation engine tables = stage extra kept
      ∧ kept.Perm (candidates.filterMap fun c => (pick c.ids).map (⟨c.file, c.item, ·⟩))

variable {engine : Engine} {lib : Library}

/-! ### Parts of filters -/

/-- A condition that keeps to the ids of the stage before and to the tables
of a library. -/
structure LocalCondition (c : Condition) : Prop where
  keeps : idView.keepsCondition c = true
  reads : c.reads ⊆ Library.tableNames

/-- Parts that do. -/
structure Parts.Local (p : Parts) : Prop where
  rank : ∀ c ∈ p.rank, idView.keepsExpr c.expr = true
  joins : ∀ j ∈ p.joins, idView.keepsJoin j = true
  joinReads : p.joins.map (·.table) ⊆ Library.tableNames
  conditions : ∀ c ∈ p.conditions, LocalCondition c

theorem Parts.isLocal {rank : List Column} {joins : List Join} {conditions : List Condition}
    (rankKeeps : ∀ c ∈ rank, idView.keepsExpr c.expr = true)
    (joinsKeep : ∀ j ∈ joins, idView.keepsJoin j = true)
    (joinReads : joins.map (·.table) ⊆ Library.tableNames)
    (areLocal : ∀ c ∈ conditions, LocalCondition c) : Parts.Local ⟨rank, joins, conditions⟩ :=
  ⟨rankKeeps, joinsKeep, joinReads, areLocal⟩

/-- What keeps to the ids and to the tables of a library keeps to the ids. -/
theorem Parts.Local.toKeeps {p : Parts} (isLocal : p.Local) : p.Keeps where
  rank := isLocal.rank
  joins := isLocal.joins
  conditions := fun c present => (isLocal.conditions c present).keeps

/-- What is found for a pair of ids does not depend on the stages that are there. -/
theorem Parts.Local.found_eq {p : Parts} (isLocal : p.Local) {tables : Tables}
    (shown : lib.Shows tables) (ids : Int64 × Int64) :
    p.found engine tables ids = p.found engine lib.tables ids :=
  Parts.found_agree shown.agree isLocal.joinReads
    (conditionReads_subset fun c present => (isLocal.conditions c present).reads) ids

section Conditions

variable {r : Ref} (keeps : idView.keepsRef r = true)
include keeps

/-- Who a setter is, is looked up in the library. -/
theorem local_setBy (names : List String) : ∀ c ∈ Library.setBy r names, LocalCondition c := by
  intro c present
  unfold Library.setBy at present
  split at present
  · cases present
  · have setters : ["setters"] ⊆ Library.tableNames := by decide
    rw [List.mem_singleton.mp present]
    exact ⟨keeps, setters⟩

theorem local_oneOfTexts (texts : List String) :
    ∀ c ∈ Library.oneOfTexts r texts, LocalCondition c := by
  intro c present
  unfold Library.oneOfTexts at present
  split at present
  · cases present
  · rw [List.mem_singleton.mp present]
    exact ⟨keeps, List.nil_subset _⟩

theorem local_startsWithOneOf (starts : List String) :
    ∀ c ∈ Library.startsWithOneOf r starts, LocalCondition c := by
  intro c present
  unfold Library.startsWithOneOf at present
  split at present
  · cases present
  · rw [List.mem_singleton.mp present]
    exact ⟨keeps, List.nil_subset _⟩

theorem local_atLeast (bound : Option Value) :
    ∀ c ∈ Library.atLeast r bound, LocalCondition c := by
  intro c present
  obtain ⟨v, -, rfl⟩ := List.mem_map.mp present
  exact ⟨by simpa [View.keepsCondition, View.keepsExpr] using keeps, List.nil_subset _⟩

theorem local_atMost (bound : Option Value) :
    ∀ c ∈ Library.atMost r bound, LocalCondition c := by
  intro c present
  obtain ⟨v, -, rfl⟩ := List.mem_map.mp present
  exact ⟨by simpa [View.keepsCondition, View.keepsExpr] using keeps, List.nil_subset _⟩

theorem local_ofModel (model : String) : LocalCondition (ofModel r model) := by
  have setters : ["setters"] ⊆ Library.tableNames := by decide
  exact ⟨keeps, setters⟩

end Conditions

theorem local_append {left right : List Condition} (lefts : ∀ c ∈ left, LocalCondition c)
    (rights : ∀ c ∈ right, LocalCondition c) : ∀ c ∈ left ++ right, LocalCondition c :=
  List.forall_mem_append.mpr ⟨lefts, rights⟩

/-- Conditions on texts look at the text and its setter. -/
theorem local_textConditions (setters languages : List String)
    (least leastLanguage : Option Binary64) :
    ∀ c ∈ textConditions setters languages least leastLanguage, LocalCondition c :=
  local_append (local_append (local_append (local_setBy (by decide) _)
    (local_oneOfTexts (by decide) _)) (local_atLeast (by decide) _)) (local_atLeast (by decide) _)

/-! ### Stages that group -/

/-- A stage that groups by file decides by what is found for the ids. -/
theorem decides_grouped {p : Parts} (isLocal : p.Local) {clause : String → Query}
    (parts : ∀ upstream, clause upstream = grouped upstream p.rank p.joins p.conditions)
    {extra : List String} (names : p.rank.map Column.name = extra) :
    Decides engine lib clause extra (p.pick engine lib.tables) := by
  intro tables upstream columns candidates shown relation distinct
  subst names
  rw [parts]
  have grouped : ∃ kept : List Candidate,
      ((grouped upstream p.rank p.joins p.conditions).rows engine tables).map (·.2)
        = kept.map Candidate.row
      ∧ kept.Perm (candidates.filterMap fun c => p.candidate? engine tables c.ids) :=
    Parts.rows_grouped isLocal.toKeeps relation distinct
  obtain ⟨kept, rows, same⟩ := grouped
  refine ⟨kept, ?_, ?_⟩
  · rw [Query.relation, rows]
    rfl
  · refine same.trans (List.Perm.of_eq (List.filterMap_congr fun c _ => ?_))
    simp only [Parts.candidate?, Parts.pick, isLocal.found_eq shown]
    rfl

/-! ### Stages that do not group -/

/-- Where nothing is found twice, no groups are needed. -/
theorem decides_rows {p : Parts} (isLocal : p.Local) {clause : String → Query}
    (parts : ∀ upstream, clause upstream = rows upstream p.rank p.joins p.conditions)
    {extra : List String} (names : p.rank.map Column.name = extra)
    (single : (idColumns "prev" ++ p.rank).any (·.expr.isAggregate) = false)
    (once : ∀ ids, (p.found engine lib.tables ids).length ≤ 1) :
    Decides engine lib clause extra (p.pick engine lib.tables) := by
  intro tables upstream columns candidates shown relation distinct
  subst names
  rw [parts]
  refine ⟨candidates.flatMap fun c => p.each engine tables c.ids, ?_, ?_⟩
  · rw [Query.relation, Parts.rows_rows isLocal.toKeeps single relation]
    rfl
  · refine List.Perm.of_eq ?_
    rw [List.filterMap_eq_flatMap_toList]
    refine List.flatMap_congr fun c _ => ?_
    simp only [Parts.each, Parts.pick, isLocal.found_eq shown]
    -- a group of at most one row is that row
    have few := once c.ids
    generalize p.found engine lib.tables c.ids = group at few
    cases group with
    | nil => simp
    | cons scope rest =>
      rw [List.length_cons] at few
      obtain rfl := List.eq_nil_of_length_eq_zero (Nat.le_zero.mp (Nat.le_of_succ_le_succ few))
      simp [Candidate.ids]

theorem local_singleton {c : Condition} (isLocal : LocalCondition c) :
    ∀ d ∈ [c], LocalCondition d :=
  List.forall_mem_singleton.mpr isLocal

theorem local_cons {c : Condition} {conditions : List Condition} (first : LocalCondition c)
    (rest : ∀ d ∈ conditions, LocalCondition d) : ∀ d ∈ c :: conditions, LocalCondition d :=
  List.forall_mem_cons.mpr ⟨first, rest⟩

/-! ### Filters -/

/-- What a filter of files does with the stage before it. -/
def fileParts (f : FileFilter) : Parts where
  rank := []
  joins := [joinOn "files" "id" fileId, joinOn "items" "id" itemId]
  conditions :=
    Library.startsWithOneOf (.of "items" "mime_type") (Text.nonBlank f.mimeTypes)
      ++ Library.startsWithOneOf (.of "files" "path") (Text.nonBlank f.pathPrefixes)
      ++ Library.atLeast (.of "items" "size") (f.minSize.map saturate)
      ++ Library.atMost (.of "items" "size") (f.maxSize.map saturate)
      ++ if f.availableOnly then [.compare (.ref (.of "files" "available")) .eq (.number 1)]
        else []

/-- What a search in paths matches: their file names, or all of the index. -/
def pathTarget (f : PathTextFilter) : Ref :=
  if f.filenameOnly then .of "files_path_fts" "filename" else .bare "files_path_fts"

/-- What a search in paths does with the stage before it. -/
def pathTextParts (f : PathTextFilter) : Parts where
  rank := [rankColumn .pathText (.ref (.of "files_path_fts" "rank"))]
  joins := [joinOn "files_path_fts" "rowid" fileId]
  conditions := [.fullText (pathTarget f) f.expression]

/-- What a search in extracted texts does with the stage before it. -/
def extractedTextParts (f : ExtractedTextFilter) : Parts where
  rank := [rankColumn .extractedText (.aggregate .min (.ref (.of "extracted_text_fts" "rank")))]
  joins := extractedTextJoins
  conditions := .fullText (.bare "extracted_text_fts") f.expression
    :: textConditions f.setters f.languages f.minConfidence f.minLanguageConfidence

/-- What a search among the embeddings of texts does with the stage before it. -/
def textEmbeddingParts (f : TextEmbeddingFilter) : Parts where
  rank := [rankColumn .textDistance (distance f.function f.aggregation
    (.ref (.of "embeddings" "embedding")) (vector f.embedding))]
  joins := [joinOn "embeddings" "item_id" itemId,
    joinOn "extracted_text" "id" (.of "embeddings" "text_id")]
  conditions := ofModel (.of "embeddings" "setter_id") f.model
    :: textConditions f.sourceSetters f.sourceLanguages f.sourceMinConfidence none

/-- What a search among the embeddings of images does with the stage before it. -/
def imageEmbeddingParts (f : ImageEmbeddingFilter) : Parts where
  rank := [rankColumn .imageDistance (distance f.function f.aggregation
    (.ref (.of "embeddings" "embedding")) (vector f.embedding))]
  joins := [joinOn "embeddings" "item_id" itemId]
  conditions :=
    [ofModel (.of "embeddings" "setter_id") f.model, .isNull (.of "embeddings" "text_id")]

/-- What a search near to an item does with the stage before it. -/
def similarityParts (f : SimilarityFilter) : Parts where
  rank := [rankColumn .similarityDistance (distance f.function f.aggregation
    (.ref (.of "candidate" "embedding")) (.ref (.of "target" "embedding")))]
  joins :=
    [⟨"embeddings", some "candidate", .ref (.of "candidate" "item_id"), .ref itemId⟩,
      ⟨"embeddings", some "target", .ref (.of "target" "setter_id"),
        .ref (.of "candidate" "setter_id")⟩]
  conditions :=
    [.equalsQuery (.of "target" "item_id") (Library.itemHashed (Text.lower (Text.trim f.target))),
      .compare (.ref itemId) .ne (.ref (.of "target" "item_id")),
      ofModel (.of "candidate" "setter_id") f.model]

/-- What a filter of bookmarks does with the stage before it. -/
def bookmarkParts (f : BookmarkFilter) : Parts where
  rank := [rankColumn .timeAdded (.aggregate .max (.ref (.of "bookmarks" "time_added")))]
  joins := [joinOn "bookmarks" "item_id" itemId]
  conditions := .oneOf (.of "bookmarks" "user") ((bookmarkUsers f).map .text)
    :: Library.oneOfTexts (.of "bookmarks" "namespace") (Text.nonBlank f.namespaces)

theorem local_fileParts (f : FileFilter) : (fileParts f).Local := by
  refine Parts.isLocal (List.forall_mem_nil _) (by decide) (by decide) ?_
  refine local_append (local_append (local_append (local_append
    (local_startsWithOneOf (by decide) _) (local_startsWithOneOf (by decide) _))
    (local_atLeast (by decide) _)) (local_atMost (by decide) _)) ?_
  split
  · exact local_singleton ⟨by decide, List.nil_subset _⟩
  · exact List.forall_mem_nil _

theorem local_pathTextParts (f : PathTextFilter) : (pathTextParts f).Local := by
  have search : LocalCondition (.fullText (pathTarget f) f.expression) := by
    unfold pathTarget
    split <;> exact ⟨by rfl, List.nil_subset _⟩
  exact Parts.isLocal (by decide) (by decide) (by decide) (local_singleton search)

theorem local_extractedTextParts (f : ExtractedTextFilter) : (extractedTextParts f).Local := by
  have search : LocalCondition (.fullText (.bare "extracted_text_fts") f.expression) :=
    ⟨rfl, List.nil_subset _⟩
  exact Parts.isLocal (by decide) (by decide) (by decide)
    (local_cons search (local_textConditions _ _ _ _))

/-- A distance keeps to the ids if what it is between does. -/
theorem keeps_distance {left right : Expr} (function : DistanceFunction)
    (aggregation : DistanceAggregation) (lefts : idView.keepsExpr left = true)
    (rights : idView.keepsExpr right = true) :
    idView.keepsExpr (distance function aggregation left right) = true := by
  simp [distance, View.keepsExpr, lefts, rights]

theorem local_textEmbeddingParts (f : TextEmbeddingFilter) : (textEmbeddingParts f).Local :=
  Parts.isLocal (List.forall_mem_singleton.mpr (keeps_distance _ _ (by decide) rfl))
    (by decide) (by decide)
    (local_cons (local_ofModel (by decide) _) (local_textConditions _ _ _ _))

theorem local_imageEmbeddingParts (f : ImageEmbeddingFilter) : (imageEmbeddingParts f).Local :=
  Parts.isLocal (List.forall_mem_singleton.mpr (keeps_distance _ _ (by decide) rfl))
    (by decide) (by decide)
    (local_cons (local_ofModel (by decide) _) (local_singleton ⟨by decide, List.nil_subset _⟩))

theorem local_similarityParts (f : SimilarityFilter) : (similarityParts f).Local := by
  have items : ["items"] ⊆ Library.tableNames := by decide
  have target : LocalCondition (.equalsQuery (.of "target" "item_id")
      (Library.itemHashed (Text.lower (Text.trim f.target)))) := ⟨rfl, items⟩
  have different : LocalCondition (.compare (.ref itemId) .ne (.ref (.of "target" "item_id"))) :=
    ⟨rfl, List.nil_subset _⟩
  exact Parts.isLocal (List.forall_mem_singleton.mpr (keeps_distance _ _ (by decide) (by decide)))
    (by decide) (by decide)
    (local_cons target (local_cons different (local_singleton (local_ofModel (by decide) _))))

theorem local_bookmarkParts (f : BookmarkFilter) : (bookmarkParts f).Local := by
  have users : LocalCondition (.oneOf (.of "bookmarks" "user")
      ((bookmarkUsers f).map .text)) := ⟨rfl, List.nil_subset _⟩
  exact Parts.isLocal (by decide) (by decide) (by decide)
    (local_cons users (local_oneOfTexts (by decide) _))

/-- Nothing more is found than what is joined. -/
theorem Parts.length_found_le {p : Parts} {tables : Tables} (ids : Int64 × Int64) :
    (p.found engine tables ids).length
      ≤ (p.joins.foldl (joinRows engine tables) [idScope ids]).length := by
  rw [Parts.found, List.length_map]
  exact List.length_filter_le _ _

/-- A file has one row, and an item has. -/
theorem length_joined_files (ids : Int64 × Int64) :
    ([joinOn "files" "id" fileId, joinOn "items" "id" itemId].foldl
      (joinRows engine lib.tables) [idScope ids]).length ≤ 1 := by
  have files : joinRows engine lib.tables ([ids].map idScope) (joinOn "files" "id" fileId)
      = (pairsWith (fun ids file => file.id = ids.1) [ids] lib.files).map fun p =>
        idScope p.1
          ++ [("files", ["id", "item_id", "path", "last_modified", "available"].zip p.2.row)] := by
    refine joinRows_map lib.shows_tables.files idScope _ (fun ids file => ?_) [ids]
    simp [joinOn, Expr.value, fileId, idScope, Library.File.row]
  have items (found : List ((Int64 × Int64) × Library.File)) : joinRows engine lib.tables
      (found.map fun p => idScope p.1
        ++ [("files", ["id", "item_id", "path", "last_modified", "available"].zip p.2.row)])
        (joinOn "items" "id" itemId)
      = (pairsWith (fun p item => item.id = p.1.2) found lib.items).map fun q =>
        (idScope q.1.1
          ++ [("files", ["id", "item_id", "path", "last_modified", "available"].zip q.1.2.row)])
          ++ [("items", ["id", "sha256", "mime_type", "size"].zip q.2.row)] := by
    refine joinRows_map lib.shows_tables.items _ _ (fun p item => ?_) found
    simp [joinOn, Expr.value, itemId, idScope, Library.Item.row]
  rw [List.foldl_cons, List.foldl_cons, List.foldl_nil,
    show [idScope ids] = [ids].map idScope from rfl, files, items, List.length_map]
  -- one item for each file that is joined, and one file for the ids
  calc
    _ ≤ (pairsWith (fun ids file => file.id = ids.1) [ids] lib.files).length :=
      length_pairsWith_le (fun p =>
        length_filter_le_one lib.nodup_items fun item same => of_decide_eq_true same) _
    _ ≤ [ids].length :=
      length_pairsWith_le (fun ids =>
        length_filter_le_one lib.nodup_files fun file same => of_decide_eq_true same) _

/-- A file has one entry in the index of paths. -/
theorem length_joined_paths (ids : Int64 × Int64) :
    ([joinOn "files_path_fts" "rowid" fileId].foldl
      (joinRows engine lib.tables) [idScope ids]).length ≤ 1 := by
  have paths : joinRows engine lib.tables ([ids].map idScope)
        (joinOn "files_path_fts" "rowid" fileId)
      = (pairsWith (fun ids entry => entry.rowid = ids.1) [ids] lib.pathEntries).map fun p =>
        idScope p.1 ++ [("files_path_fts", ["rowid", "path", "filename"].zip p.2.row)] := by
    refine joinRows_map lib.shows_tables.pathEntries idScope _ (fun ids entry => ?_) [ids]
    simp [joinOn, Expr.value, fileId, idScope, Library.PathEntry.row]
  rw [List.foldl_cons, List.foldl_nil, show [idScope ids] = [ids].map idScope from rfl, paths,
    List.length_map]
  -- the row ids of the index are unique
  exact length_pairsWith_le (fun ids =>
    length_filter_le_one lib.nodup_pathEntries fun entry same => of_decide_eq_true same) [ids]

/-- A filter of files decides which files are let through, without a rank. -/
theorem decides_files (f : FileFilter) :
    Decides engine lib (fun upstream => filesClause upstream f) []
      ((fileParts f).pick engine lib.tables) :=
  decides_rows (local_fileParts f) (fun _ => rfl) rfl rfl fun ids =>
    (Parts.length_found_le ids).trans (length_joined_files ids)

/-- A search in paths decides by the entry of the file in the index. -/
theorem decides_pathText (f : PathTextFilter) :
    Decides engine lib (fun upstream => pathTextClause upstream f) ["rank_path_fts"]
      ((pathTextParts f).pick engine lib.tables) :=
  decides_rows (local_pathTextParts f) (fun _ => rfl) rfl rfl fun ids =>
    (Parts.length_found_le ids).trans (length_joined_paths ids)

/-- A search in extracted texts decides by the texts of the item. -/
theorem decides_extractedText (f : ExtractedTextFilter) :
    Decides engine lib (fun upstream => extractedTextClause upstream f) ["rank_fts"]
      ((extractedTextParts f).pick engine lib.tables) :=
  decides_grouped (local_extractedTextParts f) (fun _ => rfl) rfl

/-- A search among the embeddings of texts decides by those of the item. -/
theorem decides_textEmbeddings (f : TextEmbeddingFilter) :
    Decides engine lib (fun upstream => textEmbeddingClause upstream f) ["text_vec_distance"]
      ((textEmbeddingParts f).pick engine lib.tables) :=
  decides_grouped (local_textEmbeddingParts f) (fun _ => rfl) rfl

/-- A search among the embeddings of images decides by those of the item. -/
theorem decides_imageEmbeddings (f : ImageEmbeddingFilter) :
    Decides engine lib (fun upstream => imageEmbeddingClause upstream f) ["image_vec_distance"]
      ((imageEmbeddingParts f).pick engine lib.tables) :=
  decides_grouped (local_imageEmbeddingParts f) (fun _ => rfl) rfl

/-- A search near to an item decides by the embeddings of both. -/
theorem decides_similarity (f : SimilarityFilter) :
    Decides engine lib (fun upstream => similarityClause upstream f)
      ["item_similarity_distance"] ((similarityParts f).pick engine lib.tables) :=
  decides_grouped (local_similarityParts f) (fun _ => rfl) rfl

/-- A filter of bookmarks decides by those of the item. -/
theorem decides_bookmarks (f : BookmarkFilter) :
    Decides engine lib (fun upstream => bookmarkClause upstream f) ["time_added"]
      ((bookmarkParts f).pick engine lib.tables) :=
  decides_grouped (local_bookmarkParts f) (fun _ => rfl) rfl

/-! ### One search in paths and texts -/

/-- The parts of the hits of a search. -/
def hitParts (f : AnyTextFilter) : List Parts :=
  let ranked (table : String) : List Column := [⟨.ref (.of table "rank"), some "rank"⟩]
  (if f.includePath then
      [⟨ranked "files_path_fts", [joinOn "files_path_fts" "rowid" fileId],
        [.fullText (.bare "files_path_fts") f.expression]⟩]
    else [])
  ++ if f.includeExtractedText then
      [⟨ranked "extracted_text_fts", extractedTextJoins,
        .fullText (.bare "extracted_text_fts") f.expression
          :: Library.setBy (.of "extracted_text" "setter_id") (Text.nonBlank f.textSetters)⟩]
    else []

/-- The parts of a search in texts of either kind are stages of their own. -/
theorem textHits_eq_map (upstream : String) (f : AnyTextFilter) :
    textHits upstream f
      = (hitParts f).map fun p => rows upstream p.rank p.joins p.conditions := by
  unfold textHits hitParts
  cases f.includePath <;> cases f.includeExtractedText <;> rfl

/-- Each part of such a search is local, does not group and has a rank of its own. -/
theorem local_hitParts {f : AnyTextFilter} {p : Parts} (present : p ∈ hitParts f) :
    p.Local ∧ (idColumns "prev" ++ p.rank).any (·.expr.isAggregate) = false
      ∧ p.rank.map Column.name = ["rank"] := by
  have path : LocalCondition (.fullText (.bare "files_path_fts") f.expression) :=
    ⟨rfl, List.nil_subset _⟩
  have text : LocalCondition (.fullText (.bare "extracted_text_fts") f.expression) :=
    ⟨rfl, List.nil_subset _⟩
  simp only [hitParts, List.mem_append, List.mem_ite_nil_right, List.mem_singleton] at present
  rcases present with ⟨-, rfl⟩ | ⟨-, rfl⟩
  · exact ⟨Parts.isLocal (by decide) (by decide) (by decide) (local_singleton path), rfl, rfl⟩
  · exact ⟨Parts.isLocal (by decide) (by decide) (by decide)
      (local_cons text (local_setBy (by decide) _)), rfl, rfl⟩

/-- The hits for a pair of ids. -/
def hitsOf (engine : Engine) (tables : Tables) (f : AnyTextFilter) (ids : Int64 × Int64) :
    List Candidate :=
  (hitParts f).flatMap fun p => p.each engine tables ids

/-- A hit as a row. -/
def hitScope (c : Candidate) : Scope :=
  [("hits", ("file_id", .integer c.file) :: ("item_id", .integer c.item)
    :: ["rank"].zip c.rest)]

/-- The hits for all candidates, those in paths before those in texts. -/
theorem rows_hits {tables : Tables} {upstream : String} {columns : List String}
    {candidates : List Candidate} (f : AnyTextFilter)
    (relation : tables.relation upstream = stage columns candidates) :
    ((Query.compound .unionAll (textHits upstream f)).rows engine tables).map (·.2)
      = ((hitParts f).flatMap fun p => candidates.flatMap fun c =>
        p.each engine tables c.ids).map Candidate.row := by
  rw [Query.rows, combineAll_unionAll, partRows_eq_map, textHits_eq_map, List.map_map,
    List.map_map, List.map_flatMap, ← List.flatMap_def]
  -- the rows of a compound come without scopes
  have single (rows : List (List Value)) :
      rows.map ((fun row => row.2) ∘ fun row => (([] : Scope), row)) = rows := List.map_id rows
  rw [single]
  refine List.flatMap_congr fun p present => ?_
  obtain ⟨isLocal, plain, -⟩ := local_hitParts present
  exact Parts.rows_rows isLocal.toKeeps plain relation

/-- The joined rows of the hits over a stage. -/
theorem scopes_hits {tables : Tables} {upstream : String} {columns : List String}
    {candidates : List Candidate} (f : AnyTextFilter)
    (relation : tables.relation upstream = stage columns candidates) :
    ((Source.query (.compound .unionAll (textHits upstream f)) (some "hits")).relation engine
        tables).scopes "hits"
      = ((hitParts f).flatMap fun p => candidates.flatMap fun c =>
        p.each engine tables c.ids).map hitScope := by
  rw [Source.relation, rows_hits f relation, textHits_eq_map]
  cases parts : hitParts f with
  | nil => rfl
  | cons p rest =>
    obtain ⟨-, -, names⟩ := local_hitParts (parts ▸ List.mem_cons_self : p ∈ hitParts f)
    rw [List.map_cons, Query.columns, rows, Query.columns, List.map_append, names,
      Relation.scopes_map]
    rfl

/-- Whether a file has a hit, and the best rank of its hits. -/
def pickHits (engine : Engine) (tables : Tables) (f : AnyTextFilter) (ids : Int64 × Int64) :
    Option (List Value) :=
  let hits := hitsOf engine tables f ids
  if hits.isEmpty then none
  else some [(Expr.aggregate .min (.ref (.of "hits" "rank"))).value engine (hits.map hitScope)]

/-- The row that the stage of a text search makes of the hits of a file. -/
def hitsRow (engine : Engine) (group : List Candidate) : List Value :=
  (idColumns "hits" ++ [rankColumn .anyText (.aggregate .min (.ref (.of "hits" "rank")))]).map
    fun c => c.expr.value engine (group.map hitScope)

/-- The hits of all candidates of a stage. -/
def allHits (engine : Engine) (tables : Tables) (f : AnyTextFilter)
    (candidates : List Candidate) : List Candidate :=
  (hitParts f).flatMap fun p => candidates.flatMap fun c => p.each engine tables c.ids

/-- The stage of a text search has one row for each group of hits. -/
theorem rows_anyTextClause {tables : Tables} {upstream : String} {columns : List String}
    {candidates : List Candidate} (f : AnyTextFilter)
    (relation : tables.relation upstream = stage columns candidates) :
    ((anyTextClause upstream f).rows engine tables).map (·.2)
      = (groupBy Candidate.ids (allHits engine tables f candidates)).map (hitsRow engine) := by
  have keys (a b : Candidate) :
      [Expr.ref (.of "hits" "file_id"), .ref (.of "hits" "item_id")].map
          (fun e => (e.value engine [hitScope a]).key)
        = [Expr.ref (.of "hits" "file_id"), .ref (.of "hits" "item_id")].map
          (fun e => (e.value engine [hitScope b]).key)
      ↔ a.ids = b.ids := by
    simp [Expr.value, hitScope, Candidate.ids, Value.key_integer_inj]
  -- without conditions nothing is left out
  have all (scopes : List Scope) :
      (scopes.filter fun scope => allTrue engine tables scope []) = scopes :=
    List.filter_eq_self.mpr fun _ _ => rfl
  rw [anyTextClause, Query.rows, List.foldl_nil, Source.name, Option.getD_some,
    scopes_hits f relation, all, map_rankedScope_of_plain (List.forall_mem_nil _),
    selectRows_grouped_map hitScope Candidate.ids keys, filter_meetsHaving_none, List.map_map,
    List.map_map]
  rfl

/-- A hit has the ids of the candidate that it is a hit for. -/
theorem ids_of_mem_each {p : Parts} {tables : Tables} {ids : Int64 × Int64} {hit : Candidate}
    (member : hit ∈ p.each engine tables ids) : hit.ids = ids := by
  obtain ⟨scope, -, rfl⟩ := List.mem_map.mp member
  rfl

/-- Every hit is one of a candidate. -/
theorem ids_of_mem_allHits {tables : Tables} {f : AnyTextFilter} {candidates : List Candidate}
    {hit : Candidate} (member : hit ∈ allHits engine tables f candidates) :
    hit.ids ∈ candidates.map Candidate.ids := by
  obtain ⟨p, -, among⟩ := List.mem_flatMap.mp member
  obtain ⟨c, present, each⟩ := List.mem_flatMap.mp among
  exact ids_of_mem_each each ▸ List.mem_map_of_mem present

/-- The hits of one candidate are those for its ids, in any tables that show
the library. -/
theorem filter_allHits {tables : Tables} (shown : lib.Shows tables) (f : AnyTextFilter)
    {candidates : List Candidate} (distinct : (candidates.map Candidate.ids).Nodup)
    {c : Candidate} (present : c ∈ candidates) :
    (allHits engine tables f candidates).filter (fun hit => hit.ids = c.ids)
      = hitsOf engine lib.tables f c.ids := by
  rw [allHits, List.filter_flatMap, hitsOf]
  refine List.flatMap_congr fun p asked => ?_
  rw [filter_flatMap_key Candidate.ids (fun c _ hit member => ids_of_mem_each member) distinct
    present, Parts.each, Parts.each, (local_hitParts asked).1.found_eq shown]

/-- The row of the hits of a file, if it has any. -/
theorem pickHits_row (tables : Tables) (f : AnyTextFilter) (c : Candidate) :
    (pickHits engine tables f c.ids).map (fun rest => Candidate.row ⟨c.file, c.item, rest⟩)
      = if hitsOf engine tables f c.ids = [] then none
        else some (hitsRow engine (hitsOf engine tables f c.ids)) := by
  cases group : hitsOf engine tables f c.ids with
  | nil => simp [pickHits, group]
  | cons hit rest =>
    -- a group is named by its first hit, and all hits have the ids of the candidate
    have ids : hit.ids = c.ids := by
      have member : hit ∈ hitsOf engine tables f c.ids := group ▸ List.mem_cons_self
      obtain ⟨p, -, among⟩ := List.mem_flatMap.mp member
      exact ids_of_mem_each among
    obtain ⟨file, item⟩ := Prod.mk.inj ids
    simp [pickHits, group, hitsRow, idColumns, rankColumn, Expr.value, hitScope, Candidate.row,
      file, item]

/-- A search in texts of either kind decides by all hits of a candidate together. -/
theorem decides_anyText (f : AnyTextFilter) :
    Decides engine lib (fun upstream => anyTextClause upstream f) ["rank_any_text"]
      (pickHits engine lib.tables f) := by
  intro tables upstream columns candidates shown relation distinct
  let picked : List Candidate := candidates.filterMap fun c =>
    (pickHits engine lib.tables f c.ids).map (⟨c.file, c.item, ·⟩)
  have rows : (((anyTextClause upstream f).rows engine tables).map (·.2)).Perm
      (picked.map Candidate.row) := by
    -- the groups are the candidates that have hits, in some order
    rw [rows_anyTextClause f relation]
    refine ((groupBy_perm_blocks Candidate.ids distinct
      fun hit member => ids_of_mem_allHits member).map (hitsRow engine)).trans
      (List.Perm.of_eq ?_)
    rw [List.map_congr_left fun c present => filter_allHits shown f distinct present,
      List.filter_map, List.map_map, List.map_filterMap, ← List.filterMap_eq_map,
      List.filterMap_filter]
    refine List.filterMap_congr fun c _ => ?_
    rw [Option.map_map]
    refine Eq.trans ?_ (pickHits_row lib.tables f c).symm
    simp
  -- rows that are a permutation of some candidates' rows are rows of candidates
  obtain ⟨kept, keptRows, same⟩ := exists_map_of_perm rows
  refine ⟨kept, ?_, same⟩
  rw [Query.relation, keptRows]
  rfl

/-! ### Main result -/

/-- The column beside the ids in the stage of a filter. -/
def rankColumns (f : Filter) : List String :=
  f.kind.rank?.toList.map Rank.column

/-- **Each filter decides about each pair of ids by itself.** -/
theorem clause_decides (engine : Engine) (lib : Library) (f : Filter) :
    ∃ pick, Decides engine lib (fun upstream => f.clause upstream) f.rankColumns pick := by
  cases f with
  | files f => exact ⟨_, decides_files f⟩
  | pathText f => exact ⟨_, decides_pathText f⟩
  | extractedText f => exact ⟨_, decides_extractedText f⟩
  | extractedTextEmbeddings f => exact ⟨_, decides_textEmbeddings f⟩
  | imageEmbeddings f => exact ⟨_, decides_imageEmbeddings f⟩
  | itemSimilarity f => exact ⟨_, decides_similarity f⟩
  | bookmarks f => exact ⟨_, decides_bookmarks f⟩
  | anyText f => exact ⟨_, decides_anyText f⟩

end Filter

end MediaSearch
