/-
MediaSearch/Proofs/Filter/Matching.lean

Each filter restricts a stage to what it matches.

The stage of a filter lets a pair of ids through if its query finds anything
for the pair, and its rank is the aggregate over what is found.  What is
found are the rows that the filter asks for, so the pairs are those that the
filter matches, with the rank it gives them, whatever else the stage before
holds.

Main result: `clause_restricts`.
-/
import MediaSearch.Proofs.Filter.Found

namespace MediaSearch

open Sql

namespace Filter

/-! ### What is picked -/

section Picks

variable (engine : Engine) (lib : Library) (ids : Int64 × Int64) (rest : List Value)

theorem pick_files_iff (f : FileFilter) :
    (fileParts f).pick engine lib.tables ids = some rest
      ↔ (files f).Accepts engine lib ids ∧ rest = (files f).rankValues engine lib ids := by
  rw [Parts.pick_eq_some_iff, found_files_ne_nil_iff]
  rfl

theorem pick_pathText_iff (f : PathTextFilter) :
    (pathTextParts f).pick engine lib.tables ids = some rest
      ↔ (pathText f).Accepts engine lib ids
        ∧ rest = (pathText f).rankValues engine lib ids := by
  have index : (pathTarget f).index = "files_path_fts" := by
    unfold pathTarget
    split <;> rfl
  have column : (pathTarget f).indexColumn = if f.filenameOnly then some "filename" else none := by
    unfold pathTarget
    split <;> rfl
  have rank : (pathTextParts f).rank
      = [rankColumn .pathText (.ref (.of "files_path_fts" "rank"))] := rfl
  have values : ((pathTextParts f).found engine lib.tables ids).map
        (fun scope => scope.value (.of "files_path_fts" "rank"))
      = (lib.pathRank? engine (pathTarget f).indexColumn f.expression ids.1).toList :=
    values_paths index rfl rfl
  -- a search in file names alone is one in their column
  rw [column] at values
  exact Parts.pick_column_iff rank values

theorem pick_extractedText_iff (f : ExtractedTextFilter) :
    (extractedTextParts f).pick engine lib.tables ids = some rest
      ↔ (extractedText f).Accepts engine lib ids
        ∧ rest = (extractedText f).rankValues engine lib ids := by
  have rank : (extractedTextParts f).rank = [rankColumn .extractedText
      (.aggregate .min (.ref (.of "extracted_text_fts" "rank")))] := rfl
  have values : ((extractedTextParts f).found engine lib.tables ids).map
        (fun scope => scope.value (.of "extracted_text_fts" "rank"))
      = lib.textRanks engine f.expression (f.LooksAt lib ids.2) := by
    refine values_texts rfl rfl fun scope text cells => ?_
    rw [Library.allTrue_textConditions_iff lib.shows_tables cells, ExtractedTextFilter.LooksAt]
  rw [Parts.pick_aggregate_iff rank values, Library.textRanks_ne_nil_iff]
  rfl

theorem pick_textEmbeddings_iff (f : TextEmbeddingFilter) :
    (textEmbeddingParts f).pick engine lib.tables ids = some rest
      ↔ (extractedTextEmbeddings f).Accepts engine lib ids
        ∧ rest = (extractedTextEmbeddings f).rankValues engine lib ids := by
  let distance : Expr := .apply (distanceName f.function) (.ref (.of "embeddings" "embedding"))
    (vector f.embedding)
  have rank : (textEmbeddingParts f).rank = [rankColumn .textDistance
      (.aggregate (distanceAggregate f.aggregation) distance)] := by
    rw [textEmbeddingParts, distance_eq]
  have values : ((textEmbeddingParts f).found engine lib.tables ids).map
        (fun scope => distance.value engine [scope])
      = (pairsWith (fun embedding text => f.Compares lib ids.2 embedding text) lib.embeddings
          lib.texts).map fun pair => engine.apply (distanceName f.function)
            (.blob pair.1.embedding) (.blob (vectorBytes f.embedding)) := by
    rw [found_textEmbeddings, List.map_map]
    refine List.map_congr_left fun pair _ => ?_
    simp [distance, vector, Expr.value, rankedScope, idScope, Library.Embedding.cells,
      Library.Embedding.row]
  -- there is a rank as soon as there is an embedding to aggregate over
  rw [Parts.pick_aggregate_iff rank values, ne_eq, List.map_eq_nil_iff, ← ne_eq,
    pairsWith_ne_nil_iff]
  simp only [decide_eq_true_eq]
  rfl

theorem pick_imageEmbeddings_iff (f : ImageEmbeddingFilter) :
    (imageEmbeddingParts f).pick engine lib.tables ids = some rest
      ↔ (imageEmbeddings f).Accepts engine lib ids
        ∧ rest = (imageEmbeddings f).rankValues engine lib ids := by
  let distance : Expr := .apply (distanceName f.function) (.ref (.of "embeddings" "embedding"))
    (vector f.embedding)
  have rank : (imageEmbeddingParts f).rank = [rankColumn .imageDistance
      (.aggregate (distanceAggregate f.aggregation) distance)] := by
    rw [imageEmbeddingParts, distance_eq]
  have values : ((imageEmbeddingParts f).found engine lib.tables ids).map
        (fun scope => distance.value engine [scope])
      = (lib.embeddings.filter fun embedding => f.Compares lib ids.2 embedding).map
          fun embedding => engine.apply (distanceName f.function)
            (.blob embedding.embedding) (.blob (vectorBytes f.embedding)) := by
    rw [found_imageEmbeddings, List.map_map]
    refine List.map_congr_left fun embedding _ => ?_
    simp [distance, vector, Expr.value, rankedScope, idScope, Library.Embedding.cells,
      Library.Embedding.row]
  rw [Parts.pick_aggregate_iff rank values, ne_eq, List.map_eq_nil_iff, ← ne_eq,
    filter_ne_nil_iff]
  rfl

theorem pick_similarity_iff (f : SimilarityFilter) :
    (similarityParts f).pick engine lib.tables ids = some rest
      ↔ (itemSimilarity f).Accepts engine lib ids
        ∧ rest = (itemSimilarity f).rankValues engine lib ids := by
  let distance : Expr := .apply (distanceName f.function) (.ref (.of "candidate" "embedding"))
    (.ref (.of "target" "embedding"))
  have rank : (similarityParts f).rank = [rankColumn .similarityDistance
      (.aggregate (distanceAggregate f.aggregation) distance)] := by
    rw [similarityParts, distance_eq]
  have values : ((similarityParts f).found engine lib.tables ids).map
        (fun scope => distance.value engine [scope])
      = (pairsWith (fun candidate target => f.Compares lib ids.2 candidate target) lib.embeddings
          lib.embeddings).map fun pair => engine.apply (distanceName f.function)
            (.blob pair.1.embedding) (.blob pair.2.embedding) := by
    rw [found_similarity, List.map_map]
    refine List.map_congr_left fun pair _ => ?_
    simp [distance, Expr.value, rankedScope, idScope, Library.Embedding.cells,
      Library.Embedding.row]
  rw [Parts.pick_aggregate_iff rank values, ne_eq, List.map_eq_nil_iff, ← ne_eq,
    pairsWith_ne_nil_iff]
  simp only [decide_eq_true_eq]
  rfl

theorem pick_bookmarks_iff (f : BookmarkFilter) :
    (bookmarkParts f).pick engine lib.tables ids = some rest
      ↔ (bookmarks f).Accepts engine lib ids
        ∧ rest = (bookmarks f).rankValues engine lib ids := by
  have rank : (bookmarkParts f).rank = [rankColumn .timeAdded
      (.aggregate .max (.ref (.of "bookmarks" "time_added")))] := rfl
  have values : ((bookmarkParts f).found engine lib.tables ids).map
        (fun scope => scope.value (.of "bookmarks" "time_added"))
      = (lib.bookmarks.filter fun bookmark => f.Counts ids.2 bookmark).map
          fun bookmark => .text bookmark.timeAdded := by
    rw [found_bookmarks, List.map_map]
    refine List.map_congr_left fun bookmark _ => ?_
    simp [rankedScope, idScope, Library.Bookmark.cells, Library.Bookmark.row]
  rw [Parts.pick_aggregate_iff rank values, ne_eq, List.map_eq_nil_iff, ← ne_eq,
    filter_ne_nil_iff]
  rfl

/-- The rank of a hit is the one in the part that found it. -/
theorem value_hit {p : Parts} {r : Ref} (rank : p.rank = [⟨.ref r, some "rank"⟩]) :
    (p.each engine lib.tables ids).map (fun hit => (hitScope hit).value (.of "hits" "rank"))
      = (p.found engine lib.tables ids).map fun scope => scope.value r := by
  rw [Parts.each, List.map_map]
  refine List.map_congr_left fun scope _ => ?_
  have single : p.rankOf engine [scope] = [scope.value r] := by
    rw [Parts.rankOf, rank]
    rfl
  rw [Function.comp_apply, single]
  simp [hitScope]

/-- The ranks of all hits of a search in paths and texts. -/
theorem values_hits (f : AnyTextFilter) :
    (hitsOf engine lib.tables f ids).map (fun hit => (hitScope hit).value (.of "hits" "rank"))
      = (if f.includePath then (lib.pathRank? engine none f.expression ids.1).toList else [])
        ++ if f.includeExtractedText then
            lib.textRanks engine f.expression (f.LooksAt lib ids.2)
          else [] := by
  let paths : Parts :=
    ⟨[⟨.ref (.of "files_path_fts" "rank"), some "rank"⟩], [joinOn "files_path_fts" "rowid" fileId],
      [.fullText (.bare "files_path_fts") f.expression]⟩
  let texts : Parts :=
    ⟨[⟨.ref (.of "extracted_text_fts" "rank"), some "rank"⟩], extractedTextJoins,
      .fullText (.bare "extracted_text_fts") f.expression
        :: Library.setBy (.of "extracted_text" "setter_id") (Text.nonBlank f.textSetters)⟩
  have pathsFound : (paths.found engine lib.tables ids).map
        (fun scope => scope.value (.of "files_path_fts" "rank"))
      = (lib.pathRank? engine (Ref.bare "files_path_fts").indexColumn f.expression ids.1).toList :=
    values_paths rfl rfl rfl
  have pathValues : (paths.each engine lib.tables ids).map
        (fun hit => (hitScope hit).value (.of "hits" "rank"))
      = (lib.pathRank? engine none f.expression ids.1).toList :=
    (value_hit engine lib ids rfl).trans pathsFound
  have textValues : (texts.each engine lib.tables ids).map
        (fun hit => (hitScope hit).value (.of "hits" "rank"))
      = lib.textRanks engine f.expression (f.LooksAt lib ids.2) := by
    refine (value_hit engine lib ids rfl).trans (values_texts rfl rfl fun scope text cells => ?_)
    have setter : scope.value (.of "extracted_text" "setter_id") = .integer text.setterId := by
      simp [cells, Library.ExtractedText.cells, Library.ExtractedText.row]
    rw [Library.allTrue_setBy_iff lib.shows_tables setter, AnyTextFilter.LooksAt]
  have parts : hitParts f = (if f.includePath then [paths] else [])
      ++ if f.includeExtractedText then [texts] else [] := rfl
  rw [hitsOf, parts, List.flatMap_append, List.map_append]
  congr 1
  · split
    · rw [List.flatMap_singleton, pathValues]
    · rfl
  · split
    · rw [List.flatMap_singleton, textValues]
    · rfl

/-- A candidate is picked if either kind of text matches, with the best rank of all. -/
theorem pick_hits_iff (f : AnyTextFilter) :
    pickHits engine lib.tables f ids = some rest
      ↔ (anyText f).Accepts engine lib ids ∧ rest = (anyText f).rankValues engine lib ids := by
  have values := values_hits engine lib ids f
  have best : (Expr.aggregate .min (.ref (.of "hits" "rank"))).value engine
      ((hitsOf engine lib.tables f ids).map hitScope)
      = engine.aggregate .min ((hitsOf engine lib.tables f ids).map
          fun hit => (hitScope hit).value (.of "hits" "rank")) := by
    rw [Expr.value, List.map_map]
    rfl
  -- a group has hits if one of the kinds that are searched has some
  have any : hitsOf engine lib.tables f ids ≠ [] ↔ (anyText f).Accepts engine lib ids := by
    rw [ne_eq, ← List.map_eq_nil_iff, values, List.append_eq_nil_iff, not_and_or, Accepts]
    refine or_congr ?_ ?_
    · cases f.includePath <;> cases lib.pathRank? engine none f.expression ids.1 <;> simp
    · rw [← Library.textRanks_ne_nil_iff]
      cases f.includeExtractedText <;> simp
  rw [pickHits, best, values, rankValues, ← any]
  cases hitsOf engine lib.tables f ids with
  | nil => simp
  | cons hit hits =>
    simp only [List.isEmpty_cons, Bool.false_eq_true, if_false, Option.some_inj, ne_eq,
      reduceCtorEq, not_false_eq_true, true_and]
    exact eq_comm

end Picks

/-! ### Main result -/

/-- What the stage of a filter picks is what the filter matches. -/
theorem clause_picks (engine : Engine) (lib : Library) (f : Filter) :
    ∃ pick, Decides engine lib (fun upstream => f.clause upstream) f.rankColumns pick
      ∧ ∀ ids rest, pick ids = some rest
        ↔ f.Accepts engine lib ids ∧ rest = f.rankValues engine lib ids := by
  cases f with
  | files f => exact ⟨_, decides_files f, fun ids rest => pick_files_iff engine lib ids rest f⟩
  | pathText f =>
    exact ⟨_, decides_pathText f, fun ids rest => pick_pathText_iff engine lib ids rest f⟩
  | extractedText f =>
    exact ⟨_, decides_extractedText f,
      fun ids rest => pick_extractedText_iff engine lib ids rest f⟩
  | extractedTextEmbeddings f =>
    exact ⟨_, decides_textEmbeddings f,
      fun ids rest => pick_textEmbeddings_iff engine lib ids rest f⟩
  | imageEmbeddings f =>
    exact ⟨_, decides_imageEmbeddings f,
      fun ids rest => pick_imageEmbeddings_iff engine lib ids rest f⟩
  | itemSimilarity f =>
    exact ⟨_, decides_similarity f, fun ids rest => pick_similarity_iff engine lib ids rest f⟩
  | bookmarks f =>
    exact ⟨_, decides_bookmarks f, fun ids rest => pick_bookmarks_iff engine lib ids rest f⟩
  | anyText f => exact ⟨_, decides_anyText f, fun ids rest => pick_hits_iff engine lib ids rest f⟩

/-- An engine that finds texts by their start and ranks them by length. -/
def byStart : Engine :=
  { Engine.idle with
    fullText := fun _ _ expression entry =>
      match entry.value "text" with
      | .text s =>
        if expression.toList.isPrefixOf s.toList then some (.integer (.ofNat s.length)) else none
      | _ => none }

/-- A scan with three texts, one of them in no known language. -/
def scan : Library :=
  { Library.copies with
    texts := [⟨1, 1, 1, some "en", none, none⟩, ⟨2, 1, 1, some "en", none, none⟩,
      ⟨3, 1, 1, none, none, none⟩]
    textEntries := [⟨1, "cats"⟩, ⟨2, "cat's eye"⟩, ⟨3, "cat"⟩]
    nodup_texts := by decide
    nodup_textEntries := by decide }

/-- The scan with a stage that holds the first of its files. -/
def scanTables : Tables :=
  ("root", stage [] [⟨1, 1, []⟩]) :: scan.tables

/-- A search in English texts. -/
def englishCats : Filter :=
  extractedText { expression := "cat", languages := ["en"] }

end Filter

end MediaSearch
