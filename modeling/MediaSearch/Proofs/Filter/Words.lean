/-
MediaSearch/Proofs/Filter/Words.lean

The stage of a filter reads one other stage.

Besides the stage before it, the query of a filter reads tables of a library
only, and all names in it are words, so the same can be said of its text.
What filters differ in are the parts they make their stages from
(`Parts.Worded`).  A valid filter does read the stage before it; a search in
paths and texts that is told to look at neither would read nothing.

Main results: `clause_within`, `upstream_mem_reads`.
-/
import MediaSearch.Proofs.Filter.Clause
import MediaSearch.Proofs.Sql.Phrase

namespace MediaSearch

open Sql

/-! ### Conditions on a library -/

namespace Library

variable {r : Ref} (word : isWord r.text = true)
include word

/-- A condition on a column alone. -/
theorem within_column {c : Condition} (names : c.names = [r.text]) (reads : c.reads = []) :
    Within tableNames c.names c.reads := by
  rw [names, reads]
  exact ⟨List.forall_mem_singleton.mpr word, List.nil_subset _⟩

theorem within_inQuery {q : Query} (within : Within tableNames q.names q.reads) :
    Within tableNames (Condition.inQuery r q).names (Condition.inQuery r q).reads where
  words := by
    rw [Condition.names, allWords_cons]
    exact ⟨word, within.words⟩
  reads := within.reads

/-- Looking up setters reads their table and has words for names. -/
theorem within_setBy (names : List String) :
    ∀ c ∈ setBy r names, Within tableNames c.names c.reads := by
  have setters : Within tableNames (settersNamed names).names (settersNamed names).reads :=
    (by decide : Within tableNames ["id", "setters", "name"] ["setters"])
  unfold setBy
  split
  · exact List.forall_mem_nil _
  · exact List.forall_mem_singleton.mpr (within_inQuery word setters)

theorem within_oneOfTexts (texts : List String) :
    ∀ c ∈ oneOfTexts r texts, Within tableNames c.names c.reads := by
  unfold oneOfTexts
  split
  · exact List.forall_mem_nil _
  · exact List.forall_mem_singleton.mpr (within_column word rfl rfl)

theorem within_startsWithOneOf (starts : List String) :
    ∀ c ∈ startsWithOneOf r starts, Within tableNames c.names c.reads := by
  unfold startsWithOneOf
  split
  · exact List.forall_mem_nil _
  · exact List.forall_mem_singleton.mpr (within_column word rfl rfl)

theorem within_atLeast (bound : Option Value) :
    ∀ c ∈ atLeast r bound, Within tableNames c.names c.reads := by
  intro c present
  obtain ⟨v, -, rfl⟩ := List.mem_map.mp present
  exact within_column word rfl rfl

theorem within_atMost (bound : Option Value) :
    ∀ c ∈ atMost r bound, Within tableNames c.names c.reads := by
  intro c present
  obtain ⟨v, -, rfl⟩ := List.mem_map.mp present
  exact within_column word rfl rfl

end Library

namespace Filter

open Library

/-! ### Parts of filters -/

/-- Parts with words for all their names, which read tables of a library. -/
structure Parts.Worded (p : Parts) : Prop where
  rank : ∀ c ∈ p.rank, AllWords c.names
  joins : ∀ j ∈ p.joins, Within tableNames j.names [j.table]
  conditions : ∀ c ∈ p.conditions, Within tableNames c.names c.reads

theorem Parts.worded {rank : List Column} {joins : List Join} {conditions : List Condition}
    (ranks : ∀ c ∈ rank, AllWords c.names)
    (joined : ∀ j ∈ joins, Within tableNames j.names [j.table])
    (met : ∀ c ∈ conditions, Within tableNames c.names c.reads) :
    Parts.Worded ⟨rank, joins, conditions⟩ :=
  ⟨ranks, joined, met⟩

theorem within_ofModel {r : Ref} (word : isWord r.text = true) (model : String) :
    Within tableNames (ofModel r model).names (ofModel r model).reads := by
  have setter : Within tableNames (setterNamed (Text.trim model)).names
      (setterNamed (Text.trim model)).reads :=
    (by decide : Within tableNames ["id", "setters", "name"] ["setters"])
  exact within_inQuery word setter

theorem within_fullText {target : Ref} (word : isWord target.text = true) (expression : String) :
    Within tableNames (Condition.fullText target expression).names
      (Condition.fullText target expression).reads :=
  within_column word rfl rfl

/-- Conditions on texts read tables of the library and have words for names. -/
theorem within_textConditions (setters languages : List String)
    (least leastLanguage : Option Binary64) :
    ∀ c ∈ textConditions setters languages least leastLanguage,
      Within tableNames c.names c.reads := by
  simp only [textConditions, List.forall_mem_append]
  exact ⟨⟨⟨within_setBy (by decide) _, within_oneOfTexts (by decide) _⟩,
    within_atLeast (by decide) _⟩, within_atLeast (by decide) _⟩

/-- The columns of distances, whatever is compared and how. -/
theorem allWords_distance (rank : Rank) (function : DistanceFunction)
    (aggregation : DistanceAggregation) {left right : Expr} (lefts : AllWords left.names)
    (rights : AllWords right.names) :
    ∀ c ∈ [rankColumn rank (distance function aggregation left right)], AllWords c.names := by
  have label : isWord rank.column = true := by cases rank <;> decide
  have l2 : isWord "vec_distance_l2" = true := by decide
  have cosine : isWord "vec_distance_cosine" = true := by decide
  cases function <;>
    simp [rankColumn, distance, Column.names, Expr.names, label, l2, cosine, lefts, rights]

theorem worded_fileParts (f : FileFilter) : (fileParts f).Worded := by
  refine Parts.worded (List.forall_mem_nil _) (by decide) ?_
  simp only [List.forall_mem_append]
  refine ⟨⟨⟨⟨within_startsWithOneOf (by decide) _, within_startsWithOneOf (by decide) _⟩,
    within_atLeast (by decide) _⟩, within_atMost (by decide) _⟩, ?_⟩
  cases f.availableOnly <;> decide

theorem worded_pathTextParts (f : PathTextFilter) : (pathTextParts f).Worded := by
  have target : isWord (pathTarget f).text = true := by
    unfold pathTarget
    cases f.filenameOnly <;> decide
  exact Parts.worded (by decide) (by decide)
    (List.forall_mem_singleton.mpr (within_fullText target _))

theorem worded_extractedTextParts (f : ExtractedTextFilter) : (extractedTextParts f).Worded :=
  Parts.worded (by decide) (by decide)
    (List.forall_mem_cons.mpr ⟨within_fullText (by decide) _, within_textConditions _ _ _ _⟩)

theorem worded_textEmbeddingParts (f : TextEmbeddingFilter) : (textEmbeddingParts f).Worded :=
  Parts.worded (allWords_distance _ _ _ (by decide) (List.forall_mem_nil _)) (by decide)
    (List.forall_mem_cons.mpr ⟨within_ofModel (by decide) _, within_textConditions _ _ _ _⟩)

theorem worded_imageEmbeddingParts (f : ImageEmbeddingFilter) :
    (imageEmbeddingParts f).Worded :=
  Parts.worded (allWords_distance _ _ _ (by decide) (List.forall_mem_nil _)) (by decide)
    (List.forall_mem_cons.mpr ⟨within_ofModel (by decide) _, by decide⟩)

theorem worded_similarityParts (f : SimilarityFilter) : (similarityParts f).Worded := by
  have target : Within tableNames
      (Condition.equalsQuery (.of "target" "item_id")
        (itemHashed (Text.lower (Text.trim f.target)))).names
      (Condition.equalsQuery (.of "target" "item_id")
        (itemHashed (Text.lower (Text.trim f.target)))).reads :=
    (by decide : Within tableNames ["target.item_id", "id", "items", "sha256"] ["items"])
  refine Parts.worded (allWords_distance _ _ _ (by decide) (by decide)) (by decide) ?_
  simp only [List.forall_mem_cons]
  exact ⟨target, by decide, within_ofModel (by decide) _, nofun⟩

theorem worded_bookmarkParts (f : BookmarkFilter) : (bookmarkParts f).Worded := by
  have users : Within tableNames
      (Condition.oneOf (.of "bookmarks" "user") ((bookmarkUsers f).map .text)).names
      (Condition.oneOf (.of "bookmarks" "user") ((bookmarkUsers f).map .text)).reads :=
    (by decide : Within tableNames ["bookmarks.user"] [])
  exact Parts.worded (by decide) (by decide)
    (List.forall_mem_cons.mpr ⟨users, within_oneOfTexts (by decide) _⟩)

/-- The parts of a search in texts of either kind are worded. -/
theorem worded_hitParts {f : AnyTextFilter} {p : Parts} (present : p ∈ hitParts f) :
    p.Worded := by
  simp only [hitParts, List.mem_append, List.mem_ite_nil_right, List.mem_singleton] at present
  rcases present with ⟨-, rfl⟩ | ⟨-, rfl⟩
  · exact Parts.worded (by decide) (by decide)
      (List.forall_mem_singleton.mpr (within_fullText (by decide) _))
  · exact Parts.worded (by decide) (by decide)
      (List.forall_mem_cons.mpr ⟨within_fullText (by decide) _, within_setBy (by decide) _⟩)

/-! ### Stages -/

section Stages

variable {upstream : String} (word : isWord upstream = true)
include word

/-- A stage made from parts, its rows grouped or not. -/
theorem within_parts {p : Parts} (worded : p.Worded) {grouping : List Expr}
    (keys : ∀ e ∈ grouping, AllWords e.names) {q : Query}
    (made : q = .select
      { columns := idColumns "prev" ++ p.rank
        source := .named upstream (some "prev")
        joins := p.joins
        conditions := p.conditions
        grouping }) :
    Within (upstream :: tableNames) q.names q.reads := by
  have ids : ∀ c ∈ idColumns "prev", AllWords c.names := by decide
  have among : tableNames ⊆ upstream :: tableNames := List.subset_cons_self _ _
  subst made
  refine Within.select (List.forall_mem_append.mpr ⟨ids, worded.rank⟩) ?_
    (fun j listed => (worded.joins j listed).mono among)
    (fun c present => (worded.conditions c present).mono among) keys allWords_nil
  exact ⟨allWords_cons.mpr ⟨word, by decide⟩,
    List.cons_subset_cons upstream (List.nil_subset tableNames)⟩

/-- A stage reads the one before it and tables of the library. -/
theorem within_rows {p : Parts} (worded : p.Worded) {q : Query}
    (made : q = rows upstream p.rank p.joins p.conditions) :
    Within (upstream :: tableNames) q.names q.reads :=
  within_parts word worded (List.forall_mem_nil _) made

theorem within_grouped {p : Parts} (worded : p.Worded) {q : Query}
    (made : q = grouped upstream p.rank p.joins p.conditions) :
    Within (upstream :: tableNames) q.names q.reads :=
  within_parts word worded (by decide : ∀ e ∈ [Expr.ref fileId, Expr.ref itemId],
    AllWords e.names) made

/-- A search in texts of either kind reads the stage before it, however many
parts it has. -/
theorem within_anyText (f : AnyTextFilter) :
    Within (upstream :: tableNames) (anyTextClause upstream f).names
      (anyTextClause upstream f).reads := by
  have hits : ∀ q ∈ textHits upstream f, Within (upstream :: tableNames) q.names q.reads := by
    rw [textHits_eq_map]
    exact List.forall_mem_map.mpr fun p present => within_rows word (worded_hitParts present) rfl
  have found := Within.parts hits
  have columns : ∀ c ∈ idColumns "hits" ++ [rankColumn .anyText
      (.aggregate .min (.ref (.of "hits" "rank")))], AllWords c.names := by decide
  have keys : ∀ e ∈ [Expr.ref (.of "hits" "file_id"), Expr.ref (.of "hits" "item_id")],
      AllWords e.names := by decide
  refine Within.select columns ?_ nofun nofun keys allWords_nil
  exact ⟨allWords_append.mpr ⟨found.words, by decide⟩, found.reads⟩

/-- **The query of a filter reads tables of a library and no stage but the
one before it**, and words are all the names in it. -/
theorem clause_within (f : Filter) :
    Within (upstream :: tableNames) (f.clause upstream).names (f.clause upstream).reads := by
  cases f with
  | files f => exact within_rows word (worded_fileParts f) rfl
  | pathText f => exact within_rows word (worded_pathTextParts f) rfl
  | extractedText f => exact within_grouped word (worded_extractedTextParts f) rfl
  | extractedTextEmbeddings f => exact within_grouped word (worded_textEmbeddingParts f) rfl
  | imageEmbeddings f => exact within_grouped word (worded_imageEmbeddingParts f) rfl
  | itemSimilarity f => exact within_grouped word (worded_similarityParts f) rfl
  | bookmarks f => exact within_grouped word (worded_bookmarkParts f) rfl
  | anyText f => exact within_anyText word f

end Stages

/-- A valid filter reads the stage before it. -/
theorem upstream_mem_reads {f : Filter} (valid : f.isValid = true) (upstream : String) :
    upstream ∈ (f.clause upstream).reads := by
  cases f with
  | files f => exact List.mem_cons_self
  | pathText f => exact List.mem_cons_self
  | extractedText f => exact List.mem_cons_self
  | extractedTextEmbeddings f => exact List.mem_cons_self
  | imageEmbeddings f => exact List.mem_cons_self
  | itemSimilarity f => exact List.mem_cons_self
  | bookmarks f => exact List.mem_cons_self
  | anyText f =>
    have hits : (anyTextClause upstream f).reads = (textHits upstream f).flatMap Query.reads := by
      simp [anyTextClause, Query.reads, Source.reads, conditionReads, partReads_eq_flatMap]
    -- at least one of the two searches is made
    rw [isValid, Bool.and_eq_true, Bool.or_eq_true] at valid
    rw [clause, hits, textHits, List.flatMap_append, List.mem_append]
    rcases valid.2 with path | text
    · left
      rw [if_pos path]
      exact List.mem_cons_self
    · right
      rw [if_pos text]
      exact List.mem_cons_self

end Filter

end MediaSearch
