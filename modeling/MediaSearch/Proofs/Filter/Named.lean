/-
MediaSearch/Proofs/Filter/Named.lean

Every name in the stage of a filter is plain.

Stages of filters are made from names of the library's own, tables and
columns, and from the name of the stage they read.  Only the latter is not
fixed, so a stage is named if the one it reads is.

Main result: `Filter.clause_isNamed`.
-/
import MediaSearch.Filter.Clause
import MediaSearch.Proofs.Sql.Arity

namespace MediaSearch

open Sql Fragment

/-! ### Lists of parts -/

namespace Sql

/-- Conditions are named if each of them is. -/
theorem conditionsNamed_eq_all (conditions : List Condition) :
    conditionsNamed conditions = conditions.all Condition.isNamed := by
  induction conditions with
  | nil => rw [conditionsNamed, List.all_nil]
  | cons c conditions ih => rw [conditionsNamed, ih, List.all_cons]

theorem conditionsNamed_append {left right : List Condition} (first : conditionsNamed left = true)
    (second : conditionsNamed right = true) : conditionsNamed (left ++ right) = true := by
  rw [conditionsNamed_eq_all] at first second ⊢
  rw [List.all_append, first, second, Bool.and_self]

theorem stagesNamed_append {stages more : List (String × Query)}
    (first : stagesNamed stages = true) (second : stagesNamed more = true) :
    stagesNamed (stages ++ more) = true := by
  induction stages with
  | nil => exact second
  | cons entry stages ih =>
    obtain ⟨name, q⟩ := entry
    rw [stagesNamed, Bool.and_eq_true] at first
    rw [List.cons_append, stagesNamed, Bool.and_eq_true]
    exact ⟨first.1, ih first.2⟩

theorem partsNamed_pair (left right : Query) :
    partsNamed [left, right] = (left.isNamed && right.isNamed) := by
  rw [partsNamed, partsNamed, partsNamed, Bool.and_true]

theorem partsNamed_iff {parts : List Query} :
    partsNamed parts = true ↔ ∀ q ∈ parts, q.isNamed = true := by
  induction parts with
  | nil => simp [partsNamed]
  | cons q parts ih => simp [partsNamed, ih]

end Sql

/-! ### Conditions on a library -/

namespace Library

variable {r : Ref}

theorem idsWhere_isNamed {table : String} (plain : isPlain table = true) {condition : Condition}
    (named : condition.isNamed = true) : (idsWhere table condition).isNamed = true := by
  have id : Column.isNamed ⟨.ref (.bare "id"), none⟩ = true := by decide
  simp [idsWhere, Query.isNamed, Source.isNamed, conditionsNamed, id, plain, named, labelIsNamed]

theorem setterNamed_isNamed (name : String) : (setterNamed name).isNamed = true := by
  have column : Ref.isNamed (.bare "name") = true := by decide
  refine idsWhere_isNamed (by decide) ?_
  simp only [Condition.isNamed, Expr.isNamed, column, Bool.and_self]

theorem itemHashed_isNamed (sha256 : String) : (itemHashed sha256).isNamed = true := by
  have column : Ref.isNamed (.bare "sha256") = true := by decide
  refine idsWhere_isNamed (by decide) ?_
  simp only [Condition.isNamed, Expr.isNamed, column, Bool.and_self]

/-- Setters are values and not part of the text. -/
theorem setBy_isNamed (named : r.isNamed = true) (names : List String) :
    conditionsNamed (setBy r names) = true := by
  have column : Ref.isNamed (.bare "name") = true := by decide
  have setters : (settersNamed names).isNamed = true := idsWhere_isNamed (by decide) column
  unfold setBy
  split
  · rfl
  · simp only [conditionsNamed, Condition.isNamed, named, setters, Bool.and_self]

theorem oneOfTexts_isNamed (named : r.isNamed = true) (texts : List String) :
    conditionsNamed (oneOfTexts r texts) = true := by
  unfold oneOfTexts
  split
  · rfl
  · simp only [conditionsNamed, Condition.isNamed, named, Bool.and_self]

theorem startsWithOneOf_isNamed (named : r.isNamed = true) (starts : List String) :
    conditionsNamed (startsWithOneOf r starts) = true := by
  unfold startsWithOneOf
  split
  · rfl
  · simp only [conditionsNamed, Condition.isNamed, named, Bool.and_self]

theorem atLeast_isNamed (named : r.isNamed = true) (bound : Option Value) :
    conditionsNamed (atLeast r bound) = true := by
  cases bound with
  | none => rfl
  | some v => simp [atLeast, conditionsNamed, Condition.isNamed, Expr.isNamed, named]

theorem atMost_isNamed (named : r.isNamed = true) (bound : Option Value) :
    conditionsNamed (atMost r bound) = true := by
  cases bound with
  | none => rfl
  | some v => simp [atMost, conditionsNamed, Condition.isNamed, Expr.isNamed, named]

end Library

/-! ### Stages of filters -/

namespace Filter

variable {upstream : String} {rank : List Column} {joins : List Join}
  {conditions : List Condition}

/-- A stage is named if what it is made of is, and the stage before it has a
plain name. -/
theorem rows_isNamed (plain : isPlain upstream = true) (ranks : rank.all Column.isNamed = true)
    (joined : joins.all Join.isNamed = true) (met : conditionsNamed conditions = true) :
    (rows upstream rank joins conditions).isNamed = true := by
  have ids : (idColumns "prev").all Column.isNamed = true := by decide
  have source : (Source.named upstream (some "prev")).isNamed = true :=
    Bool.and_eq_true_iff.mpr ⟨plain, by decide⟩
  rw [rows, Query.isNamed, List.all_append, ids, ranks, source, joined, met]
  rfl

theorem grouped_isNamed (plain : isPlain upstream = true)
    (ranks : rank.all Column.isNamed = true) (joined : joins.all Join.isNamed = true)
    (met : conditionsNamed conditions = true) :
    (grouped upstream rank joins conditions).isNamed = true := by
  have ids : (idColumns "prev").all Column.isNamed = true := by decide
  have source : (Source.named upstream (some "prev")).isNamed = true :=
    Bool.and_eq_true_iff.mpr ⟨plain, by decide⟩
  have keys : List.all [Expr.ref fileId, Expr.ref itemId] Expr.isNamed = true := by decide
  rw [grouped, Query.isNamed, List.all_append, ids, ranks, source, joined, met, keys]
  rfl

/-- The columns of distances, whatever is compared and how. -/
theorem distance_isNamed (rank : Rank) (function : DistanceFunction)
    (aggregation : DistanceAggregation) {left right : Expr} (lefts : left.isNamed = true)
    (rights : right.isNamed = true) :
    [rankColumn rank (distance function aggregation left right)].all Column.isNamed = true := by
  -- functions, columns and labels are all fixed words
  have label : isPlain rank.column = true := by cases rank <;> decide
  have l2 : isPlain "vec_distance_l2" = true := by decide
  have cosine : isPlain "vec_distance_cosine" = true := by decide
  cases function <;>
    simp [rankColumn, distance, Column.isNamed, Expr.isNamed, labelIsNamed, label, l2, cosine,
      lefts, rights]

theorem ofModel_isNamed {r : Ref} (named : r.isNamed = true) (model : String) :
    (ofModel r model).isNamed = true := by
  rw [ofModel, Condition.isNamed, named, Library.setterNamed_isNamed]
  rfl

theorem textConditions_isNamed (setters languages : List String)
    (minConfidence minLanguageConfidence : Option Binary64) :
    conditionsNamed (textConditions setters languages minConfidence minLanguageConfidence)
      = true := by
  unfold textConditions
  refine conditionsNamed_append (conditionsNamed_append (conditionsNamed_append ?_ ?_) ?_) ?_
  · exact Library.setBy_isNamed (by decide) _
  · exact Library.oneOfTexts_isNamed (by decide) _
  · exact Library.atLeast_isNamed (by decide) _
  · exact Library.atLeast_isNamed (by decide) _

/-- A condition in front of others. -/
theorem conditionsNamed_cons {c : Condition} (named : c.isNamed = true)
    (met : conditionsNamed conditions = true) : conditionsNamed (c :: conditions) = true := by
  rw [conditionsNamed, named, met]
  rfl

theorem fullText_isNamed {target : Ref} (named : target.isNamed = true) (expression : String) :
    (Condition.fullText target expression).isNamed = true := by
  rwa [Condition.isNamed]

theorem filesClause_isNamed (plain : isPlain upstream = true) (f : FileFilter) :
    (filesClause upstream f).isNamed = true := by
  refine rows_isNamed plain rfl (by decide) ?_
  refine conditionsNamed_append (conditionsNamed_append (conditionsNamed_append
    (conditionsNamed_append ?_ ?_) ?_) ?_) ?_
  · exact Library.startsWithOneOf_isNamed (by decide) _
  · exact Library.startsWithOneOf_isNamed (by decide) _
  · exact Library.atLeast_isNamed (by decide) _
  · exact Library.atMost_isNamed (by decide) _
  · cases f.availableOnly <;> decide

theorem pathTextClause_isNamed (plain : isPlain upstream = true) (f : PathTextFilter) :
    (pathTextClause upstream f).isNamed = true := by
  refine rows_isNamed plain (by decide) (by decide) ?_
  refine conditionsNamed_cons (fullText_isNamed ?_ f.expression) rfl
  cases f.filenameOnly <;> decide

theorem extractedTextClause_isNamed (plain : isPlain upstream = true)
    (f : ExtractedTextFilter) : (extractedTextClause upstream f).isNamed = true := by
  refine grouped_isNamed plain (by decide) (by decide) ?_
  exact conditionsNamed_cons (fullText_isNamed (by decide) f.expression)
    (textConditions_isNamed _ _ _ _)

theorem textEmbeddingClause_isNamed (plain : isPlain upstream = true)
    (f : TextEmbeddingFilter) : (textEmbeddingClause upstream f).isNamed = true := by
  refine grouped_isNamed plain (distance_isNamed _ _ _ (by decide) rfl) (by decide) ?_
  exact conditionsNamed_cons (ofModel_isNamed (by decide) f.model) (textConditions_isNamed _ _ _ _)

theorem imageEmbeddingClause_isNamed (plain : isPlain upstream = true)
    (f : ImageEmbeddingFilter) : (imageEmbeddingClause upstream f).isNamed = true := by
  refine grouped_isNamed plain (distance_isNamed _ _ _ (by decide) rfl) (by decide) ?_
  exact conditionsNamed_cons (ofModel_isNamed (by decide) f.model) (by decide)

theorem similarityClause_isNamed (plain : isPlain upstream = true) (f : SimilarityFilter) :
    (similarityClause upstream f).isNamed = true := by
  refine grouped_isNamed plain (distance_isNamed _ _ _ (by decide) (by decide)) (by decide) ?_
  refine conditionsNamed_cons ?_ (conditionsNamed_cons (by decide)
    (conditionsNamed_cons (ofModel_isNamed (by decide) f.model) rfl))
  rw [Condition.isNamed, Library.itemHashed_isNamed, Bool.and_true]
  decide

theorem bookmarkClause_isNamed (plain : isPlain upstream = true) (f : BookmarkFilter) :
    (bookmarkClause upstream f).isNamed = true := by
  refine grouped_isNamed plain (by decide) (by decide) ?_
  refine conditionsNamed_cons ?_ (Library.oneOfTexts_isNamed (by decide) _)
  rw [Condition.isNamed]
  decide

theorem textHits_isNamed (plain : isPlain upstream = true) (f : AnyTextFilter) :
    partsNamed (textHits upstream f) = true := by
  rw [partsNamed_iff]
  intro q hit
  rcases List.mem_append.mp hit with path | text
  · obtain ⟨-, rfl⟩ : f.includePath = true ∧ q = _ := by simpa using path
    exact rows_isNamed plain (by decide) (by decide)
      (conditionsNamed_cons (fullText_isNamed (by decide) f.expression) rfl)
  · obtain ⟨-, rfl⟩ : f.includeExtractedText = true ∧ q = _ := by simpa using text
    exact rows_isNamed plain (by decide) (by decide)
      (conditionsNamed_cons (fullText_isNamed (by decide) f.expression)
        (Library.setBy_isNamed (by decide) _))

theorem anyTextClause_isNamed (plain : isPlain upstream = true) (f : AnyTextFilter) :
    (anyTextClause upstream f).isNamed = true := by
  have columns : (idColumns "hits" ++ [rankColumn .anyText
      (.aggregate .min (.ref (.of "hits" "rank")))]).all Column.isNamed = true := by decide
  have source : (Source.query (.compound .unionAll (textHits upstream f)) (some "hits")).isNamed
      = true := by
    rw [Source.isNamed, Query.isNamed, textHits_isNamed plain f]
    decide
  have keys : List.all [Expr.ref (.of "hits" "file_id"), Expr.ref (.of "hits" "item_id")]
      Expr.isNamed = true := by decide
  rw [anyTextClause, Query.isNamed, columns, source, keys]
  rfl

/-- **The names in the stage of a filter are plain** if that of the stage it
reads is. -/
theorem clause_isNamed (plain : isPlain upstream = true) (f : Filter) :
    (f.clause upstream).isNamed = true := by
  cases f with
  | files f => exact filesClause_isNamed plain f
  | pathText f => exact pathTextClause_isNamed plain f
  | extractedText f => exact extractedTextClause_isNamed plain f
  | extractedTextEmbeddings f => exact textEmbeddingClause_isNamed plain f
  | imageEmbeddings f => exact imageEmbeddingClause_isNamed plain f
  | itemSimilarity f => exact similarityClause_isNamed plain f
  | bookmarks f => exact bookmarkClause_isNamed plain f
  | anyText f => exact anyTextClause_isNamed plain f

end Filter

end MediaSearch
