/-
MediaSearch/Proofs/Filter/Shape.lean

What the text of a filter's stage depends on.

The shape of a filter says how many entries its lists have and which of its
bounds are there, but not what they are (`Filter.shape`).  Filters of one
shape have stages of one text: what a request asks for never becomes part of
a statement's text.

Main result: `Filter.text_clause`.
-/
import MediaSearch.Filter.Clause
import MediaSearch.Proofs.Sql.Text

namespace MediaSearch

open Sql

/-! ### Parts of one size -/

theorem isEmpty_eq_of_length_eq {α β : Type} {as : List α} {bs : List β}
    (same : as.length = bs.length) : as.isEmpty = bs.isEmpty := by
  rw [Bool.eq_iff_iff, List.isEmpty_iff_length_eq_zero, List.isEmpty_iff_length_eq_zero, same]

theorem isSome_map_eq {α β : Type} (f : α → β) {a b : Option α} (same : a.isSome = b.isSome) :
    (a.map f).isSome = (b.map f).isSome := by
  rwa [Option.isSome_map, Option.isSome_map]

/-! ### Conditions on a library -/

namespace Library

/-- A query for ids by a condition, whatever the condition compares with. -/
theorem text_idsWhere (table : String) {condition other : Condition}
    (same : condition.fragment.text = other.fragment.text) :
    (idsWhere table condition).fragment.text = (idsWhere table other).fragment.text :=
  text_select false [] [] rfl rfl (conditionTexts_cons same rfl) rfl

theorem text_compare_param (left : Expr) (operator : Comparison) (v w : Value) :
    (Condition.compare left operator (.param v)).fragment.text
      = (Condition.compare left operator (.param w)).fragment.text := by
  simp only [Condition.fragment, Fragment.text_append, Expr.fragment, Expr.text]

/-- The name of a setter is not part of the text. -/
theorem text_setterNamed (name other : String) :
    (setterNamed name).fragment.text = (setterNamed other).fragment.text :=
  text_idsWhere "setters" (text_compare_param _ _ _ _)

/-- The hash of an item is not part of the text. -/
theorem text_itemHashed (sha256 other : String) :
    (itemHashed sha256).fragment.text = (itemHashed other).fragment.text :=
  text_idsWhere "items" (text_compare_param _ _ _ _)

variable (r : Ref) {names others : List String}

/-- Of setters, only their number is part of the text. -/
theorem texts_setBy (same : names.length = others.length) :
    conditionTexts (setBy r names) = conditionTexts (setBy r others) := by
  have setters : (settersNamed names).fragment.text = (settersNamed others).fragment.text := by
    refine text_idsWhere "setters" (text_oneOf _ ?_)
    rw [List.length_map, List.length_map, same]
  unfold setBy
  rw [isEmpty_eq_of_length_eq same]
  split
  · rfl
  · exact conditionTexts_cons (text_inQuery r setters) rfl

theorem texts_oneOfTexts (same : names.length = others.length) :
    conditionTexts (oneOfTexts r names) = conditionTexts (oneOfTexts r others) := by
  have values : (names.map Value.text).length = (others.map Value.text).length := by
    rw [List.length_map, List.length_map, same]
  unfold oneOfTexts
  rw [isEmpty_eq_of_length_eq same]
  split
  · rfl
  · exact conditionTexts_cons (text_oneOf r values) rfl

theorem texts_startsWithOneOf (same : names.length = others.length) :
    conditionTexts (startsWithOneOf r names) = conditionTexts (startsWithOneOf r others) := by
  unfold startsWithOneOf
  rw [isEmpty_eq_of_length_eq same]
  split
  · rfl
  · exact conditionTexts_cons (text_startsWithAny r same) rfl

variable {bound other : Option Value}

/-- A bound in any comparison. -/
theorem texts_bound (operator : Comparison) (same : bound.isSome = other.isSome) :
    conditionTexts (bound.toList.map fun v => .compare (.ref r) operator (.param v))
      = conditionTexts (other.toList.map fun v => .compare (.ref r) operator (.param v)) := by
  cases bound with
  | none =>
    cases other with
    | none => rfl
    | some w => cases same
  | some v =>
    cases other with
    | none => cases same
    | some w => exact conditionTexts_cons (text_compare_param (.ref r) operator v w) rfl

/-- Of a bound, only whether there is one is part of the text. -/
theorem texts_atLeast (same : bound.isSome = other.isSome) :
    conditionTexts (atLeast r bound) = conditionTexts (atLeast r other) :=
  texts_bound r .ge same

theorem texts_atMost (same : bound.isSome = other.isSome) :
    conditionTexts (atMost r bound) = conditionTexts (atMost r other) :=
  texts_bound r .le same

end Library

/-! ### Shapes -/

/-- A filter without its values.  Of a list there is the number of its
entries that are not blank, of a bound whether it is there. -/
inductive FilterShape where
  | files (mimeTypes pathPrefixes : Nat) (minSize maxSize availableOnly : Bool)
  | pathText (filenameOnly : Bool)
  | extractedText (setters languages : Nat) (minConfidence minLanguageConfidence : Bool)
  | extractedTextEmbeddings (function : DistanceFunction) (aggregation : DistanceAggregation)
    (sourceSetters sourceLanguages : Nat) (sourceMinConfidence : Bool)
  | imageEmbeddings (function : DistanceFunction) (aggregation : DistanceAggregation)
  | itemSimilarity (function : DistanceFunction) (aggregation : DistanceAggregation)
  /-- `wildcard` says whether the user is the wildcard. -/
  | bookmarks (namespaces : Nat) (wildcard includeWildcard : Bool)
  | anyText (includePath includeExtractedText : Bool) (textSetters : Nat)
  deriving DecidableEq

namespace Filter

/-- The number of entries that are not blank. -/
def entries (list : List String) : Nat :=
  (Text.nonBlank list).length

/-- The shape of a filter: what is left of it when its values are taken out. -/
def shape : Filter → FilterShape
  | files f => .files (entries f.mimeTypes) (entries f.pathPrefixes) f.minSize.isSome
    f.maxSize.isSome f.availableOnly
  | pathText f => .pathText f.filenameOnly
  | extractedText f => .extractedText (entries f.setters) (entries f.languages)
    f.minConfidence.isSome f.minLanguageConfidence.isSome
  | extractedTextEmbeddings f => .extractedTextEmbeddings f.function f.aggregation
    (entries f.sourceSetters) (entries f.sourceLanguages) f.sourceMinConfidence.isSome
  | imageEmbeddings f => .imageEmbeddings f.function f.aggregation
  | itemSimilarity f => .itemSimilarity f.function f.aggregation
  | bookmarks f => .bookmarks (entries f.namespaces) (Text.trim f.user == wildcardUser)
    f.includeWildcard
  | anyText f => .anyText f.includePath f.includeExtractedText (entries f.textSetters)

/-! ### Texts of stages -/

variable {conditions others : List Condition} {rank rank' : List Column}

/-- Stages with the same joins and alike conditions have one text. -/
theorem text_rows (upstream : String) (rank : List Column) (joins : List Join)
    (same : conditionTexts conditions = conditionTexts others) :
    (rows upstream rank joins conditions).fragment.text
      = (rows upstream rank joins others).fragment.text :=
  text_select false joins [] rfl rfl same rfl

theorem text_grouped (upstream : String) (joins : List Join)
    (ranks : rank.map (·.fragment.text) = rank'.map (·.fragment.text))
    (same : conditionTexts conditions = conditionTexts others) :
    (grouped upstream rank joins conditions).fragment.text
      = (grouped upstream rank' joins others).fragment.text := by
  refine text_select false joins _ ?_ rfl same rfl
  rw [List.map_append, List.map_append, ranks]

/-- The columns of distances from vectors. -/
theorem texts_distance (rank : Rank) (function : DistanceFunction)
    (aggregation : DistanceAggregation) (left : Expr) (v w : List Binary32) :
    [rankColumn rank (distance function aggregation left (vector v))].map (·.fragment.text)
      = [rankColumn rank (distance function aggregation left (vector w))].map
        (·.fragment.text) := by
  simp only [List.map_singleton, rankColumn, distance, vector, Column.fragment,
    Fragment.text_pushText, Expr.fragment, Expr.text]

theorem text_ofModel (r : Ref) (model other : String) :
    (ofModel r model).fragment.text = (ofModel r other).fragment.text :=
  text_inQuery r (Library.text_setterNamed _ _)

/-- Conditions on texts are worded by how many setters and languages there
are, and by which bounds. -/
theorem texts_textConditions {setters setters' languages languages' : List String}
    {minConfidence minConfidence' minLanguageConfidence minLanguageConfidence' : Option Binary64}
    (settersSame : entries setters = entries setters')
    (languagesSame : entries languages = entries languages')
    (confidenceSame : minConfidence.isSome = minConfidence'.isSome)
    (languageConfidenceSame : minLanguageConfidence.isSome = minLanguageConfidence'.isSome) :
    conditionTexts (textConditions setters languages minConfidence minLanguageConfidence)
      = conditionTexts
        (textConditions setters' languages' minConfidence' minLanguageConfidence') := by
  have confidence := isSome_map_eq Value.real confidenceSame
  have languageConfidence := isSome_map_eq Value.real languageConfidenceSame
  unfold textConditions
  simp only [conditionTexts_append, Library.texts_setBy _ settersSame,
    Library.texts_oneOfTexts _ languagesSame, Library.texts_atLeast _ confidence,
    Library.texts_atLeast _ languageConfidence]

/-- Filters of files with one shape have stages with one text. -/
theorem text_filesClause (upstream : String) {f g : FileFilter}
    (same : (files f).shape = (files g).shape) :
    (filesClause upstream f).fragment.text = (filesClause upstream g).fragment.text := by
  obtain ⟨mimeTypes, pathPrefixes, minSize, maxSize, available⟩ := FilterShape.files.inj same
  refine text_rows upstream [] _ ?_
  simp only [conditionTexts_append, Library.texts_startsWithOneOf _ mimeTypes,
    Library.texts_startsWithOneOf _ pathPrefixes,
    Library.texts_atLeast _ (isSome_map_eq saturate minSize),
    Library.texts_atMost _ (isSome_map_eq saturate maxSize), available]

theorem text_pathTextClause (upstream : String) {f g : PathTextFilter}
    (same : (pathText f).shape = (pathText g).shape) :
    (pathTextClause upstream f).fragment.text = (pathTextClause upstream g).fragment.text := by
  have filename := FilterShape.pathText.inj same
  unfold pathTextClause
  rw [filename]
  exact text_rows upstream _ _ (conditionTexts_cons (text_fullText _ _ _) rfl)

theorem text_extractedTextClause (upstream : String) {f g : ExtractedTextFilter}
    (same : (extractedText f).shape = (extractedText g).shape) :
    (extractedTextClause upstream f).fragment.text
      = (extractedTextClause upstream g).fragment.text := by
  obtain ⟨setters, languages, confidence, languageConfidence⟩ :=
    FilterShape.extractedText.inj same
  refine text_grouped upstream _ rfl (conditionTexts_cons (text_fullText _ _ _) ?_)
  exact texts_textConditions setters languages confidence languageConfidence

theorem text_textEmbeddingClause (upstream : String) {f g : TextEmbeddingFilter}
    (same : (extractedTextEmbeddings f).shape = (extractedTextEmbeddings g).shape) :
    (textEmbeddingClause upstream f).fragment.text
      = (textEmbeddingClause upstream g).fragment.text := by
  obtain ⟨function, aggregation, setters, languages, confidence⟩ :=
    FilterShape.extractedTextEmbeddings.inj same
  unfold textEmbeddingClause
  rw [function, aggregation]
  refine text_grouped upstream _ (texts_distance _ _ _ _ _ _) ?_
  exact conditionTexts_cons (text_ofModel _ _ _)
    (texts_textConditions setters languages confidence rfl)

theorem text_imageEmbeddingClause (upstream : String) {f g : ImageEmbeddingFilter}
    (same : (imageEmbeddings f).shape = (imageEmbeddings g).shape) :
    (imageEmbeddingClause upstream f).fragment.text
      = (imageEmbeddingClause upstream g).fragment.text := by
  obtain ⟨function, aggregation⟩ := FilterShape.imageEmbeddings.inj same
  unfold imageEmbeddingClause
  rw [function, aggregation]
  refine text_grouped upstream _ (texts_distance _ _ _ _ _ _) ?_
  exact conditionTexts_cons (text_ofModel _ _ _) rfl

theorem text_similarityClause (upstream : String) {f g : SimilarityFilter}
    (same : (itemSimilarity f).shape = (itemSimilarity g).shape) :
    (similarityClause upstream f).fragment.text
      = (similarityClause upstream g).fragment.text := by
  obtain ⟨function, aggregation⟩ := FilterShape.itemSimilarity.inj same
  unfold similarityClause
  rw [function, aggregation]
  refine text_grouped upstream _ rfl ?_
  exact conditionTexts_cons (text_equalsQuery _ (Library.text_itemHashed _ _))
    (conditionTexts_cons rfl (conditionTexts_cons (text_ofModel _ _ _) rfl))

/-- The users are one or two, as the filter asks for. -/
theorem length_bookmarkUsers (f : BookmarkFilter) :
    (bookmarkUsers f).length
      = if f.includeWildcard && !(Text.trim f.user == wildcardUser) then 2 else 1 := by
  show (if f.includeWildcard && !(Text.trim f.user == wildcardUser)
    then [Text.trim f.user, wildcardUser] else [Text.trim f.user]).length = _
  split <;> rfl

theorem text_bookmarkClause (upstream : String) {f g : BookmarkFilter}
    (same : (bookmarks f).shape = (bookmarks g).shape) :
    (bookmarkClause upstream f).fragment.text = (bookmarkClause upstream g).fragment.text := by
  obtain ⟨namespaces, wildcard, included⟩ := FilterShape.bookmarks.inj same
  have users : ((bookmarkUsers f).map Value.text).length
      = ((bookmarkUsers g).map Value.text).length := by
    rw [List.length_map, List.length_map, length_bookmarkUsers, length_bookmarkUsers, wildcard,
      included]
  refine text_grouped upstream _ rfl ?_
  exact conditionTexts_cons (text_oneOf _ users) (Library.texts_oneOfTexts _ namespaces)

/-- Searches in texts of either kind with one shape have stages with one text. -/
theorem text_anyTextClause (upstream : String) {f g : AnyTextFilter}
    (same : (anyText f).shape = (anyText g).shape) :
    (anyTextClause upstream f).fragment.text = (anyTextClause upstream g).fragment.text := by
  obtain ⟨path, text, setters⟩ := FilterShape.anyText.inj same
  have hits : (textHits upstream f).map (·.fragment.text)
      = (textHits upstream g).map (·.fragment.text) := by
    have paths : conditionTexts [.fullText (.bare "files_path_fts") f.expression]
        = conditionTexts [.fullText (.bare "files_path_fts") g.expression] :=
      conditionTexts_cons (text_fullText _ _ _) rfl
    have texts : conditionTexts (.fullText (.bare "extracted_text_fts") f.expression
          :: Library.setBy (.of "extracted_text" "setter_id") (Text.nonBlank f.textSetters))
        = conditionTexts (.fullText (.bare "extracted_text_fts") g.expression
          :: Library.setBy (.of "extracted_text" "setter_id") (Text.nonBlank g.textSetters)) :=
      conditionTexts_cons (text_fullText _ _ _) (Library.texts_setBy _ setters)
    unfold textHits
    rw [path, text]
    -- which hits are united depends on the two switches alone
    cases g.includePath <;> cases g.includeExtractedText <;>
      simp [text_rows upstream _ _ paths, text_rows upstream _ _ texts]
  exact text_select false [] _ rfl (text_source_query _ (text_compound _ hits)) rfl rfl

/-- **Filters of one shape have stages of one text.** -/
theorem text_clause (upstream : String) {f g : Filter} (same : f.shape = g.shape) :
    (f.clause upstream).fragment.text = (g.clause upstream).fragment.text := by
  cases f with
  | files f =>
    cases g with
    | files g => exact text_filesClause upstream same
    | _ => cases same
  | pathText f =>
    cases g with
    | pathText g => exact text_pathTextClause upstream same
    | _ => cases same
  | extractedText f =>
    cases g with
    | extractedText g => exact text_extractedTextClause upstream same
    | _ => cases same
  | extractedTextEmbeddings f =>
    cases g with
    | extractedTextEmbeddings g => exact text_textEmbeddingClause upstream same
    | _ => cases same
  | imageEmbeddings f =>
    cases g with
    | imageEmbeddings g => exact text_imageEmbeddingClause upstream same
    | _ => cases same
  | itemSimilarity f =>
    cases g with
    | itemSimilarity g => exact text_similarityClause upstream same
    | _ => cases same
  | bookmarks f =>
    cases g with
    | bookmarks g => exact text_bookmarkClause upstream same
    | _ => cases same
  | anyText f =>
    cases g with
    | anyText g => exact text_anyTextClause upstream same
    | _ => cases same

/-- The kind is part of the shape. -/
theorem kind_eq_of_shape {f g : Filter} (same : f.shape = g.shape) : f.kind = g.kind := by
  cases f <;> cases g <;> first | rfl | cases same

end Filter

end MediaSearch
