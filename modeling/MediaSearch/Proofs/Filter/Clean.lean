/-
MediaSearch/Proofs/Filter/Clean.lean

Filters without blank entries.

The only thing a filter reads of its lists are the trimmed entries that are
not blank.  A list that has been cleaned has the same ones, so a filter and
its clean form are valid together (`isValid_clean`) and have the same stage
(`clause_clean`).
-/
import MediaSearch.Filter.Clause
import MediaSearch.Proofs.Text.Blank

namespace MediaSearch

/-! ### Clean lists -/

/-- The filter with no blank types and paths, and no blanks around the others. -/
def FileFilter.clean (f : FileFilter) : FileFilter :=
  { f with
    mimeTypes := Text.nonBlank f.mimeTypes
    pathPrefixes := Text.nonBlank f.pathPrefixes }

/-- The filter with clean lists of setters and languages. -/
def ExtractedTextFilter.clean (f : ExtractedTextFilter) : ExtractedTextFilter :=
  { f with
    setters := Text.nonBlank f.setters
    languages := Text.nonBlank f.languages }

/-- The filter with clean lists of the setters and languages of texts. -/
def TextEmbeddingFilter.clean (f : TextEmbeddingFilter) : TextEmbeddingFilter :=
  { f with
    sourceSetters := Text.nonBlank f.sourceSetters
    sourceLanguages := Text.nonBlank f.sourceLanguages }

/-- The filter with a clean list of namespaces. The user stays: who it is does
not change, since it is trimmed when it is looked at. -/
def BookmarkFilter.clean (f : BookmarkFilter) : BookmarkFilter :=
  { f with namespaces := Text.nonBlank f.namespaces }

/-- The filter with a clean list of the setters of texts. -/
def AnyTextFilter.clean (f : AnyTextFilter) : AnyTextFilter :=
  { f with textSetters := Text.nonBlank f.textSetters }

namespace Filter

/-- A filter with its lists trimmed and without blank entries. -/
def clean : Filter → Filter
  | files f => .files f.clean
  | extractedText f => .extractedText f.clean
  | extractedTextEmbeddings f => .extractedTextEmbeddings f.clean
  | bookmarks f => .bookmarks f.clean
  | anyText f => .anyText f.clean
  -- the other kinds have no lists of texts
  | pathText f => .pathText f
  | imageEmbeddings f => .imageEmbeddings f
  | itemSimilarity f => .itemSimilarity f

@[simp] theorem kind_clean (f : Filter) : f.clean.kind = f.kind := by
  cases f <;> rfl

@[simp] theorem isValid_clean (f : Filter) : f.clean.isValid = f.isValid := by
  cases f with
  | files f => simp [clean, FileFilter.clean, isValid]
  | _ => rfl

/-! ### Stages -/

/-- Conditions on texts look at the entries of lists that are not blank. -/
theorem textConditions_nonBlank (setters languages : List String)
    (minConfidence minLanguageConfidence : Option Binary64) :
    textConditions (Text.nonBlank setters) (Text.nonBlank languages) minConfidence
        minLanguageConfidence
      = textConditions setters languages minConfidence minLanguageConfidence := by
  simp [textConditions]

/-- **A filter and its clean form have the same stage.** -/
@[simp] theorem clause_clean (upstream : String) (f : Filter) :
    f.clean.clause upstream = f.clause upstream := by
  cases f with
  | files f => simp [clean, clause, filesClause, FileFilter.clean]
  | extractedText f =>
    simp [clean, clause, extractedTextClause, ExtractedTextFilter.clean, textConditions_nonBlank]
  | extractedTextEmbeddings f =>
    simp [clean, clause, textEmbeddingClause, TextEmbeddingFilter.clean, textConditions_nonBlank]
  | bookmarks f => simp [clean, clause, bookmarkClause, bookmarkUsers, BookmarkFilter.clean]
  | anyText f => simp [clean, clause, anyTextClause, textHits, AnyTextFilter.clean]
  | pathText f | imageEmbeddings f | itemSimilarity f => rfl

/-! ### Valid filters -/

/-- The valid ones among some filters, cleaned. -/
def strip (filters : List Filter) : List Filter :=
  (filters.filter isValid).map clean

/-- What is stripped is valid. -/
theorem filter_isValid_strip (filters : List Filter) :
    (strip filters).filter isValid = strip filters := by
  rw [List.filter_eq_self]
  intro f kept
  obtain ⟨g, among, rfl⟩ := List.mem_map.mp kept
  rw [isValid_clean]
  exact (List.mem_filter.mp among).2

/-- Filters are stripped one by one. -/
theorem strip_append (first second : List Filter) :
    strip (first ++ second) = strip first ++ strip second := by
  simp [strip]

end Filter

end MediaSearch
