/-
MediaSearch/Proofs/Compile/Stripped.lean

What leaves no trace in a statement.

A filter that is not valid, a blank entry of a list and the restrictions of
a tag filter that names no tag are dropped when a request is compiled, and
nothing is numbered, named or ordered by them.  So a request may be stripped
of them beforehand: each filter that is kept has the same place in the chain
(`Chain.build_strip`), and the query of the tags is the same one
(`TagFilter.query?_stripped`).

Main result: `compile_stripped`.
-/
import MediaSearch.Proofs.Compile.Named
import MediaSearch.Proofs.Filter.Clean

namespace MediaSearch

open Sql

/-! ### Chains -/

namespace Chain

/-- A filter and its clean form add the same stage. -/
theorem keep_clean (chain : Chain) (f : Filter) : chain.keep f.clean = chain.keep f := by
  simp [keep]

theorem foldl_keep_clean (filters : List Filter) (chain : Chain) :
    (filters.map Filter.clean).foldl keep chain = filters.foldl keep chain := by
  rw [List.foldl_map]
  simp only [keep_clean]

theorem excludedStages_clean (i : Nat) (filters : List Filter) :
    excludedStages i (filters.map Filter.clean) = excludedStages i filters := by
  induction filters generalizing i with
  | nil => rfl
  | cons f filters ih => simp [excludedStages, ih]

/-- A chain has no trace of what is stripped from its filters. -/
theorem build_strip (tags : Option Query) (kept excluded : List Filter) :
    build tags (Filter.strip kept) (Filter.strip excluded) = build tags kept excluded := by
  unfold build
  rw [Filter.filter_isValid_strip, Filter.filter_isValid_strip, Filter.strip, foldl_keep_clean]
  unfold exclude
  rw [Filter.strip, excludedStages_clean]

end Chain

/-! ### Requests -/

namespace FilterSet

/-- The filter of one kind, cleaned, if it is there and valid. -/
def stripOne {α : Type} (wrap : α → Filter) (clean : α → α) (f : Option α) : Option α :=
  (f.filter fun f => (wrap f).isValid).map clean

/-- A set of filters without those that are not valid, the others cleaned. -/
def stripped (s : FilterSet) : FilterSet where
  files := stripOne .files FileFilter.clean s.files
  pathText := stripOne .pathText id s.pathText
  extractedText := stripOne .extractedText ExtractedTextFilter.clean s.extractedText
  extractedTextEmbeddings :=
    stripOne .extractedTextEmbeddings TextEmbeddingFilter.clean s.extractedTextEmbeddings
  imageEmbeddings := stripOne .imageEmbeddings id s.imageEmbeddings
  itemSimilarity := stripOne .itemSimilarity id s.itemSimilarity
  bookmarks := stripOne .bookmarks BookmarkFilter.clean s.bookmarks
  anyText := stripOne .anyText AnyTextFilter.clean s.anyText

/-- Stripping one filter of a set is stripping the list of it. -/
theorem toList_stripOne {α : Type} (wrap : α → Filter) (clean : α → α)
    (same : ∀ f, wrap (clean f) = (wrap f).clean) (f : Option α) :
    ((stripOne wrap clean f).map wrap).toList = Filter.strip (f.map wrap).toList := by
  cases f with
  | none => rfl
  | some f => cases valid : (wrap f).isValid <;> simp [stripOne, Filter.strip, valid, same]

/-- The filters that are left, in the same order. -/
theorem toList_stripped (s : FilterSet) : s.stripped.toList = Filter.strip s.toList := by
  simp only [toList, stripped, Filter.strip_append,
    toList_stripOne .files FileFilter.clean fun _ => rfl,
    toList_stripOne .bookmarks BookmarkFilter.clean fun _ => rfl,
    toList_stripOne .pathText id fun _ => rfl,
    toList_stripOne .extractedText ExtractedTextFilter.clean fun _ => rfl,
    toList_stripOne .anyText AnyTextFilter.clean fun _ => rfl,
    toList_stripOne .extractedTextEmbeddings TextEmbeddingFilter.clean fun _ => rfl,
    toList_stripOne .imageEmbeddings id fun _ => rfl,
    toList_stripOne .itemSimilarity id fun _ => rfl]

end FilterSet

namespace TagFilter

/-- A tag filter without its restrictions if it names no tag. -/
def stripped (f : TagFilter) : TagFilter :=
  if f.isEmpty then {} else f

/-- A tag filter and its stripped form have the same query. -/
theorem query?_stripped (f : TagFilter) (least : Option Binary64) :
    f.stripped.query? least = f.query? least := by
  unfold stripped
  split
  case isTrue empty =>
    rw [(query?_eq_none_iff f least).mpr empty, query?_eq_none_iff]
    rfl
  case isFalse => rfl

end TagFilter

/-- A request without what leaves no trace in its statements: filters that
are not valid, blank entries, and restrictions of tags where there are no
tags. -/
def Request.stripped (request : Request) : Request :=
  { request with
    criteria :=
      { tags := request.criteria.tags.stripped
        filters := request.criteria.filters.stripped
        exclude := Filter.strip request.criteria.exclude } }

/-- A rule without filters that are not valid and blank entries. -/
def ItemRule.stripped (rule : ItemRule) : ItemRule where
  positive := Filter.strip rule.positive
  negative := Filter.strip rule.negative

/-- A request and its stripped form have the same chain. -/
theorem Settings.chain_stripped (settings : Settings) (request : Request) :
    settings.chain request.stripped.criteria = settings.chain request.criteria := by
  unfold chain Request.stripped
  rw [TagFilter.query?_stripped, FilterSet.toList_stripped, Chain.build_strip]

theorem ItemRule.query_stripped (rule : ItemRule) : rule.stripped.query = rule.query := by
  unfold query stripped
  rw [Chain.build_strip]

/-- **What is stripped from a request or a rule leaves no trace in what it is
compiled to**: the statements with their parameters, the order, the limit and
the offset stay the same. -/
theorem compile_stripped (settings : Settings) (request : Request) (rule : ItemRule) :
    (∃ compiled, settings.compile request = .ok compiled
      ∧ settings.compile request.stripped = .ok compiled)
    ∧ ∃ statement, rule.compile = .ok statement ∧ rule.stripped.compile = .ok statement := by
  have statements : settings.statements request.stripped = settings.statements request := by
    rw [Settings.statements, settings.chain_stripped request]
    rfl
  constructor
  · refine ⟨_, settings.compile_eq_ok request, ?_⟩
    rw [settings.compile_eq_ok, statements]
  · refine ⟨_, rule.compile_eq_ok, ?_⟩
    rw [rule.stripped.compile_eq_ok, rule.query_stripped]

end MediaSearch
