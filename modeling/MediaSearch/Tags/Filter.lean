/-
MediaSearch/Tags/Filter.lean

Tag filters and their normal form.

Four lists say which tags an item must and must not have: every tag of
`requireAll`, some tag of `requireAny`, no tag of `rejectAny`, and not all
tags of `rejectAll` together.  Setters, namespaces and confidence restrict
which assignments of a tag count, for all four lists alike.

Normalizing trims and lower-cases the tags, drops blank ones and repetitions,
and moves the only tag of a list to the list beside it: some of one tag is
taken for all of it, and not all of one tag for none of it.  Where every setter
is required these are not the same.
-/
import MediaSearch.Number.Binary
import MediaSearch.Text.Blank
import MediaSearch.Text.Lowercase

namespace MediaSearch

/-- Which tags items must and must not have. -/
structure TagFilter where
  /-- Tags that an item must have, all of them. -/
  requireAll : List String := []
  /-- Tags of which an item must have one, if there are any. -/
  requireAny : List String := []
  /-- Tags of which an item must have none. -/
  rejectAny : List String := []
  /-- Tags that an item must not have all together. -/
  rejectAll : List String := []
  /-- Every tag must have been set by every listed setter. -/
  everySetter : Bool := false
  /-- Only tags set by one of these count; any setter if there are none. -/
  setters : List String := []
  /-- Only tags in a namespace that starts with one of these count. -/
  namespaces : List String := []
  /-- Only tags that are at least as sure as this count. -/
  minConfidence : Option Binary64 := none
  deriving DecidableEq

namespace TagFilter

/-- A tag as it is compared: trimmed and in lower case. -/
def cleanTag (tag : String) : String :=
  Text.lower (Text.trim tag)

/-- The clean forms of tags, each once, without blank ones. -/
def cleanTags (tags : List String) : List String :=
  ((tags.map cleanTag).filter fun tag => !tag.isEmpty).eraseDups

/-- The trimmed entries, each once, without blank ones. -/
def cleanEntries (entries : List String) : List String :=
  (Text.nonBlank entries).eraseDups

/-- Moves the only entry of the first list to the end of the second, unless
the second has it; longer lists stay. -/
def foldSingle : (single other : List String) → List String × List String
  | [tag], other => ([], if tag ∈ other then other else other ++ [tag])
  | single, other => (single, other)

/-- The normal form of a filter: clean lists, and none of one entry that can
be moved to the list beside it. -/
def normalize (f : TagFilter) : TagFilter :=
  let (requireAny, requireAll) := foldSingle (cleanTags f.requireAny) (cleanTags f.requireAll)
  let (rejectAll, rejectAny) := foldSingle (cleanTags f.rejectAll) (cleanTags f.rejectAny)
  { f with
    requireAll, requireAny, rejectAny, rejectAll
    setters := cleanEntries f.setters
    namespaces := cleanEntries f.namespaces }

/-- Whether the filter names no tag. -/
def isEmpty (f : TagFilter) : Bool :=
  f.requireAll.isEmpty && f.requireAny.isEmpty && f.rejectAny.isEmpty && f.rejectAll.isEmpty

end TagFilter

end MediaSearch
