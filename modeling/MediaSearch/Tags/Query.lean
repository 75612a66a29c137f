/-
MediaSearch/Tags/Query.lean

The query of a tag filter: the ids of the items it selects.

What an item must have is counted: its assignments of the required tags are
grouped by item, and the distinct tags of a group (or the distinct pairs of
setter and tag, if every setter is required) must be as many as were asked
for.  Tags an item must not have are taken out of the positive part where
there is one, out of all items otherwise; the last list is subtracted at the
end.

    requireAll                    SELECT … HAVING COUNT(DISTINCT …) = n
    requireAny                    SELECT … GROUP BY
    both                          all INTERSECT any
    rejectAny                     … AND item_id NOT IN (…)
    rejectAll                     … EXCEPT SELECT … HAVING …
-/
import MediaSearch.Library.Lookup
import MediaSearch.Tags.Filter

namespace MediaSearch

open Sql

/-- Which assignments of a tag count. -/
structure TagScope where
  setters : List String
  namespaces : List String
  minConfidence : Option Binary64
  everySetter : Bool
  deriving DecidableEq

namespace TagScope

/-- The restrictions of a filter.  The least confidence is the filter's own
or the given one; one that is not positive restricts nothing. -/
def of (f : TagFilter) (minConfidence : Option Binary64) : TagScope :=
  let setters := Text.nonBlank f.setters
  { setters
    namespaces := Text.nonBlank f.namespaces
    minConfidence := (f.minConfidence <|> minConfidence).filter (·.isPositive)
    everySetter := f.everySetter && !setters.isEmpty }

/-- The item that a tag is assigned to. -/
def itemId : Ref := .of "tags_items" "item_id"

/-- The conditions on an assignment of one of the names. -/
def conditions (scope : TagScope) (names : List String) : List Condition :=
  [.oneOf (.of "tags_setters" "name") (names.map .text)]
    ++ Library.atLeast (.of "tags_items" "confidence") (scope.minConfidence.map .real)
    ++ Library.setBy (.of "tags_setters" "setter_id") scope.setters
    ++ Library.startsWithOneOf (.of "tags_setters" "namespace") scope.namespaces

/-- The items of the assignments that meet conditions. -/
def assignments (conditions : List Condition) : Select Condition Source where
  columns := [⟨.ref itemId, some "item_id"⟩]
  source := .named "tags_items" none
  joins := [⟨"tags_setters", none, .ref (.of "tags_setters" "id"),
    .ref (.of "tags_items" "tag_id")⟩]
  conditions

/-- The items with some assignment of one of the names, one row for each
assignment. -/
def matching (scope : TagScope) (names : List String) : Query :=
  .select (assignments (scope.conditions names))

/-- The condition that an item is not among those of a query. -/
def notAmong (excluded : Option Query) : List Condition :=
  excluded.toList.map (.notInQuery itemId)

/-- The items with an assignment of one of the names, less the excluded. -/
def withAny (scope : TagScope) (names : List String) (excluded : Option Query) : Query :=
  .select { assignments (scope.conditions names ++ notAmong excluded) with
    grouping := [.ref itemId] }

/-- What is counted to see that an item has every tag, and how often. -/
def quota (scope : TagScope) (names : List String) : Expr × Nat :=
  let name := Expr.ref (.of "tags_setters" "name")
  if scope.everySetter then
    (.concat (.concat (.ref (.of "tags_setters" "setter_id")) .dash) name,
      names.length * scope.setters.length)
  else (name, names.length)

/-- The items with an assignment of every name, less the excluded. -/
def withAll (scope : TagScope) (names : List String) (excluded : Option Query) : Query :=
  let (counted, times) := scope.quota names
  .select { assignments (scope.conditions names ++ notAmong excluded) with
    grouping := [.ref itemId]
    having := some (.aggregate .countDistinct counted, .integer (Int64.ofNat times)) }

end TagScope

/-- All items, or those that are not among those of a query. -/
def allItems (excluded : Option Query) : Query :=
  .select
    { columns := [⟨.ref (.of "items" "id"), some "item_id"⟩]
      source := .named "items" none
      conditions := excluded.toList.map (.notInQuery (.of "items" "id")) }

namespace TagFilter

/-- The items that have what is required and no tag of `rejectAny`; nothing
if these three lists restrict nothing. -/
def positive? (f : TagFilter) (scope : TagScope) : Option Query :=
  let excluded := if f.rejectAny.isEmpty then none else some (scope.matching f.rejectAny)
  match f.requireAll, f.requireAny with
  | [], [] => excluded.map fun q => allItems (some q)
  | all, [] => some (scope.withAll all excluded)
  | [], any => some (scope.withAny any excluded)
  -- what is taken from one side of an intersection is taken from it
  | all, any =>
    some (.compound .intersect [scope.withAll all excluded, scope.withAny any none])

/-- A query as the left side of a set operation: compound ones are wrapped. -/
def operand (q : Query) : Query :=
  match q with
  | .compound _ _ =>
    .select { columns := [⟨.ref (.bare "item_id"), none⟩], source := .query q none }
  | q => q

/-- The items a filter selects; nothing if it names no tag. -/
def query? (f : TagFilter) (minConfidence : Option Binary64) : Option Query :=
  let scope := TagScope.of f minConfidence
  let positive := f.positive? scope
  if f.rejectAll.isEmpty then positive
  else
    let base := match positive with
      | some q => operand q
      | none => allItems none
    some (.compound .except [base, scope.withAll f.rejectAll none])

end TagFilter

end MediaSearch
