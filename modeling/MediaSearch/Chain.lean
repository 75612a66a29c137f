/-
MediaSearch/Chain.lean

Chains of stages.

A chain starts with the stage `root`, which holds all files, or those of the
items a tag query selects.  Each valid filter that is asked for adds a stage
that reads the one before it, so the candidates become fewer from stage to
stage.  Each valid filter that is excluded adds a stage that reads `root`;
what any of these let through is subtracted from the last candidates, in the
stage `remaining`.

Every stage has the columns `file_id` and `item_id`.  Filters that are not
valid leave no trace.
-/
import MediaSearch.Filter.Clause

namespace MediaSearch

open Sql

/-- A stage with the column of a rank. -/
structure RankedStage where
  rank : Rank
  stage : String
  deriving DecidableEq

/-- Stages that narrow the candidates down, one after the other. -/
structure Chain where
  /-- Names and queries, each reading only earlier ones. -/
  stages : List (String × Query)
  /-- The stage with the files that are left. -/
  result : String
  /-- The stages of the chain that rank, from first to last. -/
  ranks : List RankedStage
  /-- The kinds of the filters in the chain, from first to last. -/
  active : List FilterKind

namespace Chain

/-- The stage that all filters start from. -/
def rootStage : String := "root"

/-- The stage with the items that the tag query selects. -/
def tagStage : String := "tag_matches"

/-- The stage with what no excluded filter lets through. -/
def remainingStage : String := "remaining"

/-- The stage of the `i`-th filter asked for. -/
def keptStage (i : Nat) (kind : FilterKind) : String :=
  "p" ++ toString i ++ "_" ++ kind.name

/-- The stage of the `i`-th excluded filter. -/
def excludedStage (i : Nat) (kind : FilterKind) : String :=
  "n" ++ toString i ++ "_" ++ kind.name

/-- All files, or those whose item is in the stage of the tag query. -/
def rootQuery (tagged : Bool) : Query :=
  .select
    { columns :=
        [⟨.ref (.of "files" "id"), some "file_id"⟩,
          ⟨.ref (.of "files" "item_id"), some "item_id"⟩]
      source := .named "files" none
      joins := if tagged then
          [⟨tagStage, none, .ref (.of tagStage "item_id"), .ref (.of "files" "item_id")⟩]
        else [] }

/-- The chain without filters. -/
def start (tags : Option Query) : Chain where
  stages := tags.toList.map (tagStage, ·) ++ [(rootStage, rootQuery tags.isSome)]
  result := rootStage
  ranks := []
  active := []

/-- Adds the stage of a filter. -/
def keep (chain : Chain) (f : Filter) : Chain :=
  let name := keptStage chain.active.length f.kind
  { stages := chain.stages ++ [(name, f.clause chain.result)]
    result := name
    ranks := chain.ranks ++ f.kind.rank?.toList.map (⟨·, name⟩)
    active := chain.active ++ [f.kind] }

/-- The stages of excluded filters, numbered from `i` on. -/
def excludedStages (i : Nat) : List Filter → List (String × Query)
  | [] => []
  | f :: fs => (excludedStage i f.kind, f.clause rootStage) :: excludedStages (i + 1) fs

/-- The files and items of a stage. -/
def idsOf (source : Source) : Query :=
  .select
    { columns := [⟨.ref (.bare "file_id"), none⟩, ⟨.ref (.bare "item_id"), none⟩]
      source }

/-- The rows of a stage that are in none of the others. -/
def without (result : String) (others : List String) : Query :=
  .compound .except
    [idsOf (.named result none),
      idsOf (.query (.compound .union (others.map fun name => idsOf (.named name none))) none)]

/-- Takes out what any of the filters lets through. -/
def exclude (chain : Chain) (filters : List Filter) : Chain :=
  match excludedStages 0 filters with
  | [] => chain
  | excluded =>
    { chain with
      stages := chain.stages ++ excluded
        ++ [(remainingStage, without chain.result (excluded.map (·.1)))]
      result := remainingStage }

/-- The chain of a tag query, filters asked for and filters excluded. -/
def build (tags : Option Query) (kept excluded : List Filter) : Chain :=
  ((kept.filter Filter.isValid).foldl keep (start tags)).exclude
    (excluded.filter Filter.isValid)

/-- The text of the stages, up to the query that reads them. -/
def withClause (chain : Chain) : Fragment :=
  withFragment chain.stages

end Chain

/-! ### Rules -/

/-- Which items a rule picks when they are taken in. -/
structure ItemRule where
  /-- A file of the item must pass all of these. -/
  positive : List Filter := []
  /-- Files that pass any of these are left out, but not the other files of
  their items. -/
  negative : List Filter := []
  deriving DecidableEq

namespace ItemRule

/-- The items a rule picks, each once. -/
def query (rule : ItemRule) : Query :=
  let chain := Chain.build none rule.positive rule.negative
  .withStages chain.stages
    (.select
      { distinct := true
        columns := [⟨.ref (.of "result" "item_id"), some "item_id"⟩]
        source := .named chain.result (some "result") })

/-- The statement of a rule. -/
def compile (rule : ItemRule) : Except ArityMismatch Fragment := do
  let statement := rule.query.fragment
  statement.checkArity
  return statement

end ItemRule

end MediaSearch
