/-
MediaSearch/Proofs/Chain/Rule.lean

The items a rule picks.

The chain of a rule takes out files, and the rule names the items of the
files that are left, each once.  So an item is picked if some file of its own
passes (`lists_query`), whatever becomes of its other files: that no picked
item has a rejected file holds exactly when no item has both a file that
passes and one that is rejected.

Main result: `ItemRule.query_lists_passing`.
-/
import MediaSearch.Proofs.Chain.Result
import MediaSearch.Proofs.Compile.Named

namespace MediaSearch

open Sql

/-- Whether a filter lets a file through when it reads all files. -/
def Filter.Matches (engine : Engine) (lib : Library) (f : Filter) (file : Library.File) : Prop :=
  pairOf (file.id, file.itemId) ∈ Chain.alone none engine lib f

instance (engine : Engine) (lib : Library) (f : Filter) (file : Library.File) :
    Decidable (f.Matches engine lib file) :=
  inferInstanceAs (Decidable (_ ∈ _))

/-! ### Distinct items -/

/-- The column of a rule. -/
def itemColumns : List Column :=
  [⟨.ref (.of "result" "item_id"), some "item_id"⟩]

/-- The items of a stage, each once. -/
theorem lists_items {engine : Engine} {tables : Tables} {result : String} {extra : List String}
    {left : List Candidate} (relation : tables.relation result = stage extra left) :
    ((Query.select
      { distinct := true
        columns := itemColumns
        source := .named result (some "result") }).relation engine tables).Lists "item_id"
      fun item => ∃ c ∈ left, c.item = item := by
  let scope (c : Candidate) : Scope :=
    [("result", ("file_id" :: "item_id" :: extra).zip c.row)]
  have row (c : Candidate) :
      (itemColumns.map fun column => column.expr.value engine [scope c]) = idRow c.item := by
    simp [itemColumns, Expr.value, scope, Candidate.row, idRow]
  -- rows are the same exactly when their items are
  have same (c d : Candidate) :
      (itemColumns.map fun column => column.expr.value engine [scope c]).map Value.key
        = (itemColumns.map fun column => column.expr.value engine [scope d]).map Value.key
      ↔ c.item = d.item := by
    rw [row, row]
    simp [idRow, Value.key_integer_inj]
  have read : ((Source.named result (some "result")).relation engine tables).scopes "result"
      = left.map scope := by
    show (tables.relation result).scopes "result" = _
    rw [relation]
    exact Relation.scopes_map _ _ _ _
  refine ⟨(distinctBy (·.item) left).map (·.item), ?_, nodup_map_distinctBy _ _, fun item => ?_⟩
  · rw [Query.relation, rows_select_distinct rfl scope (·.item) same read, List.map_map,
      List.map_map]
    simp only [Function.comp_def, row]
    rfl
  · rw [mem_map_distinctBy, List.mem_map]

/-! ### Files that pass -/

namespace ItemRule

variable (rule : ItemRule) (engine : Engine) (lib : Library)

/-- Whether a file passes all valid filters that a rule asks for. -/
def Accepts (file : Library.File) : Prop :=
  ∀ f ∈ rule.positive, f.isValid = true → f.Matches engine lib file

/-- Whether a file passes a valid filter that a rule excludes. -/
def Rejects (file : Library.File) : Prop :=
  ∃ f ∈ rule.negative, f.isValid = true ∧ f.Matches engine lib file

/-- Whether no item that a rule picks has a file that the rule rejects. -/
def LeavesOut : Prop :=
  ∀ item, idRow item ∈ (rule.query.relation engine lib.tables).rows →
    ∀ file ∈ lib.files, file.itemId = item → ¬rule.Rejects engine lib file

/-- The items that have a file that passes, whatever their other files are. -/
theorem lists_query :
    (rule.query.relation engine lib.tables).Lists "item_id" fun item =>
      ∃ file ∈ lib.files, file.itemId = item ∧ rule.Accepts engine lib file
        ∧ ¬rule.Rejects engine lib file := by
  have untagged : ∀ q, (none : Option Query) = some q →
      ∃ P, (q.relation engine lib.tables).Lists "item_id" P := nofun
  -- the last stage of the chain, which the rule reads
  obtain ⟨root, holds, -⟩ := Chain.exists_holds_start untagged
  choose pick decides using Filter.clause_decides engine lib
  obtain ⟨left, leftHolds, -⟩ := Chain.exists_holds_build holds decides rule.positive rule.negative
  obtain ⟨extra, relation⟩ := leftHolds.result_eq
  have leaves : (Chain.build none rule.positive rule.negative).leaves engine lib
      = (left.map Candidate.ids).map pairOf := by
    rw [Chain.leaves, relation, pairs_stage]
  obtain ⟨mem_leaves, -⟩ := Chain.mem_leaves_iff untagged rule.positive rule.negative
  refine (lists_items relation).congr fun item => ?_
  constructor
  · rintro ⟨c, member, rfl⟩
    have among : pairOf c.ids ∈ (Chain.build none rule.positive rule.negative).leaves engine lib :=
      leaves ▸ List.mem_map_of_mem (List.mem_map_of_mem member)
    obtain ⟨⟨file, present, same⟩, -, accepted, rejected⟩ := (mem_leaves _).mp among
    have ids : c.ids = (file.id, file.itemId) := pairOf_injective same
    rw [ids] at accepted rejected
    refine ⟨file, present, (congrArg Prod.snd ids).symm, accepted, ?_⟩
    rintro ⟨f, excluded, valid, matched⟩
    exact rejected f excluded valid matched
  · rintro ⟨file, present, rfl, accepted, notRejected⟩
    have among : pairOf (file.id, file.itemId)
        ∈ (Chain.build none rule.positive rule.negative).leaves engine lib :=
      (mem_leaves _).mpr ⟨⟨file, present, rfl⟩, nofun, accepted,
        fun f excluded valid matched => notRejected ⟨f, excluded, valid, matched⟩⟩
    rw [leaves, List.mem_map_of_injective pairOf_injective] at among
    obtain ⟨c, member, same⟩ := List.mem_map.mp among
    exact ⟨c, member, congrArg Prod.snd same⟩

/-- Leaving out whole items takes that no item has files of both kinds. -/
theorem leavesOut_iff :
    rule.LeavesOut engine lib ↔ ∀ file ∈ lib.files, ∀ other ∈ lib.files,
      file.itemId = other.itemId → rule.Accepts engine lib file →
        ¬rule.Rejects engine lib file → ¬rule.Rejects engine lib other := by
  -- an item is picked for one of its files, and may have others
  constructor
  · intro leavesOut file present other there same accepted notRejected
    have picked := (rule.lists_query engine lib).mem_rows_iff.mpr
      ⟨file, present, rfl, accepted, notRejected⟩
    exact leavesOut file.itemId picked other there same.symm
  · intro apart item picked other there same
    obtain ⟨file, present, rfl, accepted, notRejected⟩ :=
      (rule.lists_query engine lib).mem_rows_iff.mp picked
    exact apart file present other there same.symm accepted notRejected

/-- **A rule picks the items that have a file that passes**: one that all
valid filters asked for match, and no valid filter that is excluded.  So it
leaves out all items with a file that an excluded filter matches exactly when
no item has files of both kinds, as when no item has two files, or when the
excluded filters do not tell the files of an item apart. -/
theorem query_lists_passing :
    rule.compile = .ok rule.query.fragment
      ∧ ((rule.query.relation engine lib.tables).Lists "item_id" fun item =>
        ∃ file ∈ lib.files, file.itemId = item ∧ rule.Accepts engine lib file
          ∧ ¬rule.Rejects engine lib file)
      ∧ (rule.LeavesOut engine lib ↔ ∀ file ∈ lib.files, ∀ other ∈ lib.files,
        file.itemId = other.itemId → rule.Accepts engine lib file →
          ¬rule.Rejects engine lib file → ¬rule.Rejects engine lib other)
      ∧ ((lib.files.map (·.itemId)).Nodup → rule.LeavesOut engine lib)
      ∧ ((∀ f ∈ rule.negative, f.isValid = true → ∀ file ∈ lib.files, ∀ other ∈ lib.files,
        file.itemId = other.itemId → f.Matches engine lib other → f.Matches engine lib file) →
          rule.LeavesOut engine lib) := by
  refine ⟨rule.compile_eq_ok, rule.lists_query engine lib, rule.leavesOut_iff engine lib, ?_, ?_⟩
  · intro single
    rw [leavesOut_iff]
    intro file present other there same _ notRejected
    -- one file an item
    obtain rfl := List.inj_on_of_nodup_map single present there same
    exact notRejected
  · intro alike
    rw [leavesOut_iff]
    rintro file present other there same - notRejected ⟨f, excluded, valid, matched⟩
    exact notRejected
      ⟨f, excluded, valid, alike f excluded valid file present other there same matched⟩

/-- A rule for what is no screenshot. -/
def notScreenshots : ItemRule where
  negative := [.files { pathPrefixes := ["/in/screenshot"] }]

/-- Where every item has one file, nothing rejected is picked. -/
theorem query_lists_passing_pets :
    (Library.pets.files.map (·.itemId)).Nodup
      ∧ notScreenshots.LeavesOut .idle .pets := by
  have single : (Library.pets.files.map (·.itemId)).Nodup := by decide
  exact ⟨single, (query_lists_passing notScreenshots .idle .pets).2.2.2.1 single⟩

/-- An item is picked for one of its files although the other is rejected. -/
theorem query_keeps_screenshot :
    Library.copies.FilesResolve
      ∧ idRow 1 ∈ (notScreenshots.query.relation .idle Library.copies.tables).rows
      ∧ (∃ file ∈ Library.copies.files,
        file.itemId = 1 ∧ notScreenshots.Rejects .idle .copies file)
      ∧ ¬notScreenshots.LeavesOut .idle .copies := by
  have picked : idRow 1 ∈ (notScreenshots.query.relation .idle Library.copies.tables).rows := by
    decide +kernel
  have rejected : notScreenshots.Rejects .idle .copies
      ⟨2, 1, "/in/screenshot.png", "2024-01-02T00:00:00", 1⟩ :=
    ⟨_, List.mem_cons_self, by decide +kernel, by decide +kernel⟩
  refine ⟨Library.filesResolve_copies, picked,
    ⟨_, List.mem_cons_of_mem _ List.mem_cons_self, rfl, rejected⟩, ?_⟩
  intro leavesOut
  exact leavesOut 1 picked _ (List.mem_cons_of_mem _ List.mem_cons_self) rfl rejected

end ItemRule

end MediaSearch
