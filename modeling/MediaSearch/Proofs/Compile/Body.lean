/-
MediaSearch/Proofs/Compile/Body.lean

The rows that both statements of a search share.

The body reads the last stage of a chain and joins the file, the item and
the stages that rank.  Each of these has exactly one row for a file that is
left: keys are unique, files resolve, and what is left is in every stage that
ranks.  So no join drops a row or has it twice (`joinRows_partner`), and the
body has one row for each file of the last stage.

Main result: `rows_body`.
-/
import MediaSearch.Compile
import MediaSearch.Proofs.Chain.Result

namespace MediaSearch

open Sql

/-! ### Joins on a key -/

section Partner

variable {engine : Engine} {tables : Tables} {β : Type}

/-- The row of the last stage that a candidate is. -/
def resultScope (extra : List String) (c : Candidate) : Scope :=
  [("result", ("file_id" :: "item_id" :: extra).zip c.row)]

/-- What is joined to the last stage, under the given names. -/
structure Joined (names : List String) where
  /-- The cells joined to a candidate. -/
  cells : Candidate → Scope
  names_cells : ∀ c, (cells c).map (·.1) = names

/-- A joined row of the last stage. -/
def Joined.scope {names : List String} (joined : Joined names) (extra : List String)
    (c : Candidate) : Scope :=
  resultScope extra c ++ joined.cells c

/-- A table that is joined under a new name is found under it. -/
theorem cells_append_fresh {scope : Scope} {name : String} (fresh : name ∉ scope.map (·.1))
    (cells : Cells) : Scope.cells (scope ++ [(name, cells)]) name = cells := by
  induction scope with
  | nil => simp
  | cons entry scope ih =>
    obtain ⟨label, own⟩ := entry
    rw [List.map_cons, List.mem_cons, not_or] at fresh
    rw [List.cons_append, Scope.cells_cons, if_neg fresh.1, ih fresh.2]

/-- The join pairs each candidate with all rows of the key it wants. -/
theorem joinRows_pairs {extra names columns : List String} (joined : Joined names)
    (left : List Candidate) {table key : String} {other : Ref} {wanted : Candidate → Int64}
    {row : β → List Value} {bs : List β} {id : β → Int64}
    (relation : tables.relation table = ⟨columns, bs.map row⟩)
    (hasKey : ∀ b, Cells.value (columns.zip (row b)) key = .integer (id b))
    (fresh : table ∉ "result" :: names)
    (wants : ∀ c rest, Scope.value (resultScope extra c ++ rest) other = .integer (wanted c)) :
    joinRows engine tables (left.map (joined.scope extra))
        ⟨table, none, .ref (.of table key), .ref other⟩
      = (pairsWith (fun c b => id b = wanted c) left bs).map fun p =>
        joined.scope extra p.1 ++ [(table, columns.zip (row p.2))] := by
  refine joinRows_map relation _ _ (fun c b => ?_) left
  have free : table ∉ (joined.scope extra c).map (·.1) := by
    simpa [Joined.scope, resultScope, joined.names_cells] using fresh
  have own : Scope.value (joined.scope extra c ++ [(table, columns.zip (row b))])
      (.of table key) = .integer (id b) := by
    rw [Scope.value_of, cells_append_fresh free, hasKey]
  have others : Scope.value (joined.scope extra c ++ [(table, columns.zip (row b))]) other
      = .integer (wanted c) := by
    rw [Joined.scope, List.append_assoc]
    exact wants c _
  simp only [Expr.value, Option.getD_none, List.headD_cons, own, others,
    Comparison.truth_eq_integer, decide_eq_true_eq]

/-- **Joining a table on its key keeps the rows that have a partner**, each
once. -/
theorem joinRows_key {extra names columns : List String} (joined : Joined names)
    {left : List Candidate} {table key : String} {other : Ref} {wanted : Candidate → Int64}
    {row : β → List Value} {bs : List β} {id : β → Int64}
    (relation : tables.relation table = ⟨columns, bs.map row⟩)
    (hasKey : ∀ b, Cells.value (columns.zip (row b)) key = .integer (id b))
    (unique : (bs.map id).Nodup) (fresh : table ∉ "result" :: names)
    (wants : ∀ c rest, Scope.value (resultScope extra c ++ rest) other = .integer (wanted c)) :
    ∃ more : Joined (names ++ [table]),
      joinRows engine tables (left.map (joined.scope extra))
          ⟨table, none, .ref (.of table key), .ref other⟩
        = (left.filter fun c => wanted c ∈ bs.map id).map (more.scope extra) := by
  -- the cells of the partner; what they are where there is none does not matter
  let cells (c : Candidate) : Cells :=
    ((bs.find? fun b => id b = wanted c).map fun b => columns.zip (row b)).getD []
  let more : Joined (names ++ [table]) :=
    ⟨fun c => joined.cells c ++ [(table, cells c)], fun c => by simp [joined.names_cells]⟩
  refine ⟨more, ?_⟩
  rw [joinRows_pairs joined left relation hasKey fresh wants, pairsWith_key unique,
    List.map_filterMap, ← List.filterMap_eq_map, List.filterMap_filter]
  refine List.filterMap_congr fun c _ => ?_
  cases found : bs.find? fun b => id b = wanted c with
  | none =>
    have absent : wanted c ∉ bs.map id := by
      intro present
      obtain ⟨b, there, same⟩ := List.mem_map.mp present
      exact List.find?_eq_none.mp found b there (decide_eq_true same)
    rw [if_neg (by simpa using absent)]
    rfl
  | some b =>
    have key : id b = wanted c := by simpa using List.find?_some found
    have present : wanted c ∈ bs.map id :=
      key ▸ List.mem_map_of_mem (List.mem_of_find?_eq_some found)
    rw [if_pos (by simpa using present)]
    simp [more, cells, found, Joined.scope]

/-- Where every row has one, all are kept. -/
theorem joinRows_partner {extra names columns : List String} (joined : Joined names)
    {left : List Candidate} {table key : String} {other : Ref} {wanted : Candidate → Int64}
    {row : β → List Value} {bs : List β} {id : β → Int64}
    (relation : tables.relation table = ⟨columns, bs.map row⟩)
    (hasKey : ∀ b, Cells.value (columns.zip (row b)) key = .integer (id b))
    (unique : (bs.map id).Nodup) (fresh : table ∉ "result" :: names)
    (wants : ∀ c rest, Scope.value (resultScope extra c ++ rest) other = .integer (wanted c))
    (partner : ∀ c ∈ left, ∃ b ∈ bs, id b = wanted c) :
    ∃ more : Joined (names ++ [table]),
      joinRows engine tables (left.map (joined.scope extra))
          ⟨table, none, .ref (.of table key), .ref other⟩
        = left.map (more.scope extra) := by
  obtain ⟨more, rows⟩ : ∃ more : Joined (names ++ [table]), joinRows engine tables
      (left.map (joined.scope extra)) ⟨table, none, .ref (.of table key), .ref other⟩
        = (left.filter fun c => wanted c ∈ bs.map id).map (more.scope extra) :=
    joinRows_key joined relation hasKey unique fresh wants
  -- every row has a partner, so none is dropped
  have all : left.filter (fun c => wanted c ∈ bs.map id) = left :=
    List.filter_eq_self.mpr fun c member =>
      decide_eq_true (List.mem_map.mpr (partner c member))
  rw [all] at rows
  exact ⟨more, rows⟩

end Partner

namespace Chain

variable {engine : Engine} {lib : Library} {tables : Tables} {left : List Candidate}

/-- Whatever is joined to it, a row of the result has the id of its file. -/
theorem wants_file (extra : List String) (c : Candidate) (rest : Scope) :
    Scope.value (resultScope extra c ++ rest) (.of "result" "file_id") = .integer c.file := by
  simp [resultScope, Candidate.row]

/-- Whatever is joined to it, a row of the result has the id of its item. -/
theorem wants_item (extra : List String) (c : Candidate) (rest : Scope) :
    Scope.value (resultScope extra c ++ rest) (.of "result" "item_id") = .integer c.item := by
  simp [resultScope, Candidate.row]

/-- The stages that rank drop nothing and have nothing twice. -/
theorem foldl_rankJoins {extra : List String} (result : String) {ranks : List RankedStage}
    (rankAll : ∀ r ∈ ranks, RanksAll tables r left)
    (distinct : (ranks.map (·.stage)).Nodup) {names : List String}
    (fresh : ∀ r ∈ ranks, r.stage ∉ "result" :: names) (joined : Joined names) :
    ∃ (names : List String) (more : Joined names),
      (ranks.flatMap (rankJoin result)).foldl (joinRows engine tables)
          (left.map (joined.scope extra))
        = left.map (more.scope extra) := by
  induction ranks generalizing names with
  | nil => exact ⟨names, joined, rfl⟩
  | cons r ranks ih =>
    rw [List.map_cons, List.nodup_cons] at distinct
    have rankRest := fun s there => rankAll s (List.mem_cons_of_mem r there)
    rw [List.flatMap_cons, List.foldl_append]
    -- a stage that is the result itself is not joined
    by_cases own : r.stage = result
    · rw [rankJoin, if_pos own]
      exact ih rankRest distinct.2 (fun s there => fresh s (List.mem_cons_of_mem r there)) joined
    · obtain ⟨candidates, relation, once, all⟩ := (rankAll r List.mem_cons_self).ranked
      have partner : ∀ c ∈ left, ∃ d ∈ candidates, d.file = c.file := by
        intro c member
        obtain ⟨d, there, same⟩ := List.mem_map.mp (all c member)
        exact ⟨d, there, (Prod.mk.inj same).1⟩
      have step : ∃ more : Joined (names ++ [r.stage]),
          joinRows engine tables (left.map (joined.scope extra))
              ⟨r.stage, none, .ref (.of r.stage "file_id"), .ref (.of "result" "file_id")⟩
            = left.map (more.scope extra) :=
        joinRows_partner joined relation (fun d => by simp [Candidate.row]) once
          (fresh r List.mem_cons_self) (wants_file extra) partner
      obtain ⟨more, rows⟩ := step
      rw [rankJoin, if_neg own, List.foldl_cons, List.foldl_nil, rows]
      refine ih rankRest distinct.2 (fun s there => ?_) more
      have before := fresh s (List.mem_cons_of_mem r there)
      have other : s.stage ≠ r.stage := fun same =>
        distinct.1 (same ▸ List.mem_map_of_mem there)
      simp only [List.mem_cons, List.mem_append, not_or] at before ⊢
      exact ⟨before.1, before.2, other, List.not_mem_nil⟩

/-- What is left comes from a file, whose item is there. -/
theorem Holds.partners {root : List Candidate} {chain : Chain}
    (holds : chain.Holds engine lib root left) (resolve : lib.FilesResolve)
    (fromFiles : ∀ ids ∈ root.map Candidate.ids,
      ∃ file ∈ lib.files, ids = (file.id, file.itemId)) {c : Candidate} (member : c ∈ left) :
    (∃ file ∈ lib.files, file.id = c.file) ∧ ∃ item ∈ lib.items, item.id = c.item := by
  obtain ⟨file, present, same⟩ := fromFiles c.ids (holds.within c member)
  obtain ⟨item, known, own⟩ := resolve file present
  obtain ⟨sameFile, sameItem⟩ := Prod.mk.inj same
  exact ⟨⟨file, present, sameFile.symm⟩, item, known, own.trans sameItem.symm⟩

/-- The stages that rank are none of the tables that are joined first. -/
theorem Holds.rank_notMem {root : List Candidate} {chain : Chain}
    (holds : chain.Holds engine lib root left) {r : RankedStage} (present : r ∈ chain.ranks) :
    r.stage ∉ ["result", "files", "items"] := by
  intro among
  obtain ⟨i, -, kind, name⟩ := holds.rank_names r present
  have fixed : ∀ n ∈ ["result", "files", "items"], n ∈ fixedNames := by decide
  exact keptStage_notMem_fixedNames i kind (name ▸ fixed _ among)

/-- The candidates whose file and item are in the library. -/
def known (lib : Library) (left : List Candidate) : List Candidate :=
  (left.filter fun c => c.file ∈ lib.files.map (·.id)).filter
    fun c => c.item ∈ lib.items.map (·.id)

theorem known_sublist (lib : Library) (left : List Candidate) : (known lib left).Sublist left :=
  List.filter_sublist.trans List.filter_sublist

/-- All joins of the body together keep what is left and known, each once. -/
theorem Holds.joined_body {root : List Candidate} {chain : Chain}
    (holds : chain.Holds engine lib root left) {extra : List String}
    (result : (chain.tables engine lib).relation chain.result = stage extra left) :
    ∃ (names : List String) (all : Joined names),
      (([⟨"files", none, .ref (.of "files" "id"), .ref (.of "result" "file_id")⟩,
          ⟨"items", none, .ref (.of "items" "id"), .ref (.of "result" "item_id")⟩] : List Join)
        ++ chain.ranks.flatMap (rankJoin chain.result)).foldl
          (joinRows engine (chain.tables engine lib))
          (((chain.tables engine lib).relation chain.result).scopes "result")
        = (known lib left).map (all.scope extra) := by
  let seen := chain.tables engine lib
  let start : Joined [] := ⟨fun _ => [], fun _ => rfl⟩
  have source : (seen.relation chain.result).scopes "result" = left.map (start.scope extra) := by
    rw [result, stage, Relation.scopes_map]
    rfl
  -- first the file and its item, then the stages that rank
  obtain ⟨files, filesRows⟩ : ∃ more : Joined ["files"],
      joinRows engine seen (left.map (start.scope extra))
          ⟨"files", none, .ref (.of "files" "id"), .ref (.of "result" "file_id")⟩
        = (left.filter fun c => c.file ∈ lib.files.map (·.id)).map (more.scope extra) :=
    joinRows_key start holds.shown.files (fun file => by simp [Library.File.row])
      lib.nodup_files (by decide) (wants_file extra)
  obtain ⟨items, itemsRows⟩ : ∃ more : Joined ["files", "items"],
      joinRows engine seen ((left.filter fun c => c.file ∈ lib.files.map (·.id)).map
          (files.scope extra))
          ⟨"items", none, .ref (.of "items" "id"), .ref (.of "result" "item_id")⟩
        = (known lib left).map (more.scope extra) :=
    joinRows_key files holds.shown.items (fun item => by simp [Library.Item.row])
      lib.nodup_items (by decide) (wants_item extra)
  obtain ⟨names, all, allRows⟩ : ∃ (names : List String) (more : Joined names),
      (chain.ranks.flatMap (rankJoin chain.result)).foldl (joinRows engine seen)
          ((known lib left).map (items.scope extra))
        = (known lib left).map (more.scope extra) :=
    foldl_rankJoins chain.result
      (fun r present => (holds.ranks r present).of_fewer rfl fun c member =>
        ⟨c, (known_sublist lib left).subset member, rfl⟩)
      holds.nodup_ranks (fun r present => holds.rank_notMem present) items
  refine ⟨names, all, ?_⟩
  rw [source, List.foldl_append, List.foldl_cons, List.foldl_cons, List.foldl_nil, filesRows,
    itemsRows, allRows]

/-- No column of a body is about a group. -/
theorem single_body (chain : Chain) :
    (resultColumns ++ chain.ranks.map (rankedResultColumn chain.result)).any
      (·.expr.isAggregate) = false := by
  rw [List.any_append, List.any_map]
  exact List.any_eq_false.mpr fun r _ => Bool.false_ne_true

/-- The body has one row for each file that is left and known. -/
theorem rows_body_known {root : List Candidate} {chain : Chain}
    (holds : chain.Holds engine lib root left) :
    (chain.body.rows engine lib.tables).map (fun row => row.1.value (.of "result" "file_id"))
      = (known lib left).map fun c => .integer c.file := by
  obtain ⟨extra, result⟩ := holds.result_eq
  obtain ⟨names, all, joined⟩ := holds.joined_body result
  have rows : chain.body.rows engine lib.tables
      = (known lib left).map fun c => (all.scope extra c, _) :=
    rows_select_joins chain.single_body _ joined
  rw [rows, List.map_map]
  refine List.map_congr_left fun c _ => ?_
  exact wants_file extra c _

/-- **The body has one row for each file that is left.** -/
theorem rows_body {root : List Candidate} {chain : Chain}
    (holds : chain.Holds engine lib root left) (resolve : lib.FilesResolve)
    (fromFiles : ∀ ids ∈ root.map Candidate.ids,
      ∃ file ∈ lib.files, ids = (file.id, file.itemId)) :
    (chain.body.rows engine lib.tables).map (fun row => row.1.value (.of "result" "file_id"))
      = left.map fun c => .integer c.file := by
  -- what comes from files that resolve is known
  have all : known lib left = left := by
    have files : left.filter (fun c => c.file ∈ lib.files.map (·.id)) = left :=
      List.filter_eq_self.mpr fun c member =>
        decide_eq_true (List.mem_map.mpr (holds.partners resolve fromFiles member).1)
    rw [known, files]
    exact List.filter_eq_self.mpr fun c member =>
      decide_eq_true (List.mem_map.mpr (holds.partners resolve fromFiles member).2)
  rw [rows_body_known holds, all]

end Chain

end MediaSearch
