/-
MediaSearch/Proofs/Library/Indexing.lean

When full-text indexes hold what their tables hold.

A full-text index of a library keeps entries of its own, and nothing but the
triggers of the schema writes to them.  What a trigger does is said by its
actions: one that adds makes an entry of the new row, one that removes takes
away the entry that has the key and the texts of the old row, if there is
one.  So a change of a row keeps an index in step with its table if there is
one trigger for its event (`InSync.fire`).

The index of paths has a trigger for every event.  That of extracted text has
none for updates: it stays in step as long as no text is replaced by another
one, and no longer (`inSync_write_text_iff`).

Main result: `indexes_inSync`.
-/
import Mathlib.Data.List.Induction
import Mathlib.Data.List.Perm.Lattice
import Mathlib.Logic.Function.Basic
import MediaSearch.Library.Schema

namespace MediaSearch.Library

open Sql

/-! ### Changes of rows -/

/-- The key of a row and the texts of its indexed columns, or an entry of an
index with the row it is for. -/
structure IndexedRow where
  id : Int64
  texts : List String
  deriving DecidableEq

/-- What has happened to a row. -/
inductive RowChange where
  | inserted (new : IndexedRow)
  | deleted (old : IndexedRow)
  | updated (old new : IndexedRow)
  deriving DecidableEq

namespace RowChange

/-- The event that a change is. -/
def event : RowChange → TriggerEvent
  | inserted _ => .inserted
  | deleted _ => .deleted
  | updated _ _ => .updated

/-- The row before a change, if there was one. -/
def old? : RowChange → Option IndexedRow
  | inserted _ => none
  | deleted old | updated old _ => some old

/-- The row after a change, if there is one. -/
def new? : RowChange → Option IndexedRow
  | inserted new | updated _ new => some new
  | deleted _ => none

/-- The rows of a table after a change. -/
def apply (change : RowChange) (rows : List IndexedRow) : List IndexedRow :=
  match change with
  | inserted new => rows ++ [new]
  | deleted old => rows.erase old
  | updated old new => rows.map fun row => if row.id = old.id then new else row

end RowChange

/-- What is asked of a table. -/
inductive Write where
  | insert (row : IndexedRow)
  | delete (id : Int64)
  /-- New texts for the indexed columns. -/
  | update (id : Int64) (texts : List String)
  deriving DecidableEq

/-- What a write changes.  A key that is taken cannot be inserted again, and
a row that is not there can be neither deleted nor updated. -/
def Write.change? (rows : List IndexedRow) : Write → Option RowChange
  | insert row => if row.id ∈ rows.map (·.id) then none else some (.inserted row)
  | delete id => (rows.find? (·.id = id)).map .deleted
  | update id texts => (rows.find? (·.id = id)).map fun old => .updated old ⟨id, texts⟩

/-! ### Triggers -/

/-- What an action makes of the entries of its index. -/
def IndexAction.apply (change : RowChange) (entries : List IndexedRow) :
    IndexAction → List IndexedRow
  | .add => entries ++ change.new?.toList
  | .remove => entries.diff change.old?.toList

/-- The triggers that an event on the table of an index sets off for the
index. -/
def triggersFor (i : FullTextIndex) (event : TriggerEvent) : List Trigger :=
  schema.filterMap fun
    | .trigger t => if t.index = i ∧ t.event = event then some t else none
    | _ => none

/-- The entries of an index after the triggers for a change of its table. -/
def fire (i : FullTextIndex) (change : RowChange) (entries : List IndexedRow) :
    List IndexedRow :=
  (triggersFor i change.event).foldl
    (fun entries t => t.actions.foldl (fun entries action => action.apply change entries) entries)
    entries

/-! ### Tables with indexes -/

/-- The rows of tables by name, and the entries of their indexes. -/
structure IndexedTables where
  rows : String → List IndexedRow
  entries : FullTextIndex → List IndexedRow

namespace IndexedTables

/-- Tables that have just been made. -/
def fresh : IndexedTables :=
  ⟨fun _ => [], fun _ => []⟩

/-- The tables after a change of one of them and the triggers for it. -/
def change (s : IndexedTables) (table : String) (change : RowChange) : IndexedTables where
  rows := Function.update s.rows table (change.apply (s.rows table))
  entries i := if i.table = table then fire i change (s.entries i) else s.entries i

/-- The tables after a write to one of them. -/
def write (s : IndexedTables) (w : String × Write) : IndexedTables :=
  match w.2.change? (s.rows w.1) with
  | some change => s.change w.1 change
  | none => s

/-- The tables of a library after some writes. -/
def after (writes : List (String × Write)) : IndexedTables :=
  writes.foldl write fresh

/-- Whether an index has exactly one entry for each row of its table, with
the texts that the row has now. -/
structure InSync (s : IndexedTables) (i : FullTextIndex) : Prop where
  distinct : ((s.rows i.table).map (·.id)).Nodup
  same : (s.entries i).Perm (s.rows i.table)

/-- Whether a write replaces texts of a row of the table by others. -/
def Rewrites (s : IndexedTables) (table : String) (w : String × Write) : Prop :=
  w.1 = table ∧ ∃ old new, w.2.change? (s.rows table) = some (.updated old new) ∧ new ≠ old

end IndexedTables

/-! ### Rows after a change -/

section Rows

variable {rows : List IndexedRow} {old new : IndexedRow}

/-- What a write changes was there before, under its key. -/
theorem Write.change?_eq_some {w : Write} {change : RowChange}
    (changed : w.change? rows = some change) :
    (∃ new, change = .inserted new ∧ new.id ∉ rows.map (·.id))
      ∨ (∃ old ∈ rows, change = .deleted old)
      ∨ ∃ old ∈ rows, ∃ new, change = .updated old new ∧ new.id = old.id := by
  cases w with
  | insert row =>
    rw [change?] at changed
    split at changed
    · cases changed
    case isFalse free => exact .inl ⟨row, (Option.some.inj changed).symm, free⟩
  | delete id =>
    obtain ⟨old, found, rfl⟩ := Option.map_eq_some_iff.mp changed
    exact .inr (.inl ⟨old, List.mem_of_find?_eq_some found, rfl⟩)
  | update id texts =>
    obtain ⟨old, found, rfl⟩ := Option.map_eq_some_iff.mp changed
    have key : old.id = id := by simpa using List.find?_some found
    exact .inr (.inr ⟨old, List.mem_of_find?_eq_some found, _, rfl, key.symm⟩)

/-- A row that is replaced is taken out, and the new one put in. -/
theorem map_replace_perm (distinct : (rows.map (·.id)).Nodup) (present : old ∈ rows) :
    (rows.map fun row => if row.id = old.id then new else row).Perm (new :: rows.erase old) := by
  induction rows with
  | nil => cases present
  | cons row rows ih =>
    rw [List.map_cons, List.nodup_cons] at distinct
    rcases List.mem_cons.mp present with rfl | later
    · -- the keys after it are others
      have rest : rows.map (fun row => if row.id = old.id then new else row) = rows := by
        conv_rhs => rw [← List.map_id rows]
        refine List.map_congr_left fun row member => if_neg fun same => distinct.1 ?_
        exact same ▸ List.mem_map_of_mem member
      rw [List.map_cons, if_pos rfl, rest, List.erase_cons_head]
    · have other : row.id ≠ old.id := fun same =>
        distinct.1 (same ▸ List.mem_map_of_mem later)
      have different : ¬(row == old) = true := by
        rw [beq_iff_eq]
        rintro rfl
        exact other rfl
      rw [List.map_cons, if_neg other, List.erase_cons_tail different]
      exact ((ih distinct.2 later).cons row).trans (List.Perm.swap new row _)

/-- Keys stay different, since one that is taken cannot be inserted again. -/
theorem nodup_map_apply {w : Write} {change : RowChange}
    (changed : w.change? rows = some change) (distinct : (rows.map (·.id)).Nodup) :
    ((change.apply rows).map (·.id)).Nodup := by
  -- a new row has a free key, and a replaced one keeps its own
  obtain ⟨new, rfl, free⟩ | ⟨old, -, rfl⟩ | ⟨old, -, new, rfl, key⟩ := Write.change?_eq_some changed
  · rw [RowChange.apply, List.map_append, List.map_singleton]
    exact List.nodup_append.mpr ⟨distinct, List.nodup_singleton _, by
      rintro id present _ single rfl
      exact free (List.mem_singleton.mp single ▸ present)⟩
  · exact distinct.sublist (List.erase_sublist.map _)
  · have ids : (rows.map fun row => if row.id = old.id then new else row).map (·.id)
        = rows.map (·.id) := by
      rw [List.map_map]
      refine List.map_congr_left fun row _ => ?_
      by_cases same : row.id = old.id
      · simp [same, key]
      · simp [same]
    rw [RowChange.apply, ids]
    exact distinct

end Rows

/-! ### Entries after a change -/

section Entries

variable {i : FullTextIndex} {rows entries : List IndexedRow} {change : RowChange}

/-- **One trigger for the event keeps an index in step.** -/
theorem perm_fire (maintained : triggersFor i change.event = [⟨i, change.event⟩]) {w : Write}
    (changed : w.change? rows = some change) (distinct : (rows.map (·.id)).Nodup)
    (same : entries.Perm rows) : (fire i change entries).Perm (change.apply rows) := by
  rw [fire, maintained, List.foldl_cons, List.foldl_nil]
  obtain ⟨new, rfl, -⟩ | ⟨old, -, rfl⟩ | ⟨old, present, new, rfl, -⟩ :=
    Write.change?_eq_some changed
  · exact same.append_right [new]
  · show (entries.diff [old]).Perm (rows.erase old)
    rw [List.diff_cons, List.diff_nil]
    exact same.erase old
  · show (entries.diff [old] ++ [new]).Perm _
    rw [List.diff_cons, List.diff_nil]
    -- the old entry is taken out and the new one added at the end
    have replaced : (entries.erase old ++ [new]).Perm (new :: rows.erase old) :=
      (List.perm_append_singleton new _).trans ((same.erase old).cons new)
    exact replaced.trans (map_replace_perm distinct present).symm

/-- Without a trigger for updates, an update keeps an index in step only if
it replaces texts by themselves. -/
theorem perm_fire_updated_iff {old new : IndexedRow} (unmaintained : triggersFor i .updated = [])
    (distinct : (rows.map (·.id)).Nodup) (present : old ∈ rows) (same : entries.Perm rows) :
    (fire i (.updated old new) entries).Perm ((RowChange.updated old new).apply rows)
      ↔ new = old := by
  have left : fire i (.updated old new) entries = entries := by
    rw [fire, RowChange.event, unmaintained, List.foldl_nil]
  have before : entries.Perm (old :: rows.erase old) :=
    same.trans (List.perm_cons_erase present)
  have after : ((RowChange.updated old new).apply rows).Perm (new :: rows.erase old) :=
    map_replace_perm distinct present
  rw [left]
  constructor
  · intro kept
    -- both lists have the other rows, so what is left of them is the same
    have counts := (before.symm.trans (kept.trans after)).count_eq old
    by_contra different
    rw [List.count_cons_self, List.count_cons_of_ne different] at counts
    omega
  · rintro rfl
    exact before.trans after.symm

end Entries

/-! ### Indexes after a write -/

namespace IndexedTables

variable {s : IndexedTables} {i : FullTextIndex} {w : String × Write}

theorem write_of_some {change : RowChange} (changed : w.2.change? (s.rows w.1) = some change) :
    s.write w = s.change w.1 change := by
  rw [write, changed]

/-- A write that changes nothing, or another table, leaves an index alone. -/
theorem inSync_write_of_other (other : ∀ change, w.2.change? (s.rows w.1) = some change →
    i.table ≠ w.1) (synced : s.InSync i) : (s.write w).InSync i := by
  cases changed : w.2.change? (s.rows w.1) with
  | none =>
    rw [write, changed]
    exact synced
  | some change =>
    have apart := other change changed
    rw [write_of_some changed]
    constructor
    · show (((Function.update s.rows w.1 _) i.table).map (·.id)).Nodup
      rw [Function.update_of_ne apart]
      exact synced.distinct
    · show (if i.table = w.1 then _ else s.entries i).Perm ((Function.update s.rows w.1 _) i.table)
      rw [Function.update_of_ne apart, if_neg apart]
      exact synced.same

/-- What becomes of an index when its table is changed. -/
theorem inSync_write_own_iff {change : RowChange} (own : w.1 = i.table)
    (changed : w.2.change? (s.rows i.table) = some change) (synced : s.InSync i) :
    (s.write w).InSync i
      ↔ (fire i change (s.entries i)).Perm (change.apply (s.rows i.table)) := by
  obtain ⟨table, w⟩ := w
  obtain rfl := own
  rw [write_of_some changed]
  have rows : (s.change i.table change).rows i.table = change.apply (s.rows i.table) :=
    Function.update_self ..
  have entries : (s.change i.table change).entries i = fire i change (s.entries i) :=
    if_pos rfl
  constructor
  · intro kept
    exact rows ▸ entries ▸ kept.same
  · intro same
    refine ⟨?_, ?_⟩
    · rw [rows]
      exact nodup_map_apply changed synced.distinct
    · rw [rows, entries]
      exact same

/-- **A write keeps an index in sync if its event has a trigger.** -/
theorem InSync.write (synced : s.InSync i) (maintained : ∀ change,
    w.1 = i.table → w.2.change? (s.rows i.table) = some change →
      triggersFor i change.event = [⟨i, change.event⟩]) : (s.write w).InSync i := by
  by_cases own : w.1 = i.table
  · cases changed : w.2.change? (s.rows w.1) with
    | none =>
      exact inSync_write_of_other (fun change some => by rw [changed] at some; cases some) synced
    | some change =>
      rw [own] at changed
      rw [inSync_write_own_iff own changed synced]
      exact perm_fire (maintained change own changed) changed synced.distinct synced.same
  · exact inSync_write_of_other (fun _ _ same => own same.symm) synced

end IndexedTables

/-! ### The indexes of the schema -/

/-- The index of paths has one trigger for each event. -/
theorem triggersFor_pathIndex (event : TriggerEvent) :
    triggersFor pathIndex event = [⟨pathIndex, event⟩] := by
  cases event <;> decide

/-- The index of texts has one trigger for each event that is no update. -/
theorem triggersFor_textIndex {event : TriggerEvent} (noUpdate : event ≠ .updated) :
    triggersFor textIndex event = [⟨textIndex, event⟩] := by
  cases event with
  | inserted | deleted => decide
  | updated => exact absurd rfl noUpdate

/-- No trigger is set off for the index of texts by an update. -/
theorem triggersFor_textIndex_updated : triggersFor textIndex .updated = [] := by
  decide

namespace IndexedTables

/-- **A write keeps the index of extracted text in sync exactly if it does
not replace a text by another one.** -/
theorem inSync_write_text_iff {s : IndexedTables} (synced : s.InSync textIndex)
    (w : String × Write) :
    (s.write w).InSync textIndex ↔ ¬s.Rewrites textIndex.table w := by
  constructor
  · rintro kept ⟨own, old, new, changed, different⟩
    rw [inSync_write_own_iff own changed synced] at kept
    obtain ⟨_, same, -⟩ | ⟨_, -, same⟩ | ⟨_, present, _, same, -⟩ :=
      Write.change?_eq_some changed
    · cases same
    · cases same
    · obtain ⟨rfl, rfl⟩ := RowChange.updated.inj same
      exact different ((perm_fire_updated_iff triggersFor_textIndex_updated synced.distinct
        present synced.same).mp kept)
  · intro keeps
    -- a replacement has no trigger here, which does no harm as long as the text stays
    by_cases update : ∃ old new, w.1 = textIndex.table
        ∧ w.2.change? (s.rows textIndex.table) = some (.updated old new)
    · obtain ⟨old, new, own, changed⟩ := update
      rw [inSync_write_own_iff own changed synced]
      obtain ⟨_, same, -⟩ | ⟨_, -, same⟩ | ⟨_, present, _, same, -⟩ :=
        Write.change?_eq_some changed
      · cases same
      · cases same
      · obtain ⟨rfl, rfl⟩ := RowChange.updated.inj same
        refine (perm_fire_updated_iff triggersFor_textIndex_updated synced.distinct present
          synced.same).mpr ?_
        by_contra different
        exact keeps ⟨own, old, new, changed, different⟩
    · refine synced.write fun change own changed => triggersFor_textIndex ?_
      intro event
      cases change with
      | inserted | deleted => cases event
      | updated old new => exact update ⟨old, new, own, changed⟩

/-! ### Runs -/

theorem inSync_fresh (i : FullTextIndex) : fresh.InSync i :=
  ⟨List.nodup_nil, List.Perm.nil⟩

theorem after_append_singleton (done : List (String × Write)) (w : String × Write) :
    after (done ++ [w]) = (after done).write w := by
  rw [after, List.foldl_append]
  rfl

/-- The index of paths is in sync after every run of writes. -/
theorem inSync_path_after (writes : List (String × Write)) :
    (after writes).InSync pathIndex := by
  induction writes using List.reverseRecOn with
  | nil => exact inSync_fresh pathIndex
  | append_singleton done w ih =>
    rw [after_append_singleton]
    exact ih.write fun change _ _ => triggersFor_pathIndex change.event

/-- The index of extracted text is in sync all along a run if and only if no
write of the run replaces a text by another one. -/
theorem inSync_text_after_iff (writes : List (String × Write)) :
    (∀ done, done <+: writes → (after done).InSync textIndex)
      ↔ ∀ done w, done ++ [w] <+: writes → ¬(after done).Rewrites textIndex.table w := by
  constructor
  · intro synced done w front
    have before := synced done ((List.prefix_append done [w]).trans front)
    have kept := synced (done ++ [w]) front
    rw [after_append_singleton] at kept
    exact (inSync_write_text_iff before w).mp kept
  · intro keeps done
    -- the index is in sync before the last write, so that one decides
    induction done using List.reverseRecOn with
    | nil => exact fun _ => inSync_fresh textIndex
    | append_singleton done w ih =>
      intro front
      rw [after_append_singleton]
      exact (inSync_write_text_iff (ih ((List.prefix_append done [w]).trans front)) w).mpr
        (keeps done w front)

end IndexedTables

/-- A library is set up with the statements of the schema, one after the
other. -/
theorem createTables_accepted :
    createTables (fun _ => .ok ()) = (.ok (), schema.map fun statement => .raw statement.text) := by
  have sent (place : Nat) (statements : List SchemaStatement) :
      sendAll (fun _ => .ok ()) place statements
        = (.ok (), statements.map fun statement => .raw statement.text) := by
    induction statements generalizing place with
    | nil => rfl
    | cons statement statements ih => rw [sendAll, ih, List.map_cons]
  exact sent 0 schema

/-! ### Main result -/

/-- **On a library that has just been set up, the index of paths is in sync
after every run of inserts, deletes and updates; that of extracted text is in
sync all along a run exactly if no text of a row is ever replaced by another
one.** -/
theorem indexes_inSync (writes : List (String × Write)) :
    createTables (fun _ => .ok ()) = (.ok (), schema.map fun statement => .raw statement.text)
      ∧ (IndexedTables.after writes).InSync pathIndex
      ∧ ((∀ done, done <+: writes → (IndexedTables.after done).InSync textIndex)
        ↔ ∀ done w, done ++ [w] <+: writes →
          ¬(IndexedTables.after done).Rewrites textIndex.table w) :=
  ⟨createTables_accepted, IndexedTables.inSync_path_after writes,
    IndexedTables.inSync_text_after_iff writes⟩

/-- A text that is read again, with another result. -/
def readAgain : List (String × Write) :=
  [("extracted_text", .insert ⟨1, ["cat"]⟩), ("extracted_text", .update 1 ["dog"])]

/-- **The index of extracted text still has the old text.** -/
theorem text_index_stale : ¬(IndexedTables.after readAgain).InSync textIndex := by
  intro synced
  have rows : (IndexedTables.after readAgain).rows "extracted_text" = [⟨1, ["dog"]⟩] := by
    decide
  have entries : (IndexedTables.after readAgain).entries textIndex = [⟨1, ["cat"]⟩] := by
    decide
  have same := synced.same
  rw [entries, textIndex, rows, List.perm_singleton] at same
  exact absurd same (by decide)

end MediaSearch.Library
