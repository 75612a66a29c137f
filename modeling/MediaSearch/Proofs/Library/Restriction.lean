/-
MediaSearch/Proofs/Library/Restriction.lean

What restrictions ask of a row, and the conditions that ask it.

A restriction is said of the row itself: which setter wrote it, what a cell
of it holds, how large a number is.  A cell that may be empty meets no
restriction when it is.  Where a filter gives nothing to restrict to, every
row will do.

For each restriction there is the lemma that its conditions are true of a
joined row exactly if the row meets it; the lemma takes the place of the
cell in the joined row from its reader.
-/
import MediaSearch.Filter.Clause
import MediaSearch.Proofs.Library.Lookup
import MediaSearch.Proofs.Sql.Listing

namespace MediaSearch

open Sql

/-! ### Cells of rows -/

namespace Library

/-- The cells of an entry of the index of paths by column. -/
def PathEntry.cells (entry : PathEntry) : Cells :=
  ["rowid", "path", "filename"].zip entry.row

/-- The cells of an entry of the index of extracted text by column. -/
def TextEntry.cells (entry : TextEntry) : Cells :=
  ["rowid", "text"].zip entry.row

/-- The cells of a file by column. -/
def File.cells (file : File) : Cells :=
  ["id", "item_id", "path", "last_modified", "available"].zip file.row

/-- The cells of an item by column. -/
def Item.cells (item : Item) : Cells :=
  ["id", "sha256", "mime_type", "size"].zip item.row

/-- The cells of an extracted text by column. -/
def ExtractedText.cells (text : ExtractedText) : Cells :=
  ["id", "item_id", "setter_id", "language", "language_confidence", "confidence"].zip text.row

/-- The cells of an embedding by column. -/
def Embedding.cells (embedding : Embedding) : Cells :=
  ["item_id", "setter_id", "text_id", "embedding"].zip embedding.row

/-- The cells of a bookmark by column. -/
def Bookmark.cells (bookmark : Bookmark) : Cells :=
  ["namespace", "user", "item_id", "time_added"].zip bookmark.row

/-! ### Restrictions -/

/-- Whether a setter has the name and the id. -/
def SetBy (lib : Library) (name : String) (setterId : Int64) : Prop :=
  ∃ setter ∈ lib.setters, setter.name = name ∧ setterId = setter.id

/-- Whether the id is that of a setter with one of the names. -/
def SetByOneOf (lib : Library) (names : List String) (setterId : Int64) : Prop :=
  names ≠ [] → ∃ setter ∈ lib.setters, setter.name ∈ names ∧ setterId = setter.id

/-- Whether a cell holds one of the texts. -/
def IsOneOf (texts : List String) (cell : Option String) : Prop :=
  texts ≠ [] → ∃ text ∈ cell, text ∈ texts

/-- Whether a cell holds a text that starts with one of the given ones. -/
def StartsWithOneOf (starts : List String) (cell : Option String) : Prop :=
  starts ≠ [] → ∃ text ∈ cell, ∃ start ∈ starts, StartsFolded start text

/-- Whether a cell holds a number that is not below the bound. -/
def AtLeast (bound cell : Option Binary64) : Prop :=
  ∀ least ∈ bound, ∃ x ∈ cell, least.signedUnits ≤ x.signedUnits

/-- A bound on sizes; there are none above `2 ^ 63 - 1`. -/
def sizeBound (n : UInt64) : Int :=
  min n.toNat Int64.maxValue.toInt

/-- Whether a cell holds a size that is not below the bound. -/
def SizeAtLeast (bound : Option UInt64) (cell : Option Int64) : Prop :=
  ∀ least ∈ bound, ∃ size ∈ cell, sizeBound least ≤ size.toInt

/-- Whether a cell holds a size that is not above the bound. -/
def SizeAtMost (bound : Option UInt64) (cell : Option Int64) : Prop :=
  ∀ most ∈ bound, ∃ size ∈ cell, size.toInt ≤ sizeBound most

/-- Whether a row of extracted text meets the restrictions of a filter. -/
def TextMeets (lib : Library) (setters languages : List String)
    (minConfidence minLanguageConfidence : Option Binary64) (text : ExtractedText) : Prop :=
  lib.SetByOneOf (Text.nonBlank setters) text.setterId
    ∧ IsOneOf (Text.nonBlank languages) text.language
    ∧ AtLeast minConfidence text.confidence
    ∧ AtLeast minLanguageConfidence text.languageConfidence

instance (lib : Library) (name : String) (setterId : Int64) :
    Decidable (lib.SetBy name setterId) :=
  inferInstanceAs (Decidable (∃ setter ∈ lib.setters, _ ∧ _))

instance (lib : Library) (names : List String) (setterId : Int64) :
    Decidable (lib.SetByOneOf names setterId) :=
  inferInstanceAs (Decidable (_ → ∃ setter ∈ lib.setters, _ ∧ _))

instance (texts : List String) (cell : Option String) : Decidable (IsOneOf texts cell) :=
  inferInstanceAs (Decidable (_ → ∃ text ∈ cell, _))

instance (bound cell : Option Binary64) : Decidable (AtLeast bound cell) :=
  inferInstanceAs (Decidable (∀ least ∈ bound, ∃ x ∈ cell, _ ≤ _))

instance (lib : Library) (setters languages : List String)
    (minConfidence minLanguageConfidence : Option Binary64) (text : ExtractedText) :
    Decidable (lib.TextMeets setters languages minConfidence minLanguageConfidence text) :=
  inferInstanceAs (Decidable (_ ∧ _ ∧ _ ∧ _))

/-! ### Their conditions -/

section Conditions

variable {lib : Library} {engine : Engine} {tables : Tables} {scope : Scope} {r : Ref}

/-- The condition on setters is what it means in the library. -/
theorem allTrue_setBy_iff (shown : lib.Shows tables) {setterId : Int64}
    (cell : scope.value r = .integer setterId) (names : List String) :
    allTrue engine tables scope (setBy r names) = true ↔ lib.SetByOneOf names setterId := by
  rw [allTrue_setBy shown, cell, SetByOneOf]
  simp only [Comparison.truth_eq_integer]

theorem truth_ofModel_iff (shown : lib.Shows tables) {setterId : Int64}
    (cell : scope.value r = .integer setterId) (model : String) :
    (Filter.ofModel r model).truth engine tables scope = some true
      ↔ lib.SetBy (Text.trim model) setterId := by
  have rows : ((setterNamed (Text.trim model)).rows engine tables).map (·.2)
      = ((lib.setters.filter fun s => s.name = Text.trim model).map (·.id)).map idRow := by
    rw [rows_setterNamed shown, List.map_map]
    rfl
  rw [Filter.ofModel, truth_inQuery cell rows, SetBy]
  simp only [List.mem_map, List.mem_filter, decide_eq_true_eq, and_assoc, @eq_comm _ setterId]

/-- An id is that of a hash if the first item with the hash has it. -/
theorem truth_itemHashed_iff (shown : lib.Shows tables) {itemId : Int64}
    (cell : scope.value r = .integer itemId) (sha256 : String) :
    (Condition.equalsQuery r (itemHashed sha256)).truth engine tables scope = some true
      ↔ ∃ item ∈ lib.items.find? (·.sha256 = sha256), itemId = item.id := by
  rw [Condition.truth, rows_itemHashed shown, cell, ← List.head?_filter]
  -- the query lists nothing, or the item first
  cases lib.items.filter fun item => item.sha256 = sha256 with
  | nil => simp [firstValue, Comparison.truth_eq_iff, Value.key]
  | cons item rest => simp [firstValue]

/-- An id equals a reference that is there and is the same. -/
theorem truth_idColumn_iff (n : Int64) (reference : Option Int64) :
    Comparison.eq.truth (.integer n) (optional .integer reference) = some true
      ↔ reference = some n := by
  cases reference with
  | none => simp [optional, Comparison.truth_eq_iff, Value.key]
  | some m => rw [optional, Comparison.truth_eq_integer, Option.some_inj, eq_comm]

theorem allTrue_oneOfTexts_iff {text : Option String} (cell : scope.value r = optional .text text)
    (texts : List String) :
    allTrue engine tables scope (oneOfTexts r texts) = true ↔ IsOneOf texts text := by
  rw [allTrue_oneOfTexts, cell, IsOneOf]
  refine imp_congr_right fun _ => ?_
  cases text with
  | none => simp [optional, Value.isAmong_map_eq_true_iff]
  | some text => simp [optional, Value.text_isAmong_texts]

theorem allTrue_startsWithOneOf_iff {text : Option String}
    (cell : scope.value r = optional .text text) (starts : List String) :
    allTrue engine tables scope (startsWithOneOf r starts) = true
      ↔ StartsWithOneOf starts text := by
  rw [allTrue_startsWithOneOf, cell, StartsWithOneOf]
  refine imp_congr_right fun _ => ?_
  cases text with
  | none => simp [optional, Engine.startsWith?, Engine.text?]
  | some text => simp [optional, Engine.startsWith?_text]

theorem allTrue_atLeast_iff {x : Option Binary64} (cell : scope.value r = optional .real x)
    (bound : Option Binary64) :
    allTrue engine tables scope (atLeast r (bound.map .real)) = true ↔ AtLeast bound x := by
  rw [allTrue_atLeast, cell, AtLeast]
  cases bound with
  | none => simp
  | some least =>
    cases x with
    | none => simp [optional]
    | some x => simp [optional, Comparison.truth_ge_real]

/-- A bound on sizes as it stands in a query. -/
theorem saturate_eq (n : UInt64) :
    ∃ bound : Int64, Filter.saturate n = .integer bound ∧ bound.toInt = sizeBound n := by
  refine ⟨_, rfl, ?_⟩
  have most : Int64.maxValue.toInt = 2 ^ 63 - 1 := rfl
  rw [sizeBound, most]
  -- what fits is the number itself, and all else is cut off at the greatest one
  split
  case isTrue small =>
    have value : n.toInt64.toInt = (n.toNat : Int).bmod (2 ^ 64) := by
      rw [Int64.toInt, BitVec.toInt_eq_toNat_bmod]
      rfl
    rw [value, Int.bmod_eq_of_le (by omega) (by omega)]
    omega
  case isFalse large =>
    rw [most]
    omega

/-- A size is at least a bound even where the bound is beyond what a cell can hold. -/
theorem allTrue_sizeAtLeast_iff {size : Option Int64}
    (cell : scope.value r = optional .integer size) (bound : Option UInt64) :
    allTrue engine tables scope (atLeast r (bound.map Filter.saturate)) = true
      ↔ SizeAtLeast bound size := by
  rw [allTrue_atLeast, cell, SizeAtLeast]
  cases bound with
  | none => simp
  | some least =>
    obtain ⟨bound, saturated, same⟩ := saturate_eq least
    cases size with
    | none => simp [optional]
    | some size => simp [optional, saturated, Comparison.truth_ge_integer, same]

/-- A size is at most a bound even where the bound is beyond what a cell can hold. -/
theorem allTrue_sizeAtMost_iff {size : Option Int64}
    (cell : scope.value r = optional .integer size) (bound : Option UInt64) :
    allTrue engine tables scope (atMost r (bound.map Filter.saturate)) = true
      ↔ SizeAtMost bound size := by
  rw [allTrue_atMost, cell, SizeAtMost]
  cases bound with
  | none => simp
  | some most =>
    obtain ⟨bound, saturated, same⟩ := saturate_eq most
    cases size with
    | none => simp [optional]
    | some size => simp [optional, saturated, Comparison.truth_le_integer, same]

/-- The conditions on a row of extracted text are the restrictions of the
filter. -/
theorem allTrue_textConditions_iff (shown : lib.Shows tables) {text : ExtractedText}
    (cells : scope.cells "extracted_text" = text.cells) {setters languages : List String}
    {minConfidence minLanguageConfidence : Option Binary64} :
    allTrue engine tables scope
        (Filter.textConditions setters languages minConfidence minLanguageConfidence) = true
      ↔ lib.TextMeets setters languages minConfidence minLanguageConfidence text := by
  have setter : scope.value (.of "extracted_text" "setter_id") = .integer text.setterId := by
    simp [cells, ExtractedText.cells, ExtractedText.row]
  have language : scope.value (.of "extracted_text" "language")
      = optional .text text.language := by
    simp [cells, ExtractedText.cells, ExtractedText.row]
  have confidence : scope.value (.of "extracted_text" "confidence")
      = optional .real text.confidence := by
    simp [cells, ExtractedText.cells, ExtractedText.row]
  have languageConfidence : scope.value (.of "extracted_text" "language_confidence")
      = optional .real text.languageConfidence := by
    simp [cells, ExtractedText.cells, ExtractedText.row]
  rw [Filter.textConditions, allTrue_append, allTrue_append, allTrue_append, Bool.and_eq_true,
    Bool.and_eq_true, Bool.and_eq_true, allTrue_setBy_iff shown setter,
    allTrue_oneOfTexts_iff language, allTrue_atLeast_iff confidence,
    allTrue_atLeast_iff languageConfidence, TextMeets, and_assoc, and_assoc]

end Conditions

end Library

end MediaSearch
