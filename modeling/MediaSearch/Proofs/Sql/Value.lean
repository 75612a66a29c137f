/-
MediaSearch/Proofs/Sql/Value.lean

How a store compares values.

Values fall into four classes: null, numbers, texts and blobs, in this order.
Numbers compare by size, whichever type they have, texts and blobs by their
bytes.  What decides a comparison is the *key* of a value: two values are
the same to `GROUP BY`, `DISTINCT` and the set operators exactly when their
keys are equal.

A comparison with null is neither true nor false.  So the answers of
conditions have three values: `some true`, `some false`, and `none` for an
unknown one.
-/
import MediaSearch.Proofs.Number.Binary
import MediaSearch.Sql.Query

namespace MediaSearch

namespace Sql

/-! ### Keys -/

/-- What decides how a value compares. -/
inductive Key where
  | null
  /-- A number in the units of doubles. -/
  | number (units : Int)
  | text (s : String)
  | blob (bytes : List UInt8)
  deriving DecidableEq

/-- One, in the units of doubles. -/
def Key.one : Int := (1 <<< Format.double.scale : Nat)

theorem Key.one_pos : 0 < Key.one := Int.natCast_pos.mpr (one_shiftLeft_pos _)

/-- The key of a value; truth values are the numbers 0 and 1. -/
def Value.key : Value → Key
  | .null => .null
  | .boolean b => .number (if b then Key.one else 0)
  | .integer n => .number (n.toInt * Key.one)
  | .real x => .number x.signedUnits
  | .text s => .text s
  | .blob bytes => .blob bytes

namespace Key

/-- The class of a key, as a number. -/
def tier : Key → Nat
  | null => 0
  | number _ => 1
  | text _ => 2
  | blob _ => 3

/-- The order of keys: that of their tiers, and within a tier that of what they hold. -/
protected def compare : Key → Key → Ordering
  | number a, number b => compare a b
  | text a, text b => compare a b
  | blob a, blob b => compare a b
  | a, b => compare a.tier b.tier

/-- Keys are compared equal only if they are. -/
theorem compare_eq_iff (a b : Key) : a.compare b = .eq ↔ a = b := by
  cases a <;> cases b <;> simp [Key.compare, tier]

end Key

theorem Value.key_integer_inj {m n : Int64} :
    (Value.integer m).key = (Value.integer n).key ↔ m = n := by
  constructor
  · intro same
    have product : m.toInt * Key.one = n.toInt * Key.one := by
      simpa [Value.key] using same
    exact Int64.toInt_inj.mp (Int.eq_of_mul_eq_mul_right (Int.ne_of_gt Key.one_pos) product)
  · rintro rfl
    rfl

@[simp] theorem Value.key_text_inj {s t : String} :
    (Value.text s).key = (Value.text t).key ↔ s = t := by
  simp [Value.key]

@[simp] theorem Value.key_integer_ne_null (n : Int64) : (Value.integer n).key ≠ .null := by
  simp [Value.key]

@[simp] theorem Value.key_text_ne_null (s : String) : (Value.text s).key ≠ .null := by
  simp [Value.key]

@[simp] theorem Value.key_real_ne_null (x : Binary64) : (Value.real x).key ≠ .null := by
  simp [Value.key]

@[simp] theorem Value.key_eq_null_iff (v : Value) : v.key = .null ↔ v = .null := by
  cases v <;> simp [Value.key]

/-! ### Comparisons -/

/-- Whether a comparison holds of values in a given order. -/
def Comparison.accepts : Comparison → Ordering → Bool
  | .eq, o => o == .eq
  | .ne, o => o != .eq
  | .le, o => o != .gt
  | .ge, o => o != .lt

/-- The answer of a comparison. -/
def Comparison.truth (c : Comparison) (a b : Value) : Option Bool :=
  if a.key = .null ∨ b.key = .null then none else some (c.accepts (a.key.compare b.key))

/-- Values are known to be equal if their keys are and neither is absent. -/
theorem Comparison.truth_eq_iff (a b : Value) :
    Comparison.eq.truth a b = some true ↔ a.key = b.key ∧ a ≠ .null := by
  unfold Comparison.truth Comparison.accepts
  simp only [Value.key_eq_null_iff]
  split
  case isTrue absent =>
    rcases absent with rfl | rfl
    · simp
    · have null : Value.null.key = .null := rfl
      rw [null, Value.key_eq_null_iff]
      simp
  case isFalse present =>
    have left : a ≠ .null := fun absent => present (.inl absent)
    simp [Key.compare_eq_iff, left]

@[simp] theorem Comparison.truth_eq_integer (m n : Int64) :
    Comparison.eq.truth (.integer m) (.integer n) = some true ↔ m = n := by
  rw [truth_eq_iff, Value.key_integer_inj]
  simp

@[simp] theorem Comparison.truth_eq_text (s t : String) :
    Comparison.eq.truth (.text s) (.text t) = some true ↔ s = t := by
  rw [truth_eq_iff]
  simp

/-- A real that is at least a bound has at least as many units. -/
theorem Comparison.truth_ge_real (x bound : Binary64) :
    Comparison.ge.truth (.real x) (.real bound) = some true
      ↔ bound.signedUnits ≤ x.signedUnits := by
  simp [Comparison.truth, Comparison.accepts, Value.key, Key.compare, Int.compare_eq_lt]

theorem Comparison.truth_ge_integer (n bound : Int64) :
    Comparison.ge.truth (.integer n) (.integer bound) = some true
      ↔ bound.toInt ≤ n.toInt := by
  have order : compare (n.toInt * Key.one) (bound.toInt * Key.one) = .lt
      ↔ n.toInt < bound.toInt := by
    rw [Int.compare_eq_lt]
    exact Int.mul_lt_mul_right Key.one_pos
  simp [Comparison.truth, Comparison.accepts, Value.key, Key.compare, order]

theorem Comparison.truth_le_integer (n bound : Int64) :
    Comparison.le.truth (.integer n) (.integer bound) = some true
      ↔ n.toInt ≤ bound.toInt := by
  have order : compare (n.toInt * Key.one) (bound.toInt * Key.one) = .gt
      ↔ bound.toInt < n.toInt := by
    rw [Int.compare_eq_gt]
    exact Int.mul_lt_mul_right Key.one_pos
  simp [Comparison.truth, Comparison.accepts, Value.key, Key.compare, order]

@[simp] theorem Comparison.truth_ne_integer (m n : Int64) :
    Comparison.ne.truth (.integer m) (.integer n) = some true ↔ m ≠ n := by
  have same := Value.key_integer_inj (m := m) (n := n)
  rw [← Key.compare_eq_iff] at same
  simp [Comparison.truth, Comparison.accepts, same]

/-- Nothing is known of a comparison with null. -/
@[simp] theorem Comparison.truth_null (c : Comparison) (v : Value) : c.truth .null v = none :=
  if_pos (.inl rfl)

/-! ### Answers about several values -/

/-- The answer of conditions joined by `OR`. -/
def anyTrue (answers : List (Option Bool)) : Option Bool :=
  if some true ∈ answers then some true
  else if none ∈ answers then none
  else some false

/-- Any of some answers is yes if one of them is, whatever is unknown. -/
theorem anyTrue_eq_true_iff (answers : List (Option Bool)) :
    anyTrue answers = some true ↔ some true ∈ answers := by
  unfold anyTrue
  split
  · simp_all
  · split <;> simp_all

/-- Whether a value is one of several. -/
def Value.isAmong (v : Value) (vs : List Value) : Option Bool :=
  anyTrue (vs.map (Comparison.eq.truth v))

theorem Value.isAmong_map_eq_true_iff {α : Type} (v : Value) (f : α → Value) (xs : List α) :
    v.isAmong (xs.map f) = some true ↔ ∃ x ∈ xs, Comparison.eq.truth v (f x) = some true := by
  rw [isAmong, List.map_map, anyTrue_eq_true_iff, List.mem_map]
  rfl

theorem Value.text_isAmong_texts (s : String) (texts : List String) :
    (Value.text s).isAmong (texts.map .text) = some true ↔ s ∈ texts := by
  simp [isAmong_map_eq_true_iff]

theorem Value.integer_isAmong_integers (n : Int64) (ns : List Int64) :
    (Value.integer n).isAmong (ns.map .integer) = some true ↔ n ∈ ns := by
  simp [isAmong_map_eq_true_iff]

/-- Among integers alone nothing is unknown. -/
theorem Value.integer_not_isAmong_integers (n : Int64) (ns : List Int64) :
    ((Value.integer n).isAmong (ns.map .integer)).map not = some true ↔ n ∉ ns := by
  have known : none ∉ (ns.map Value.integer).map (Comparison.eq.truth (.integer n)) := by
    simp [Comparison.truth]
  rw [← integer_isAmong_integers n ns]
  -- with nothing unknown, the answer is whether there is an equal one
  unfold isAmong anyTrue
  rw [if_neg known]
  split <;> simp

end Sql

end MediaSearch
