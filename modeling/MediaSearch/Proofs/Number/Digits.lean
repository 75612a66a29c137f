/-
MediaSearch/Proofs/Number/Digits.lean

Decimal digits in the order of texts.

Digits are characters in the order of their values, and the first of them
that differ weigh more than all that follow.  So of two numbers with equally
many digits the smaller one is the one whose text comes first
(`digitsValue_lt_of_lt`).  Digits after a point are counted from the front,
and zeros after them change nothing: cut or filled up to one length, they
are such numbers again (`fillUp_le_of_le`).
-/
import Mathlib.Data.String.Basic
import Mathlib.Tactic.Ring
import MediaSearch.Number.Digits

namespace MediaSearch

/-! ### Texts -/

theorem cons_le_cons_iff {a b : Char} {as bs : List Char} :
    a :: as ≤ b :: bs ↔ a < b ∨ a = b ∧ as ≤ bs := by
  rw [le_iff_lt_or_eq, List.cons_lt_cons_iff, List.cons.injEq, le_iff_lt_or_eq, and_or_left,
    or_assoc]

/-- Texts that begin with parts of one length are in the order of these parts,
and of what follows where the parts are equal. -/
theorem append_le_append_iff {as bs : List Char} (length : as.length = bs.length)
    (cs ds : List Char) : as ++ cs ≤ bs ++ ds ↔ as < bs ∨ as = bs ∧ cs ≤ ds := by
  induction as generalizing bs with
  | nil =>
    obtain rfl : bs = [] := List.eq_nil_of_length_eq_zero length.symm
    simp
  | cons a as ih =>
    cases bs with
    | nil => cases length
    | cons b bs =>
      have rest := ih (Nat.succ.inj length)
      -- the first characters decide unless they are the same
      rw [List.cons_append, List.cons_append, cons_le_cons_iff, rest, List.cons_lt_cons_iff,
        List.cons.injEq]
      constructor
      · rintro (first | ⟨same, before | ⟨rfl, after⟩⟩)
        · exact .inl (.inl first)
        · exact .inl (.inr ⟨same, before⟩)
        · exact .inr ⟨⟨same, rfl⟩, after⟩
      · rintro ((first | ⟨same, before⟩) | ⟨⟨same, rfl⟩, after⟩)
        · exact .inl first
        · exact .inr ⟨same, .inl before⟩
        · exact .inr ⟨same, .inr ⟨rfl, after⟩⟩

/-! ### Digits -/

theorem Char.lt_iff_toNat_lt {c d : Char} : c < d ↔ c.toNat < d.toNat := by
  rw [Char.lt_def, UInt32.lt_iff_toNat_lt]
  rfl

theorem toNat_of_isDigit {c : Char} (digit : c.isDigit = true) : 48 ≤ c.toNat ∧ c.toNat ≤ 57 := by
  simpa [Char.isDigit, UInt32.le_iff_toNat_le] using digit

/-- What has been read before some digits goes up by a factor of ten for
each of them. -/
theorem foldl_digits (n : Nat) (digits : List Char) :
    digits.foldl (fun n c => 10 * n + (c.toNat - '0'.toNat)) n
      = n * 10 ^ digits.length + digitsValue digits := by
  induction digits generalizing n with
  | nil => simp [digitsValue]
  | cons c digits ih =>
    have first : digitsValue (c :: digits)
        = (10 * 0 + (c.toNat - '0'.toNat)) * 10 ^ digits.length + digitsValue digits := ih _
    rw [List.foldl_cons, ih, first, List.length_cons, Nat.pow_succ]
    ring

theorem digitsValue_cons (c : Char) (digits : List Char) :
    digitsValue (c :: digits)
      = (c.toNat - 48) * 10 ^ digits.length + digitsValue digits := by
  show digits.foldl _ (10 * 0 + (c.toNat - '0'.toNat)) = _
  rw [foldl_digits, Nat.mul_zero, Nat.zero_add]
  rfl

/-- So many digits stay below so high a power of ten. -/
theorem digitsValue_lt {digits : List Char} (all : ∀ c ∈ digits, c.isDigit = true) :
    digitsValue digits < 10 ^ digits.length := by
  induction digits with
  | nil => decide
  | cons c digits ih =>
    have rest := ih fun d present => all d (List.mem_cons_of_mem c present)
    have first := toNat_of_isDigit (all c List.mem_cons_self)
    have weight : (c.toNat - 48) * 10 ^ digits.length ≤ 9 * 10 ^ digits.length :=
      Nat.mul_le_mul_right _ (by omega)
    rw [digitsValue_cons, List.length_cons, Nat.pow_succ]
    omega

/-- **Numbers with equally many digits are in the order of their texts.** -/
theorem digitsValue_lt_of_lt {ds es : List Char} (length : ds.length = es.length)
    (left : ∀ c ∈ ds, c.isDigit = true) (right : ∀ c ∈ es, c.isDigit = true) (before : ds < es) :
    digitsValue ds < digitsValue es := by
  induction ds generalizing es with
  | nil =>
    obtain rfl : es = [] := List.eq_nil_of_length_eq_zero length.symm
    exact absurd before (lt_irrefl [])
  | cons d ds ih =>
    cases es with
    | nil => cases length
    | cons e es =>
      have lengths : ds.length = es.length := Nat.succ.inj length
      have leftRest := fun c present => left c (List.mem_cons_of_mem d present)
      have rightRest := fun c present => right c (List.mem_cons_of_mem e present)
      rw [digitsValue_cons, digitsValue_cons, lengths]
      rcases List.cons_lt_cons_iff.mp before with first | ⟨rfl, after⟩
      · -- the greater digit outweighs all that follows the other
        have small := digitsValue_lt leftRest
        have digit := toNat_of_isDigit (left d List.mem_cons_self)
        have digit' := toNat_of_isDigit (right e List.mem_cons_self)
        have order := Char.lt_iff_toNat_lt.mp first
        have weight : (d.toNat - 48 + 1) * 10 ^ es.length ≤ (e.toNat - 48) * 10 ^ es.length :=
          Nat.mul_le_mul_right _ (by omega)
        rw [lengths] at small
        rw [Nat.add_mul] at weight
        omega
      · exact Nat.add_lt_add_left (ih lengths leftRest rightRest after) _

/-- Of as many digits, those that come first stand for the smaller number. -/
theorem digitsValue_le_of_le {ds es : List Char} (length : ds.length = es.length)
    (left : ∀ c ∈ ds, c.isDigit = true) (right : ∀ c ∈ es, c.isDigit = true) (before : ds ≤ es) :
    digitsValue ds ≤ digitsValue es := by
  rw [← List.append_nil ds, ← List.append_nil es, append_le_append_iff length] at before
  rcases before with first | ⟨rfl, -⟩
  · exact Nat.le_of_lt (digitsValue_lt_of_lt length left right first)
  · exact Nat.le_refl _

/-! ### Digits after a point -/

/-- Some digits, cut or filled up with zeros to a length. -/
def fillUp : Nat → List Char → List Char
  | 0, _ => []
  | n + 1, [] => '0' :: fillUp n []
  | n + 1, c :: digits => c :: fillUp n digits

/-- Filling up is appending zeros and cutting off. -/
theorem fillUp_eq (n : Nat) (digits : List Char) :
    fillUp n digits = (digits ++ List.replicate n '0').take n := by
  induction n generalizing digits with
  | zero => rfl
  | succ n ih =>
    cases digits with
    | nil =>
      rw [fillUp, ih, List.nil_append, List.nil_append, List.replicate_succ, List.take_succ_cons]
    | cons c digits =>
      have zeros : min (n - digits.length) (n + 1) = min (n - digits.length) n := by omega
      rw [fillUp, ih, List.cons_append, List.take_succ_cons, List.take_append, List.take_append,
        List.take_replicate, List.take_replicate, zeros]

@[simp] theorem length_fillUp (n : Nat) (digits : List Char) : (fillUp n digits).length = n := by
  simp [fillUp_eq]

theorem isDigit_of_mem_fillUp {n : Nat} {digits : List Char}
    (all : ∀ c ∈ digits, c.isDigit = true) : ∀ c ∈ fillUp n digits, c.isDigit = true := by
  intro c present
  rw [fillUp_eq] at present
  rcases List.mem_append.mp (List.mem_of_mem_take present) with own | zero
  · exact all c own
  · rw [List.eq_of_mem_replicate zero]
    decide

/-- Nothing comes before zeros alone. -/
theorem fillUp_nil_le (n : Nat) {digits : List Char} (all : ∀ c ∈ digits, c.isDigit = true) :
    fillUp n [] ≤ fillUp n digits := by
  induction n generalizing digits with
  | zero => exact le_refl _
  | succ n ih =>
    cases digits with
    | nil => exact le_refl _
    | cons c digits =>
      have digit := toNat_of_isDigit (all c List.mem_cons_self)
      have rest := ih fun d present => all d (List.mem_cons_of_mem c present)
      rw [fillUp, fillUp, cons_le_cons_iff]
      -- zeros are the least digits, so a digit that is none is greater
      by_cases zero : c = '0'
      · exact .inr ⟨zero.symm, rest⟩
      · refine .inl (Char.lt_iff_toNat_lt.mpr ?_)
        have other : c.toNat ≠ '0'.toNat := fun same => zero (Char.toNat_inj.mp same)
        have value : '0'.toNat = 48 := rfl
        omega

/-- **Digits after a point are in the order of their texts**, if what follows
them comes before all digits or they are equally many. -/
theorem fillUp_le_of_le {ds es after : List Char} (left : ∀ c ∈ ds, c.isDigit = true)
    (right : ∀ c ∈ es, c.isDigit = true) (before : ds ++ after ≤ es ++ after)
    (ends : (∃ c rest, after = c :: rest ∧ c < '0') ∨ ds.length = es.length) (n : Nat) :
    fillUp n ds ≤ fillUp n es := by
  induction n generalizing ds es with
  | zero => exact le_refl _
  | succ n ih =>
    match ds, es with
    | [], es => exact fillUp_nil_le (n + 1) right
    | d :: ds, [] =>
      -- the longer one does not come before the end of the other
      rcases ends with ⟨c, rest, rfl, low⟩ | length
      · have digit := toNat_of_isDigit (left d List.mem_cons_self)
        have small := Char.lt_iff_toNat_lt.mp low
        have value : '0'.toNat = 48 := rfl
        rcases cons_le_cons_iff.mp before with first | ⟨rfl, -⟩
        · have order := Char.lt_iff_toNat_lt.mp first
          omega
        · omega
      · cases length
    | d :: ds, e :: es =>
      rw [fillUp, fillUp, cons_le_cons_iff]
      refine (cons_le_cons_iff.mp before).imp_right fun ⟨same, rest⟩ => ⟨same, ?_⟩
      refine ih (fun c present => left c (List.mem_cons_of_mem d present))
        (fun c present => right c (List.mem_cons_of_mem e present)) rest ?_
      exact ends.imp_right Nat.succ.inj

end MediaSearch
