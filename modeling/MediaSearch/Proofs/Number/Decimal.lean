/-
MediaSearch/Proofs/Number/Decimal.lean

Decimal numbers in front of other text can be read off.

The digits of a number end at the first character that is not a digit.  So
a number, a separator and some rest determine the number and the rest, and
different numbers give different texts whatever follows the separator
(`decimal_append_inj`, and `int_dash_append_inj` for numbers with a sign,
where the separator is a dash itself).
-/
import Mathlib.Data.List.Basic

namespace MediaSearch

/-- The digits of a number. -/
theorem toList_toString_nat (n : Nat) : (toString n).toList = Nat.toDigits 10 n := by
  rw [Nat.toString_eq_ofList_toDigits, String.toList_ofList]

/-- Different numbers have different digits. -/
theorem toDigits_injective {m n : Nat} (same : Nat.toDigits 10 m = Nat.toDigits 10 n) :
    m = n := by
  calc
    m = Nat.ofDigitChars 10 (Nat.toDigits 10 m) 0 := Nat.ofDigitChars_ten_toDigits.symm
    _ = Nat.ofDigitChars 10 (Nat.toDigits 10 n) 0 := by rw [same]
    _ = n := Nat.ofDigitChars_ten_toDigits

theorem notMem_toDigits {c : Char} (notDigit : c.isDigit = false) (n : Nat) :
    c ∉ Nat.toDigits 10 n := by
  intro digit
  rw [Nat.isDigit_of_mem_toDigits (by decide) (by decide) digit] at notDigit
  cases notDigit

/-- What stands before the first separator can be read off a text. -/
theorem append_separator_inj {α : Type} {sep : α} {xs ys as bs : List α} (left : sep ∉ xs)
    (right : sep ∉ ys) (same : xs ++ sep :: as = ys ++ sep :: bs) : xs = ys ∧ as = bs := by
  induction xs generalizing ys with
  | nil =>
    cases ys with
    | nil => exact ⟨rfl, (List.cons.inj same).2⟩
    | cons y ys => exact absurd (List.mem_cons.mpr (.inl (List.cons.inj same).1)) right
  | cons x xs ih =>
    cases ys with
    | nil => exact absurd (List.mem_cons.mpr (.inl (List.cons.inj same).1.symm)) left
    | cons y ys =>
      obtain ⟨rfl, rest⟩ := List.cons.inj same
      obtain ⟨rfl, after⟩ := ih (fun present => left (List.mem_cons_of_mem x present))
        (fun present => right (List.mem_cons_of_mem x present)) rest
      exact ⟨rfl, after⟩

/-- A number can be read off a text that goes on with no digit. -/
theorem decimal_append_inj {m n : Nat} {c : Char} {as bs : List Char}
    (notDigit : c.isDigit = false)
    (same : Nat.toDigits 10 m ++ c :: as = Nat.toDigits 10 n ++ c :: bs) : m = n ∧ as = bs := by
  obtain ⟨digits, rest⟩ :=
    append_separator_inj (notMem_toDigits notDigit m) (notMem_toDigits notDigit n) same
  exact ⟨toDigits_injective digits, rest⟩

/-! ### Numbers with a sign -/

theorem toList_toString_ofNat (n : Nat) :
    (toString (Int.ofNat n)).toList = Nat.toDigits 10 n := toList_toString_nat n

theorem toList_toString_negSucc (n : Nat) :
    (toString (Int.negSucc n)).toList = '-' :: Nat.toDigits 10 (n + 1) := by
  have text : toString (Int.negSucc n) = "-" ++ toString (n + 1) := rfl
  rw [text, String.toList_append, toList_toString_nat]
  rfl

/-- Digits are no sign. -/
theorem toDigits_append_ne_dash (n : Nat) (as bs : List Char) :
    Nat.toDigits 10 n ++ as ≠ '-' :: bs := by
  intro sign
  cases digits : Nat.toDigits 10 n with
  | nil => exact absurd digits Nat.toDigits_ne_nil
  | cons d rest =>
    rw [digits, List.cons_append, List.cons.injEq] at sign
    have dash : Char.isDigit '-' = false := by decide
    exact notMem_toDigits dash n (digits ▸ sign.1 ▸ List.mem_cons_self)

/-- A number with a sign can be read off a text that goes on with a dash. -/
theorem int_dash_append_inj {m n : Int} {as bs : List Char}
    (same : (toString m).toList ++ '-' :: as = (toString n).toList ++ '-' :: bs) :
    m = n ∧ as = bs := by
  have dash : Char.isDigit '-' = false := by decide
  -- with equal signs the digits decide, and different signs differ at once
  match m, n with
  | .ofNat k, .ofNat l =>
    rw [toList_toString_ofNat, toList_toString_ofNat] at same
    obtain ⟨rfl, rest⟩ := decimal_append_inj dash same
    exact ⟨rfl, rest⟩
  | .negSucc k, .negSucc l =>
    rw [toList_toString_negSucc, toList_toString_negSucc] at same
    obtain ⟨magnitude, rest⟩ := decimal_append_inj dash (List.cons.inj same).2
    exact ⟨by rw [Nat.succ.inj magnitude], rest⟩
  | .ofNat k, .negSucc l =>
    rw [toList_toString_ofNat, toList_toString_negSucc] at same
    exact absurd same (toDigits_append_ne_dash k _ _)
  | .negSucc k, .ofNat l =>
    rw [toList_toString_negSucc, toList_toString_ofNat] at same
    exact absurd same.symm (toDigits_append_ne_dash l _ _)

end MediaSearch
