/-
MediaSearch/Proofs/Number/Binary.lean

Floating-point values as whole numbers of units.

The units of a value, with its sign, decide how it compares with others.
A value is positive exactly when it has positively many of them.
-/
import MediaSearch.Number.Binary

namespace MediaSearch

theorem one_shiftLeft_pos (n : Nat) : 0 < 1 <<< n := by
  rw [Nat.one_shiftLeft]
  exact Nat.two_pow_pos n

theorem Format.units_pos_iff (f : Format) (code : Nat) : 0 < f.units code ↔ 0 < code := by
  have hidden := one_shiftLeft_pos (f.precision - 1)
  -- with the exponent 0 the units are the code, otherwise a bit is added in front
  cases exponent : code / 1 <<< (f.precision - 1) with
  | zero => simp [units, decode, exponent]
  | succ e =>
    have normal : 0 < code := by
      rw [Nat.pos_iff_ne_zero]
      rintro rfl
      rw [Nat.zero_div] at exponent
      cases exponent
    have decoded : f.units code
        = (1 <<< (f.precision - 1) + code % 1 <<< (f.precision - 1)) <<< e := by
      simp [units, decode, exponent]
    rw [decoded, Nat.shiftLeft_eq]
    exact ⟨fun _ => normal,
      fun _ => Nat.mul_pos (Nat.add_pos_left hidden _) (Nat.two_pow_pos e)⟩

namespace Binary

variable {f : Format}

/-- The value as a whole number of units, sign included. -/
def signedUnits (x : Binary f) : Int :=
  if x.negative then -(f.units x.code : Int) else f.units x.code

theorem isPositive_iff (x : Binary f) : x.isPositive = true ↔ 0 < x.signedUnits := by
  have code := f.units_pos_iff x.code
  unfold isPositive signedUnits
  cases x.negative with
  | false =>
    simp only [Bool.not_false, Bool.true_and, bne_iff_ne, ne_eq, Bool.false_eq_true, if_false,
      Int.natCast_pos]
    omega
  | true =>
    simp

end Binary

end MediaSearch
