/-
MediaSearch/Proofs/Number/Exact.lean

Values that a format has are not rounded.

A code is written as a significand `q` and a shift `s`, normal if only the
shift 0 has significands without the leading bit (`Format.Normal`).  Encoding
takes the units `q <<< s` of a normal pair back to its code, whatever the
denominator.  So a value that is written in other units, or as its equal in
another format, is read as itself (`ofRatio_of_units`, `convert_of_units`).
-/
import MediaSearch.Number.Binary
import MediaSearch.Proofs.Number.Binary
import Mathlib.Algebra.Group.Nat.Defs

namespace MediaSearch

/-- A quotient without a remainder is not rounded. -/
theorem roundDiv_mul_right (n : Nat) {den : Nat} (pos : 0 < den) :
    roundDiv (n * den) den = n := by
  simp [roundDiv, Nat.mul_div_cancel n pos, Nat.mul_mod_left, pos]

namespace Format

variable {f : Format}

/-- The leading bit of a significand. -/
def hidden (f : Format) : Nat :=
  1 <<< (f.precision - 1)

theorem hidden_eq (f : Format) : f.hidden = 2 ^ (f.precision - 1) :=
  Nat.one_shiftLeft _

theorem hidden_pos (f : Format) : 0 < f.hidden :=
  one_shiftLeft_pos _

/-- Whether a significand and a shift are those of a code. -/
structure Normal (f : Format) (q s : Nat) : Prop where
  lt : q < 2 * f.hidden
  leading : s = 0 ∨ f.hidden ≤ q

/-- The units of a code. -/
theorem units_of_normal {q s : Nat} (normal : f.Normal q s) :
    f.units (s * f.hidden + q) = q * 2 ^ s := by
  have pos := f.hidden_pos
  have below := normal.lt
  rw [units, decode, ← hidden, Nat.shiftLeft_eq]
  by_cases small : q < f.hidden
  · -- without a leading bit the code is the significand
    obtain rfl : s = 0 := normal.leading.resolve_right (Nat.not_le.mpr small)
    rw [Nat.zero_mul, Nat.zero_add, Nat.div_eq_of_lt small]
  · obtain ⟨r, rfl⟩ := Nat.exists_eq_add_of_le (Nat.le_of_not_lt small)
    have rest : r < f.hidden := by omega
    have code : s * f.hidden + (f.hidden + r) = r + (s + 1) * f.hidden := by
      rw [Nat.succ_mul]
      omega
    rw [code, Nat.add_mul_div_right _ _ pos, Nat.add_mul_mod_self_right, Nat.div_eq_of_lt rest,
      Nat.mod_eq_of_lt rest, Nat.zero_add]

/-- Every code is that of a normal pair. -/
theorem exists_normal (f : Format) (code : Nat) :
    ∃ q s, f.Normal q s ∧ code = s * f.hidden + q := by
  have pos := f.hidden_pos
  have small := Nat.mod_lt code pos
  have split := Nat.div_add_mod' code f.hidden
  cases exponent : code / f.hidden with
  | zero =>
    rw [exponent, Nat.zero_mul, Nat.zero_add] at split
    exact ⟨code, 0, ⟨by omega, .inl rfl⟩, by omega⟩
  | succ s =>
    rw [exponent, Nat.succ_mul] at split
    exact ⟨f.hidden + code % f.hidden, s, ⟨by omega, .inr (by omega)⟩, by omega⟩

/-- A significand with too few bits gets more of them, as far as the shift
allows. -/
theorem exists_normal_of_lt {m : Nat} (e : Nat) (small : m < 2 * f.hidden) :
    ∃ q s, f.Normal q s ∧ q * 2 ^ s = m * 2 ^ e ∧ s ≤ e := by
  induction e generalizing m with
  | zero => exact ⟨m, 0, ⟨small, .inl rfl⟩, rfl, Nat.le_refl 0⟩
  | succ e ih =>
    by_cases leading : f.hidden ≤ m
    · exact ⟨m, e + 1, ⟨small, .inr leading⟩, rfl, Nat.le_refl _⟩
    · have doubled : 2 * m < 2 * f.hidden := by omega
      obtain ⟨q, s, normal, same, fewer⟩ := ih doubled
      refine ⟨q, s, normal, ?_, Nat.le_succ_of_le fewer⟩
      rw [same, Nat.pow_succ]
      ac_rfl

/-- The shift that encoding finds is that of the normal pair. -/
theorem log2_of_normal (positive : 0 < f.precision) {q s : Nat} (normal : f.Normal q s) :
    (q * 2 ^ s).log2 + 1 - f.precision = s := by
  have below := normal.lt
  have top : 2 * f.hidden = 2 ^ f.precision := by
    rw [hidden_eq, Nat.mul_comm, ← Nat.pow_succ]
    congr 1
    omega
  rcases Nat.eq_zero_or_pos q with rfl | nonzero
  · have shift : s = 0 := normal.leading.resolve_right (Nat.not_le.mpr f.hidden_pos)
    rw [shift, Nat.zero_mul, Nat.log2_zero]
    omega
  · have units : q * 2 ^ s ≠ 0 :=
      Nat.ne_of_gt (Nat.mul_pos nonzero (Nat.two_pow_pos s))
    -- the leading bit of the significand gives the shift
    have upper : (q * 2 ^ s).log2 < f.precision + s := by
      rw [Nat.log2_lt units, Nat.pow_add]
      exact Nat.mul_lt_mul_of_pos_right (top ▸ below) (Nat.two_pow_pos s)
    rcases normal.leading with rfl | leading
    · omega
    · have lower : f.precision - 1 + s ≤ (q * 2 ^ s).log2 := by
        rw [Nat.le_log2 units, Nat.pow_add, ← hidden_eq]
        exact Nat.mul_le_mul_right _ leading
      omega

/-- Encoding the units of a normal pair gives its code. -/
theorem encode_of_normal (positive : 0 < f.precision) {q s den : Nat} (normal : f.Normal q s)
    (pos : 0 < den) :
    f.encode (q * 2 ^ s * den) den = min f.infinity (s * f.hidden + q) := by
  have quotient : q * 2 ^ s * den = q * (den <<< s) := by
    rw [Nat.shiftLeft_eq]
    ac_rfl
  have shifted : 0 < den <<< s := by
    rw [Nat.shiftLeft_eq]
    exact Nat.mul_pos pos (Nat.two_pow_pos s)
  rw [encode, Nat.mul_div_cancel _ pos, log2_of_normal positive normal, quotient,
    roundDiv_mul_right q shifted, hidden_eq, Nat.shiftLeft_eq]

/-- The units of a code, over any denominator, are read as that code. -/
theorem encode_units (positive : 0 < f.precision) {code den : Nat} (within : code ≤ f.infinity)
    (pos : 0 < den) : f.encode (f.units code * den) den = code := by
  obtain ⟨q, s, normal, rfl⟩ := f.exists_normal code
  rw [units_of_normal normal, encode_of_normal positive normal pos]
  exact Nat.min_eq_right within

/-- Units that have few enough bits are those of the finite code they are read
as. -/
theorem units_encode (positive : 0 < f.precision) {m e den : Nat} (small : m < 2 * f.hidden)
    (within : (e + 2) * f.hidden < f.infinity) (pos : 0 < den) :
    f.encode (m * 2 ^ e * den) den < f.infinity ∧
      f.units (f.encode (m * 2 ^ e * den) den) = m * 2 ^ e := by
  obtain ⟨q, s, normal, same, fewer⟩ := exists_normal_of_lt e small
  have code : s * f.hidden + q < f.infinity := by
    have shift : s * f.hidden ≤ e * f.hidden := Nat.mul_le_mul_right _ fewer
    have below := normal.lt
    rw [Nat.add_mul] at within
    omega
  rw [← same, encode_of_normal positive normal pos, Nat.min_eq_right (Nat.le_of_lt code),
    units_of_normal normal]
  exact ⟨code, rfl⟩

end Format

namespace Binary

variable {f g : Format}

theorem isInfinite_eq_false_iff {x : Binary f} : x.isInfinite = false ↔ x.code < f.infinity := by
  have within := x.code_le
  rw [isInfinite, beq_eq_false_iff_ne]
  omega

/-- The ratio that has the value of `x` is read as `x`. -/
theorem ofRatio_of_units (positive : 0 < f.precision) {x : Binary f} {num den : Nat}
    (pos : 0 < den) (same : num <<< f.scale = f.units x.code * den) :
    ofRatio f x.negative num den = x := by
  have code : f.encode (num <<< f.scale) den = x.code := by
    rw [same, Format.encode_units positive x.code_le pos]
  cases x
  simp only [ofRatio, mk.injEq, true_and]
  exact code

/-- A value in another format is rounded to its equal. -/
theorem convert_of_units (positive : 0 < f.precision) {x : Binary f} {y : Binary g}
    (finite : y.isInfinite = false) (sign : y.negative = x.negative)
    (same : g.units y.code <<< f.scale = f.units x.code <<< g.scale) : y.convert f = x := by
  rw [convert, finite, if_neg Bool.false_ne_true, sign]
  refine ofRatio_of_units positive (one_shiftLeft_pos _) ?_
  rw [same, Nat.shiftLeft_eq, Nat.one_shiftLeft]

/-- A finer and wider format has an equal of every finite value. -/
theorem convert_finer (positive : 0 < g.precision) {x : Binary f} {k : Nat}
    (finite : x.isInfinite = false) (scale : g.scale = k + f.scale) (bits : f.hidden ≤ g.hidden)
    (range : ∀ s, s * f.hidden < f.infinity → (s + k + 2) * g.hidden < g.infinity) :
    (x.convert g).isInfinite = false ∧
      g.units (x.convert g).code <<< f.scale = f.units x.code <<< g.scale := by
  obtain ⟨q, s, normal, code⟩ := f.exists_normal x.code
  have below := isInfinite_eq_false_iff.mp finite
  have small : q < 2 * g.hidden := by
    have narrow := normal.lt
    omega
  -- the unit of the finer format is smaller by a power of two
  have units : f.units x.code <<< g.scale = q * 2 ^ (s + k) * (1 <<< f.scale) := by
    have regroup : ∀ a b c : Nat, q * a * (b * c) = q * (a * b) * c := fun a b c => by
      rw [Nat.mul_assoc, Nat.mul_assoc, Nat.mul_assoc]
    rw [code, Format.units_of_normal normal, Nat.shiftLeft_eq, Nat.one_shiftLeft, scale,
      Nat.pow_add, Nat.pow_add]
    exact regroup _ _ _
  obtain ⟨finite', same⟩ := Format.units_encode positive small
    (range s (by omega)) (one_shiftLeft_pos f.scale)
  have read :
      (x.convert g).code = g.encode (q * 2 ^ (s + k) * (1 <<< f.scale)) (1 <<< f.scale) := by
    rw [convert, finite, if_neg Bool.false_ne_true, ← units]
    rfl
  rw [isInfinite_eq_false_iff, read, same, units]
  refine ⟨finite', ?_⟩
  rw [Nat.shiftLeft_eq, Nat.one_shiftLeft]

/-- A finite single has an equal double. -/
theorem convert_double {x : Binary32} (finite : x.isInfinite = false) :
    (x.convert .double).isInfinite = false ∧
      Format.double.units (x.convert .double).code <<< Format.single.scale =
        Format.single.units x.code <<< Format.double.scale := by
  have scale : Format.double.scale = 925 + Format.single.scale := rfl
  have bits : Format.single.hidden ≤ Format.double.hidden := by decide
  have narrow : Format.single.infinity = 0xff * Format.single.hidden := by decide
  have wide : Format.double.infinity = 0x7ff * Format.double.hidden := by decide
  refine convert_finer (by decide) finite scale bits ?_
  intro s below
  rw [narrow] at below
  rw [wide]
  have shift : s < 0xff := Nat.lt_of_mul_lt_mul_right below
  have room : s + 925 + 2 < 0x7ff := by omega
  exact Nat.mul_lt_mul_of_pos_right room (Format.hidden_pos _)

end Binary

end MediaSearch
