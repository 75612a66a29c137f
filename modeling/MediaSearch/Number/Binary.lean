/-
MediaSearch/Number/Binary.lean

Binary floating point as bit patterns, with exact arithmetic.

A `Format` fixes the bits of a significand and the smallest positive value.
A `Binary f` is a sign and a *code*: the codes of a format are consecutive
naturals in the order of the magnitudes they stand for, infinity last, so
the bit pattern of a value is its code with the sign bit in front.

Every finite magnitude is a natural number of *units*, the unit being the
smallest positive value `2 ^ -f.scale`.  Rounding a ratio to a format is
therefore done in natural numbers: write it in units, keep `f.precision`
bits, and round what is cut off to nearest, ties to even.  No step goes
through the machine's own floating point, so each of them can be computed
inside a proof.
-/
import MediaSearch.Number.Rounding

namespace MediaSearch

/-- A binary format: how many bits a significand has (its leading one
included), which power of two is the smallest positive value, and the code
of infinity. -/
structure Format where
  precision : Nat
  scale : Nat
  infinity : Nat
  deriving DecidableEq

namespace Format

/-- Eight bytes: significands of 53 bits, down to `2 ^ -1074`. -/
def double : Format := ⟨53, 1074, 0x7ff <<< 52⟩

/-- Four bytes: significands of 24 bits, down to `2 ^ -149`. -/
def single : Format := ⟨24, 149, 0xff <<< 23⟩

/-- The significand and the binary exponent, in units, of a finite code. -/
def decode (f : Format) (code : Nat) : Nat × Nat :=
  let hidden := 1 <<< (f.precision - 1)
  match code / hidden with
  | 0 => (code, 0)
  | e + 1 => (hidden + code % hidden, e)

/-- The magnitude of a finite code, in units. -/
def units (f : Format) (code : Nat) : Nat :=
  (f.decode code).1 <<< (f.decode code).2

/-- The code nearest to `num / den` units; from half a step above the
largest finite value on, that of infinity. -/
def encode (f : Format) (num den : Nat) : Nat :=
  let shift := (num / den).log2 + 1 - f.precision
  min f.infinity (shift <<< (f.precision - 1) + roundDiv num (den <<< shift))

theorem encode_le_infinity (f : Format) (num den : Nat) : f.encode num den ≤ f.infinity :=
  Nat.min_le_left _ _

end Format

/-- A value of a binary format: a sign and a code up to that of infinity. -/
structure Binary (f : Format) where
  negative : Bool
  code : Nat
  code_le : code ≤ f.infinity
  deriving DecidableEq

/-- Numbers of double precision. -/
abbrev Binary64 := Binary .double

/-- Numbers of single precision. -/
abbrev Binary32 := Binary .single

namespace Binary

variable {f g : Format}

instance : Inhabited (Binary f) := ⟨⟨false, 0, Nat.zero_le _⟩⟩

/-- The value nearest to `num / den`, with the given sign. -/
def ofRatio (f : Format) (negative : Bool) (num den : Nat) : Binary f :=
  ⟨negative, f.encode (num <<< f.scale) den, f.encode_le_infinity _ _⟩

/-- The value nearest to a whole number; zero is positive. -/
def ofInt (f : Format) (n : Int) : Binary f :=
  ofRatio f (n < 0) n.natAbs 1

/-- Whether a number is beyond all finite ones. -/
def isInfinite (x : Binary f) : Bool :=
  x.code == f.infinity

/-- Above zero: neither of the two zeros is. -/
def isPositive (x : Binary f) : Bool :=
  !x.negative && x.code != 0

/-- A whole number that orders the values: both zeros are 0. -/
def key (x : Binary f) : Int :=
  if x.negative then -(x.code : Int) else x.code

/-- The same value rounded to another format; infinity stays infinite. -/
def convert (g : Format) (x : Binary f) : Binary g :=
  if x.isInfinite then ⟨x.negative, g.infinity, Nat.le_refl _⟩
  else ofRatio g x.negative (f.units x.code) (1 <<< f.scale)

/-- The product of two finite values, rounded. -/
def mul (x y : Binary f) : Binary f :=
  ofRatio f (x.negative != y.negative) (f.units x.code * f.units y.code) (1 <<< (2 * f.scale))

/-- The quotient of two finite values, rounded; the second is not zero. -/
def div (x y : Binary f) : Binary f :=
  ofRatio f (x.negative != y.negative) (f.units x.code) (f.units y.code)

end Binary

/-- The 64 bits of a double, sign first. -/
def Binary64.bits (x : Binary64) : Nat :=
  (if x.negative then 1 <<< 63 else 0) + x.code

/-- The 32 bits of a single, sign first. -/
def Binary32.bits (x : Binary32) : Nat :=
  (if x.negative then 1 <<< 31 else 0) + x.code

end MediaSearch
