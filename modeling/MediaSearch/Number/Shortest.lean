/-
MediaSearch/Number/Shortest.lean

The shortest decimal that reads back as a given binary value.

A value owns the interval of reals that round to it, its ends included when
its significand is even (`Binary.window`).  A decimal with last place
`10 ^ j` is a multiple of `10 ^ j`; if the window holds one, it holds one of
the two multiples next to the value (`Window.hit?`).  Going from coarse
places to fine ones, the first place with a hit is the shortest decimal; of
two hits the nearer is taken, and the even one if both are equally near.
-/
import MediaSearch.Number.Binary
import MediaSearch.Number.Digits

namespace MediaSearch

/-- A positive decimal `digits * 10 ^ place`. -/
structure Decimal where
  digits : Nat
  place : Int
  deriving DecidableEq

/-- The reals that round to a value, as fractions of one denominator. -/
structure Window where
  low : Nat
  value : Nat
  high : Nat
  den : Nat
  /-- Whether the two ends round to the value as well. -/
  closed : Bool

/-- The window of a finite positive code.  Just above a power of two the
values below are half as far away as those above. -/
def Format.window (f : Format) (code : Nat) : Window :=
  let (m, shift) := f.decode code
  let below := if m = 1 <<< (f.precision - 1) ∧ shift ≠ 0 then 1 else 2
  -- quarters of a unit, so that both middles between neighbours are whole
  { low := (4 * m - below) <<< shift
    value := (4 * m) <<< shift
    high := (4 * m + 2) <<< shift
    den := 4 <<< f.scale
    closed := m % 2 = 0 }

namespace Window

/-- Whether `n / scale` lies in the window. -/
def holds (w : Window) (n scale : Nat) : Bool :=
  if w.closed then w.low * scale ≤ n * w.den && n * w.den ≤ w.high * scale
  else w.low * scale < n * w.den && n * w.den < w.high * scale

/-- The multiple of `step / scale` in the window nearest to the value. -/
def hit? (w : Window) (step scale : Nat) : Option Nat :=
  let below := w.value * scale / (w.den * step)
  let left := w.value * scale - below * step * w.den
  let right := (below + 1) * step * w.den - w.value * scale
  match w.holds (below * step) scale, w.holds ((below + 1) * step) scale with
  | true, true =>
    some (if left < right ∨ (left = right ∧ below % 2 = 0) then below else below + 1)
  | true, false => some below
  | false, true => some (below + 1)
  | false, false => none

/-- The first hit at the places `j`, `j - 1`, …, `j - fuel`. -/
def search (w : Window) : (fuel : Nat) → (place : Int) → Decimal
  | 0, place => ⟨0, place⟩
  | fuel + 1, place =>
    match w.hit? (Nat.pow 10 place.toNat) (Nat.pow 10 (-place).toNat) with
    | some digits => ⟨digits, place⟩
    | none => w.search fuel (place - 1)

end Window

/-- The shortest decimal that rounds to the code.  At the place of the
smallest positive value every value is a decimal, so the search ends. -/
def Format.shortest (f : Format) (code : Nat) : Decimal :=
  let w := f.window code
  let top := (Nat.toDigits 10 (w.high / w.den)).length
  w.search (top + f.scale + 1) top

/-- Which values are written out positionally: those whose first digit is
worth at least `10 ^ least` and at most `10 ^ greatest`.  All others have an
exponent, with its sign and no more digits than it needs. -/
structure FloatStyle where
  least : Int
  greatest : Int

namespace FloatStyle

/-- A nonzero decimal in the style: `0.001`, `12.5`, `100.0`, `1.5e+20`,
`1e-7`. -/
def decimal (style : FloatStyle) (d : Decimal) : String :=
  let digits := Nat.toDigits 10 d.digits
  let exponent := d.place + digits.length - 1
  if style.least ≤ exponent ∧ exponent ≤ style.greatest then
    let whole := if exponent < 0 then ['0'] else
      digits.take (exponent.toNat + 1) ++ List.replicate d.place.toNat '0'
    let fraction := if exponent < 0 then
      List.replicate (-exponent - 1).toNat '0' ++ digits
      else digits.drop (exponent.toNat + 1)
    String.ofList (whole ++ '.' :: (if fraction.isEmpty then ['0'] else fraction))
  else
    let mantissa := match digits with
      | [] => []
      | first :: [] => [first]
      | first :: rest => first :: '.' :: rest
    String.ofList mantissa ++ (if exponent < 0 then "e-" else "e+")
      ++ toString exponent.natAbs

/-- A finite value in the style. -/
def write {f : Format} (style : FloatStyle) (x : Binary f) : String :=
  (if x.negative then "-" else "") ++
    (if x.code = 0 then "0.0" else style.decimal (f.shortest x.code))

end FloatStyle

end MediaSearch
