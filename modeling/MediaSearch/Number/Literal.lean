/-
MediaSearch/Number/Literal.lean

Reading decimal literals as doubles.

A literal is read as a whole number below `2 ^ 64` times a power of ten.
Digits are taken into the number from left to right while it stays below the
bound (`takeDigits`).  A digit of the whole part that is left over counts as
one more power of ten; one of the fraction does not count at all.

The number is then rounded to a double and multiplied or divided by the
double nearest to the power of ten (`Binary64.scaled?`).  Each step rounds.
As long as the number is below `2 ^ 53` and the power at most `10 ^ 22` only
the last one does, and the result is the double nearest to the literal;
beyond that it can be a neighbour of the nearest one.
-/
import MediaSearch.Number.Binary

namespace MediaSearch

/-- Takes digits into a number while it stays below `2 ^ 64`: the number and
the digits left over. -/
def takeDigits (n : Nat) : List Char → Nat × List Char
  | [] => (n, [])
  | c :: cs =>
    let next := 10 * n + (c.toNat - '0'.toNat)
    if next < UInt64.size then takeDigits next cs else (n, c :: cs)

namespace Binary64

/-- The largest power of ten that is not infinite as a double. -/
def maxPower : Nat := 308

/-- The double nearest to `10 ^ n`. -/
def powerOfTen (n : Nat) : Binary64 :=
  Binary.ofRatio .double false (Nat.pow 10 n) 1

/-- A finite value times `10 ^ n`, unless that is out of range. -/
def scaledUp? (x : Binary64) (n : Nat) : Option Binary64 :=
  if x.code = 0 then some x
  else if maxPower < n then none
  else
    let y := x.mul (powerOfTen n)
    if y.isInfinite then none else some y

/-- A value below `2 ^ 65` divided by `10 ^ n`.  A power beyond the largest
one takes two divisions, and whatever is left to divide by after them, the
quotient is zero. -/
def scaledDown (x : Binary64) (n : Nat) : Binary64 :=
  (x.div (powerOfTen (min n maxPower))).div (powerOfTen (min (n - maxPower) maxPower))

/-- A value below `2 ^ 65` times a power of ten, unless that is out of
range. -/
def scaled? (x : Binary64) (power : Int) : Option Binary64 :=
  if power < 0 then some (x.scaledDown (-power).toNat) else x.scaledUp? power.toNat

/-- The double that a literal stands for, unless it is out of range. -/
def ofLiteral? (negative : Bool) (whole fraction : List Char) (exponent : Int) :
    Option Binary64 :=
  let (n, ignored) := takeDigits 0 whole
  let (n, dropped) := takeDigits n fraction
  scaled? (Binary.ofRatio .double negative n 1)
    (exponent + ignored.length - (fraction.length - dropped.length : Nat))

end Binary64

end MediaSearch
