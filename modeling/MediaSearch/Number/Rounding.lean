/-
MediaSearch/Number/Rounding.lean

Rounding a quotient of natural numbers to the nearest one, ties to even.
-/
namespace MediaSearch

/-- `num / den` rounded to the nearest natural number; of two equally near
ones the even one. -/
def roundDiv (num den : Nat) : Nat :=
  let quotient := num / den
  let twice := 2 * (num % den)
  if twice < den then quotient
  else if den < twice then quotient + 1
  else quotient + quotient % 2

end MediaSearch
