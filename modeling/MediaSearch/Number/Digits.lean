/-
MediaSearch/Number/Digits.lean

Decimal digits of natural numbers: their value, and numbers padded with
zeros to a width.
-/
namespace MediaSearch

/-- The number that decimal digits stand for. -/
def digitsValue (digits : List Char) : Nat :=
  digits.foldl (fun n c => 10 * n + (c.toNat - '0'.toNat)) 0

/-- The decimal digits of a natural number, at least `width` of them. -/
def padded (width n : Nat) : String :=
  let digits := Nat.toDigits 10 n
  String.ofList (List.replicate (width - digits.length) '0' ++ digits)

end MediaSearch
