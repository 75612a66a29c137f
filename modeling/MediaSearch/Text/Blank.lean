/-
MediaSearch/Text/Blank.lean

White space in the sense of Unicode's `White_Space`, and trimming.

`trim` takes white space off both ends; what is left neither starts nor ends
with any, and trimming it again changes nothing.
-/
namespace MediaSearch.Text

/-- The property `White_Space`. -/
def isBlank (c : Char) : Bool :=
  let n := c.toNat
  (9 ≤ n && n ≤ 13) || n == 0x20 || n == 0x85 || n == 0xa0 || n == 0x1680
    || (0x2000 ≤ n && n ≤ 0x200a) || n == 0x2028 || n == 0x2029 || n == 0x202f
    || n == 0x205f || n == 0x3000

/-- Without the white space at the end. -/
def trimEnd (cs : List Char) : List Char :=
  (cs.reverse.dropWhile isBlank).reverse

/-- Without the white space at both ends. -/
def trimChars (cs : List Char) : List Char :=
  trimEnd (cs.dropWhile isBlank)

/-- Without the white space at both ends. -/
def trim (s : String) : String :=
  String.ofList (trimChars s.toList)

/-- Whether nothing but white space is in a text. -/
def isBlankText (s : String) : Bool :=
  (trim s).isEmpty

/-- The trimmed entries of a list that are not blank. -/
def nonBlank (entries : List String) : List String :=
  (entries.map trim).filter fun s => !s.isEmpty

end MediaSearch.Text
