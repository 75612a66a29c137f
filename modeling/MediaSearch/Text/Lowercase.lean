/-
MediaSearch/Text/Lowercase.lean

Full Unicode lower-casing.

Every character is replaced on its own, with two exceptions: U+0130 becomes
two characters, and a capital sigma becomes `ς` where it ends a word and
`σ` elsewhere.  It ends a word when, case-ignorable characters skipped, a
cased character stands before it and none after it.
-/
import MediaSearch.Text.CaseTable

namespace MediaSearch.Text

/-- Whether a character is a letter with case, or goes with such letters. -/
def isCased (c : Char) : Bool :=
  inRanges casedRanges c.toNat

/-- Whether a character is passed over when the end of a word is looked for. -/
def isCaseIgnorable (c : Char) : Bool :=
  inRanges caseIgnorableRanges c.toNat

/-- Whether the first character that is not case-ignorable is cased. -/
def meetsCased (cs : List Char) : Bool :=
  match cs.dropWhile isCaseIgnorable with
  | [] => false
  | c :: _ => isCased c

/-- The lower-case form of a character taken by itself. -/
def lowerChar (c : Char) : List Char :=
  if c.toNat = 0x130 then ['i', Char.ofNat 0x307]
  else match caseRuns.findSome? (·.lower? c.toNat) with
    | some image => [Char.ofNat image]
    | none => [c]

/-- The lower-case form of `c` between the characters `before`, nearest
first, and `after`. -/
def lowerBetween (before : List Char) (c : Char) (after : List Char) : List Char :=
  if c = 'Σ' then [if meetsCased before && !meetsCased after then 'ς' else 'σ']
  else lowerChar c

/-- The lower-case form of a text that follows the characters `before`,
nearest first. -/
def lowerAfter : (before text : List Char) → List Char
  | _, [] => []
  | before, c :: after => lowerBetween before c after ++ lowerAfter (c :: before) after

/-- The lower-case form of a text. -/
def lower (s : String) : String :=
  String.ofList (lowerAfter [] s.toList)

end MediaSearch.Text
