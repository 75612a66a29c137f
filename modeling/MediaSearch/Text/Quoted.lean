/-
MediaSearch/Text/Quoted.lean

Quoted text, as messages show it: between double quotes, with quotes and
backslashes escaped, and with every character that would not be seen
written as its code point.
-/
import MediaSearch.Text.CaseTable
import MediaSearch.Text.HiddenTable

namespace MediaSearch.Text

/-- A character between quotes. -/
def quotedChar (c : Char) : List Char :=
  match c with
  | '\x00' => ['\\', '0']
  | '\t' => ['\\', 't']
  | '\r' => ['\\', 'r']
  | '\n' => ['\\', 'n']
  | '\\' => ['\\', '\\']
  | '"' => ['\\', '"']
  | c =>
    if 0x20 ≤ c.toNat ∧ c.toNat < 0x7f then [c]
    else if inRanges hiddenRanges c.toNat then
      '\\' :: 'u' :: '\x7b' :: Nat.toDigits 16 c.toNat ++ ['\x7d']
    else [c]

/-- A text between quotes. -/
def quoted (s : String) : String :=
  String.ofList ('"' :: s.toList.flatMap quotedChar ++ ['"'])

end MediaSearch.Text
