/-
MediaSearch/Json/Printer.lean

Printing JSON, one member or item a line, two spaces a level.  Strings are
escaped no further than JSON demands; doubles are written by
`floatStyle` with the fewest digits that read back.
-/
import MediaSearch.Json.Fault

namespace MediaSearch.Json

/-- A character of a string. -/
def printChar (c : Char) : List Char :=
  match c with
  | '"' => ['\\', '"']
  | '\\' => ['\\', '\\']
  | '\x08' => ['\\', 'b']
  | '\x0c' => ['\\', 'f']
  | '\n' => ['\\', 'n']
  | '\r' => ['\\', 'r']
  | '\t' => ['\\', 't']
  | c =>
    if c.toNat < 0x20 then
      ['\\', 'u', '0', '0', Nat.digitChar (c.toNat / 16), Nat.digitChar (c.toNat % 16)]
    else [c]

/-- A text as a string literal. -/
def printString (s : String) : String :=
  String.ofList ('"' :: s.toList.flatMap printChar ++ ['"'])

/-- A number as a literal. -/
def printNumber : Number → String
  | .int n => toString n
  | .float x => floatStyle.write x

/-- The start of a line at a level. -/
def indent (level : Nat) : String :=
  String.ofList ('\n' :: List.replicate (2 * level) ' ')

/-- Lines between brackets; none if there are no lines. -/
def block (level : Nat) (opening closing : String) : List String → String
  | [] => opening ++ closing
  | lines =>
    opening ++ indent (level + 1) ++ ("," ++ indent (level + 1)).intercalate lines
      ++ indent level ++ closing

mutual

/-- The text of a value whose first line is at a level. -/
def pretty (level : Nat) : Json → String
  | .null => "null"
  | .bool true => "true"
  | .bool false => "false"
  | .number (some n) => printNumber n
  | .string (some s) => printString s
  | .array items => block level "[" "]" (prettyItems (level + 1) items)
  | .object members => block level "\x7b" "\x7d" (prettyMembers (level + 1) members)
  | .number none | .string none | .broken => ""

/-- The items of an array, each as text. -/
def prettyItems (level : Nat) : List Json → List String
  | [] => []
  | item :: items => item.pretty level :: prettyItems level items

/-- The members of an object, each as text; what has no key is left out. -/
def prettyMembers (level : Nat) : List (Key × Json) → List String
  | [] => []
  | (.name name, value) :: members =>
    (printString name ++ ": " ++ value.pretty level) :: prettyMembers level members
  | _ :: members => prettyMembers level members

end

end MediaSearch.Json
