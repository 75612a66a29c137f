/-
MediaSearch/Json/Fault.lean

Why a value could not be decoded.

A fault is either in the text (`malformed`), where nothing more is said, or
in the data.  `Issue` lists the ways data can be wrong; `Issue.message`
is the only place that words them.
-/
import MediaSearch.Json.Basic
import MediaSearch.Number.Shortest
import MediaSearch.Text.Quoted

namespace MediaSearch.Json

/-- Numbers are written out from `0.00001` up to 16 digits before the point. -/
def floatStyle : FloatStyle := ⟨-5, 15⟩

/-- What a decoder met in the place of what it wanted. -/
inductive Found where
  | null
  | boolean (b : Bool)
  | number (n : Number)
  | string (s : String)
  | sequence
  | map
  deriving DecidableEq

/-- What a list of values of fixed meaning should have had. -/
inductive Wanted where
  | fewer
  | exactly (n : Nat)
  deriving DecidableEq

/-- A way in which data differs from what was expected. -/
inductive Issue where
  | invalidType (found : Found) (expected : String)
  | invalidValue (found : Found) (expected : String)
  | invalidLength (length : Nat) (wanted : Wanted)
  | unknownVariant (name : String) (expected : List String)
  | missingField (name : String)
  | duplicateField (name : String)
  deriving DecidableEq

/-- Why a text cannot be decoded: it is no JSON, or it is not what is wanted. -/
inductive Fault where
  | malformed
  | data (issue : Issue)
  deriving DecidableEq

/-- Between backticks, as messages show names and numbers. -/
def ticked (s : String) : String :=
  "`" ++ s ++ "`"

/-- The wording of what stands in the text. -/
def Found.describe : Found → String
  | .null => "null"
  | .boolean true => "boolean " ++ ticked "true"
  | .boolean false => "boolean " ++ ticked "false"
  | .number (.int n) => "integer " ++ ticked (toString n)
  | .number (.float x) => "floating point " ++ ticked (floatStyle.write x)
  | .string s => "string " ++ Text.quoted s
  | .sequence => "sequence"
  | .map => "map"

/-- The wording of how many elements there should be. -/
def Wanted.describe : Wanted → String
  | .fewer => "fewer elements in array"
  | .exactly 1 => "1 element in sequence"
  | .exactly n => toString n ++ " elements in sequence"

/-- One or two names as alternatives, more as a list. -/
def describeVariants : List String → String
  | [a] => ticked a
  | [a, b] => ticked a ++ " or " ++ ticked b
  | names => "one of " ++ ", ".intercalate (names.map ticked)

/-- The wording of an issue. -/
def Issue.message : Issue → String
  | .invalidType found expected =>
    "invalid type: " ++ found.describe ++ ", expected " ++ expected
  | .invalidValue found expected =>
    "invalid value: " ++ found.describe ++ ", expected " ++ expected
  | .invalidLength length wanted =>
    "invalid length " ++ toString length ++ ", expected " ++ wanted.describe
  | .unknownVariant name expected =>
    "unknown variant " ++ ticked name ++ ", expected " ++ describeVariants expected
  | .missingField name => "missing field " ++ ticked name
  | .duplicateField name => "duplicate field " ++ ticked name

/-- The fault of finding this value where something else was expected.  Of
arrays and objects only the start has been looked at; a scalar has been
read. -/
def mistyped (j : Json) (expected : String) : Fault :=
  match j with
  | .null => .data (.invalidType .null expected)
  | .bool b => .data (.invalidType (.boolean b) expected)
  | .number (some n) => .data (.invalidType (.number n) expected)
  | .string (some s) => .data (.invalidType (.string s) expected)
  | .array _ => .data (.invalidType .sequence expected)
  | .object _ => .data (.invalidType .map expected)
  | .number none | .string none | .broken => .malformed

end MediaSearch.Json
