/-
MediaSearch/Json/Codec.lean

Codecs of scalars, options, lists and named choices.

A codec decodes a value and encodes it again.  What it decodes may come from
three places (`Origin`), which agree on every value that decodes and differ
in how some others are refused: text is decoded while it is read, so that
much that is out of place there breaks the reading off, whereas a value that
had been read before is refused as data.
-/
import MediaSearch.Json.Fault
import MediaSearch.Json.Reader

namespace MediaSearch.Json

/-- Where a value comes from. -/
inductive Origin where
  /-- From text, with so many arrays and objects open around it. -/
  | text (depth : Nat)
  /-- From a value read before. -/
  | value
  /-- From the contents of a tagged object, stored until the tag is known. -/
  | stored
  deriving DecidableEq

/-- Opens an array or an object. -/
def Origin.enter : Origin → Except Fault Origin
  | .text depth => if depth < maxDepth then .ok (.text (depth + 1)) else .error .malformed
  | other => .ok other

/-- Whether a value can be stored. -/
def Origin.keeps : Origin → Json → Bool
  | .text depth, j => j.keepable depth
  | _, _ => true

/-- A way to read values of a type from JSON and to write them. -/
structure Codec (α : Type) where
  decode : Origin → Json → Except Fault α
  encode : α → Json

namespace Codec

variable {α : Type}

/-- Texts as strings. -/
def string : Codec String where
  decode
    | _, .string (some s) => .ok s
    | _, j => .error (mistyped j "a string")
  encode := .text

/-- Truth values. -/
def bool : Codec Bool where
  decode
    | _, .bool b => .ok b
    | _, j => .error (mistyped j "a boolean")
  encode := .bool

/-- A whole number of 64 bits without sign, called `expected` in faults. -/
def unsigned (expected : String) : Codec UInt64 where
  decode
    | _, .number (some (.int n)) =>
      if 0 ≤ n ∧ n < UInt64.size then .ok (UInt64.ofNat n.toNat)
      else .error (.data (.invalidValue (.number (.int n)) expected))
    | _, j => .error (mistyped j expected)
  encode n := .int n.toNat

/-- Whole numbers from 0 to `2 ^ 64 - 1`. -/
def u64 : Codec UInt64 := unsigned "u64"

/-- A whole number of 64 bits with sign. -/
def i64 : Codec Int64 where
  decode
    | _, .number (some (.int n)) =>
      if Int64.minValue.toInt ≤ n ∧ n ≤ Int64.maxValue.toInt then .ok (Int64.ofInt n)
      else .error (.data (.invalidValue (.number (.int n)) "i64"))
    | _, j => .error (mistyped j "i64")
  encode n := .int n.toInt

/-- A double; whole numbers are rounded to the nearest one. -/
def f64 : Codec Binary64 where
  decode
    | _, .number (some (.int n)) => .ok (Binary.ofInt .double n)
    | _, .number (some (.float x)) => .ok x
    | _, j => .error (mistyped j "f64")
  encode := .float

/-- A single.  Whole numbers are rounded once; any other number has been
rounded to a double before.  Infinity, which no literal spells, is written
as `null`. -/
def f32 : Codec Binary32 where
  decode
    | _, .number (some (.int n)) => .ok (Binary.ofInt .single n)
    | _, .number (some (.float x)) => .ok (x.convert .single)
    | _, j => .error (mistyped j "f32")
  encode x := if x.isInfinite then .null else .float (x.convert .double)

/-- An optional value; `null` is its absence. -/
def option (c : Codec α) : Codec (Option α) where
  decode
    | _, .null => .ok none
    | origin, j => (c.decode origin j).map some
  encode
    | none => .null
    | some a => c.encode a

/-- Lists as arrays. -/
def list (c : Codec α) : Codec (List α) where
  decode
    | origin, .array items => do
      let inside ← origin.enter
      items.mapM (c.decode inside)
    | _, j => .error (mistyped j "a sequence")
  encode as := .array (as.map c.encode)

end Codec

/-! ### Choices among names -/

/-- What a name stands for. -/
def variant {α : Type} (variants : List (String × α)) (name : String) : Except Fault α :=
  match variants.lookup name with
  | some a => .ok a
  | none => .error (.data (.unknownVariant name (variants.map (·.1))))

/-- The value of a choice that carries none: `null`, and in stored contents
also an empty object. -/
def decodeNothing : Origin → Json → Except Fault Unit
  | _, .null => .ok ()
  | .stored, .object [] => .ok ()
  | _, j => .error (mistyped j "unit")

/-- The choice a key names. -/
def keyVariant {α : Type} (variants : List (String × α)) : Key → Except Fault α
  | .name s => variant variants s
  | .unkept => .error .malformed

/-- A choice among names: the name itself, or an object whose only member
has that name and no value. -/
def Codec.choice {α : Type} (variants : List (String × α)) (name : α → String) : Codec α where
  decode
    | _, .string (some s) => variant variants s
    | .text _, .object [] => .error .malformed
    | .text depth, .object ((key, value) :: others) => do
      let inside ← (Origin.text depth).enter
      let a ← keyVariant variants key
      decodeNothing inside value
      if others.isEmpty then return a else .error .malformed
    | .text _, _ => .error .malformed
    | origin, .object [(key, value)] => do
      let a ← keyVariant variants key
      decodeNothing origin value
      return a
    | _, .object _ => .error (.data (.invalidValue .map "map with a single key"))
    | _, j => .error (mistyped j "string or map")
  encode a := .text (name a)

/-! ### Texts -/

/-- Decodes a whole text.  What follows the value is looked at last. -/
def Codec.decodeText {α : Type} (c : Codec α) (s : String) : Except Fault α := do
  let document := Document.read s
  let a ← c.decode (.text 0) document.root
  if document.trailing then .error .malformed else return a

end MediaSearch.Json
