/-
MediaSearch/Sql/Fragment.lean

Pieces of SQL text with the values bound to their placeholders.

A fragment keeps its parameters in the order in which their `?` stand in the
text, and fragments are only put together as a whole, text after text and
parameters after parameters.  Fragments form a monoid (`append_assoc`,
`empty_append`, `append_empty`); all other ways to put fragments together
are made from its operation.

A `?` inside a quoted literal or a quoted identifier is no placeholder;
`placeholderCount` scans the text for the others.
-/
import MediaSearch.Number.Binary
import MediaSearch.Sql.Pattern
import MediaSearch.Text.Blank

namespace MediaSearch.Sql

/-- A value bound to a placeholder, or held by a cell. -/
inductive Value where
  | null
  | boolean (b : Bool)
  | integer (n : Int64)
  | real (x : Binary64)
  | text (s : String)
  | blob (bytes : List UInt8)
  deriving DecidableEq

/-- A text with the values that are bound to its placeholders, from left to right. -/
structure Fragment where
  text : String
  params : List Value
  deriving DecidableEq

/-- `?, ?, ?` with `n` placeholders. -/
def placeholders (n : Nat) : String :=
  ", ".intercalate (List.replicate n "?")

namespace Fragment

/-- No text and no values. -/
def empty : Fragment := ⟨"", []⟩

/-- Text without placeholders. -/
def raw (text : String) : Fragment := ⟨text, []⟩

/-- One fragment after the other. -/
def append (a b : Fragment) : Fragment :=
  ⟨a.text ++ b.text, a.params ++ b.params⟩

instance : Append Fragment := ⟨append⟩

theorem append_def (a b : Fragment) : a ++ b = ⟨a.text ++ b.text, a.params ++ b.params⟩ := rfl

theorem append_assoc (a b c : Fragment) : a ++ b ++ c = a ++ (b ++ c) := by
  simp [append_def, String.append_assoc]

theorem empty_append (a : Fragment) : empty ++ a = a := by
  simp [append_def, empty]

theorem append_empty (a : Fragment) : a ++ empty = a := by
  simp [append_def, empty]

/-- Text without placeholders after a fragment. -/
def pushText (a : Fragment) (text : String) : Fragment :=
  a ++ raw text

/-- A fragment between two texts. -/
def wrap (a : Fragment) (before after : String) : Fragment :=
  raw before ++ a ++ raw after

/-- Fragments with a text between any two. -/
def join (separator : String) : List Fragment → Fragment
  | [] => empty
  | [a] => a
  | a :: b :: rest => a ++ raw separator ++ join separator (b :: rest)

/-- `expr IN (?, ?)`, with as many placeholders as values. -/
def inList (expr : String) (values : List Value) : Fragment :=
  ⟨expr ++ " IN (" ++ placeholders values.length ++ ")", values⟩

/-- `(expr LIKE ? ESCAPE '\' OR expr LIKE ? ESCAPE '\')`: the expression
starts with one of the texts. -/
def likeAnyPrefix (expr : String) (starts : List String) : Fragment :=
  (join " OR " (starts.map fun start =>
    ⟨expr ++ " LIKE ? ESCAPE '\\'", [.text (startPattern start)]⟩)).wrap "(" ")"

/-- Whether the text is blank. -/
def isBlank (a : Fragment) : Bool :=
  Text.isBlankText a.text

/-- The quote that is open after a character. -/
def nextQuote (quote : Option Char) (c : Char) : Option Char :=
  match quote with
  | none => if c = '\'' ∨ c = '"' then some c else none
  | some q => if c = q then none else some q

/-- The number of `?` outside quotes, a quote being open at the start or
not. -/
def countFrom (quote : Option Char) : List Char → Nat
  | [] => 0
  | c :: cs => (if quote = none ∧ c = '?' then 1 else 0) + countFrom (nextQuote quote c) cs

/-- The number of placeholders in the text. -/
def placeholderCount (a : Fragment) : Nat :=
  countFrom none a.text.toList

end Fragment

/-- A text and parameters that do not belong together. -/
structure ArityMismatch where
  placeholders : Nat
  params : Nat
  deriving DecidableEq

/-- The wording of a mismatch. -/
def ArityMismatch.message (m : ArityMismatch) : String :=
  "statement has " ++ toString m.placeholders ++ " placeholders but " ++ toString m.params
    ++ " bound parameters"

/-- Refuses a fragment whose text and parameters disagree. -/
def Fragment.checkArity (a : Fragment) : Except ArityMismatch Unit :=
  if a.placeholderCount = a.params.length then .ok ()
  else .error ⟨a.placeholderCount, a.params.length⟩

/-- A vector of singles as bytes, four to an element, the lowest first. -/
def vectorBytes (vector : List Binary32) : List UInt8 :=
  vector.flatMap fun x =>
    [0, 8, 16, 24].map fun shift => UInt8.ofNat (x.bits >>> shift)

end MediaSearch.Sql
