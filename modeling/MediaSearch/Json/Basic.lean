/-
MediaSearch/Json/Basic.lean

A JSON document as far as it can be read from left to right.

Requests are decoded while their text is read, so a value of the wrong type
is reported even when the text breaks off after it, and a break is reported
when nothing before it is wrong.  A `Json` therefore records where reading
stopped: `broken` stands in the place of the first value that could not be
read, and nothing follows it.  Two kinds of value can be read but not kept: a
number beyond the range of a double and a string with an unpaired
surrogate.  They are harmless where a value is passed over.

`wellFormed` is what a value that is passed over has to satisfy, `keepable`
what one that is stored before it is decoded has to.
-/
import MediaSearch.Number.Binary

namespace MediaSearch

/-- A number: whole within `-2 ^ 63 … 2 ^ 64 - 1`, or a double. -/
inductive Json.Number where
  | int (n : Int)
  | float (x : Binary64)
  deriving DecidableEq

/-- What stands in the place of a key. -/
inductive Json.Key where
  | name (s : String)
  /-- A string that cannot be kept, or no string at all. -/
  | unkept
  deriving DecidableEq

/-- A document, or what could be read of it. -/
inductive Json where
  | null
  | bool (b : Bool)
  /-- A number; without its value if no double comes near it. -/
  | number (n : Option Json.Number)
  /-- A string; without its text if a surrogate in it is unpaired. -/
  | string (s : Option String)
  | array (items : List Json)
  | object (members : List (Json.Key × Json))
  /-- Nothing that can be read. -/
  | broken

namespace Json

instance : Inhabited Json := ⟨.null⟩

/-- A whole number. -/
abbrev int (n : Int) : Json := .number (some (.int n))

/-- A double. -/
abbrev float (x : Binary64) : Json := .number (some (.float x))

/-- A string that can be kept. -/
abbrev text (s : String) : Json := .string (some s)

/-- An object from names and values. -/
def ofFields (fields : List (String × Json)) : Json :=
  .object (fields.map fun (name, value) => (.name name, value))

mutual

/-- Whether the whole value could be read. -/
def wellFormed : Json → Bool
  | .broken => false
  | .array items => wellFormedItems items
  | .object members => wellFormedMembers members
  | _ => true

/-- Whether all items could be read. -/
def wellFormedItems : List Json → Bool
  | [] => true
  | item :: items => item.wellFormed && wellFormedItems items

/-- Whether the values of all members could be read, whatever their keys are. -/
def wellFormedMembers : List (Key × Json) → Bool
  | [] => true
  | (_, value) :: members => value.wellFormed && wellFormedMembers members

end

/-- How many arrays and objects may be open at once. -/
def maxDepth : Nat := 127

mutual

/-- Whether the whole value can be stored when `depth` arrays and objects
are open around it. -/
def keepable (depth : Nat) : Json → Bool
  | .broken | .number none | .string none => false
  | .array items => depth < maxDepth && keepableItems (depth + 1) items
  | .object members => depth < maxDepth && keepableMembers (depth + 1) members
  | _ => true

/-- Whether all items can be stored. -/
def keepableItems (depth : Nat) : List Json → Bool
  | [] => true
  | item :: items => item.keepable depth && keepableItems depth items

/-- Whether all members can be stored, their keys with them. -/
def keepableMembers (depth : Nat) : List (Key × Json) → Bool
  | [] => true
  | (.name _, value) :: members => value.keepable depth && keepableMembers depth members
  | _ :: _ => false

end

/-- Puts a member in its place in a list sorted by key; a member with the
same key is replaced. -/
def insertMember (key : String) (value : Json) : List (Key × Json) → List (Key × Json)
  | (.name other, old) :: members =>
    if key < other then (.name key, value) :: (.name other, old) :: members
    else if key = other then (.name key, value) :: members
    else (.name other, old) :: insertMember key value members
  | members => (.name key, value) :: members

mutual

/-- The value as a store that sorts keys has it: keys in ascending order, and
of equal keys the last. -/
def settled : Json → Json
  | .array items => .array (settledItems items)
  | .object members => .object (settledMembers [] members)
  | other => other

/-- The items as a store has them; their order stays. -/
def settledItems : List Json → List Json
  | [] => []
  | item :: items => item.settled :: settledItems items

/-- The members as a store has them, after those that it has already. -/
def settledMembers (done : List (Key × Json)) : List (Key × Json) → List (Key × Json)
  | [] => done
  | (.name key, value) :: members => settledMembers (insertMember key value.settled done) members
  | _ :: members => settledMembers done members

end

/-- The value of the member with the given name. -/
def get? (name : String) : Json → Option Json
  | .object members => (members.find? fun member => member.1 = .name name).map (·.2)
  | _ => none

end Json

end MediaSearch
