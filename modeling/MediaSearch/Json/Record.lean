/-
MediaSearch/Json/Record.lean

Codecs of records, and of tagged choices among records.

A record is described by the list of its fields, each with a name and a
codec, over a value that has every field's default.  The same list serves
both spellings of a record, the object and the array of its fields in order,
and its encoding.

A tagged choice is an object with a member that says which record the other
members make up, or an array that starts with it.  Its other contents are
stored until the tag is known and decoded after the whole value has been
read.
-/
import MediaSearch.Json.Codec

namespace MediaSearch.Json

/-- A field of records of type `ρ`. -/
structure Field (ρ : Type) where
  name : String
  /-- Decodes a value into the field of a record. -/
  put : Origin → Json → ρ → Except Fault ρ
  /-- Encodes the field of a record. -/
  view : ρ → Json

/-- The field that `get` reads and `set` writes. -/
def Field.of {ρ α : Type} (name : String) (codec : Codec α) (get : ρ → α) (set : ρ → α → ρ) :
    Field ρ where
  name := name
  put origin j r := (codec.decode origin j).map (set r)
  view r := codec.encode (get r)

/-- A record type: its title in faults, its fields, and its defaults. -/
structure Record (ρ : Type) where
  title : String
  fields : List (Field ρ)
  initial : ρ

/-- The fault of an array of `length` items for `fields` fields. -/
def Origin.tooLong (length fields : Nat) : Origin → Fault
  | .text _ => .malformed
  | .value => .data (.invalidLength length .fewer)
  | .stored => .data (.invalidLength length (.exactly fields))

namespace Record

variable {ρ : Type}

/-- Fills fields from items in order; `tooLong` is the fault of items left
over. -/
def fillItems (origin : Origin) (tooLong : Fault) :
    List (Field ρ) → List Json → ρ → Except Fault ρ
  | _, [], r => .ok r
  | [], _ :: _, _ => .error tooLong
  | field :: fields, item :: items, r => do
    fillItems origin tooLong fields items (← field.put origin item r)

/-- Fills fields from members by name; a name may fill its field once, and
members that name no field are passed over. -/
def fillMembers (origin : Origin) (fields : List (Field ρ)) :
    (seen : List String) → List (Key × Json) → ρ → Except Fault ρ
  | _, [], r => .ok r
  | seen, (.name name, value) :: members, r =>
    match fields.find? (·.name == name) with
    | some field =>
      if name ∈ seen then .error (.data (.duplicateField name))
      else do fillMembers origin fields (name :: seen) members (← field.put origin value r)
    | none =>
      if value.wellFormed then fillMembers origin fields seen members r else .error .malformed
  | _, _ :: _, _ => .error .malformed

/-- Reads a record from an array of its fields in order, or from an object. -/
def decode (record : Record ρ) : Origin → Json → Except Fault ρ
  | origin, .array items => do
    let inside ← origin.enter
    fillItems inside (origin.tooLong items.length record.fields.length) record.fields items
      record.initial
  | origin, .object members => do
    let inside ← origin.enter
    fillMembers inside record.fields [] members record.initial
  | _, j => .error (mistyped j ("struct " ++ record.title))

/-- The names of the fields with their values. -/
def members (record : Record ρ) (r : ρ) : List (String × Json) :=
  record.fields.map fun field => (field.name, field.view r)

/-- Records are read from arrays and objects, and written as objects of all
their fields. -/
def codec (record : Record ρ) : Codec ρ where
  decode := record.decode
  encode r := ofFields (record.members r)

end Record

/-! ### Tagged choices -/

/-- A choice of `α` by a tag of type `κ`. -/
structure Tagged (κ α : Type) where
  /-- The name of the member that holds the tag. -/
  tag : String
  /-- What is expected, in faults. -/
  title : String
  tags : List (String × κ)
  /-- Decodes the other contents once the tag is known. -/
  body : κ → Json → Except Fault α
  /-- The name of the tag and the other members. -/
  parts : α → String × List (String × Json)

namespace Tagged

variable {κ α : Type}

/-- The tag a value names. -/
def decodeTag (choice : Tagged κ α) : Json → Except Fault κ
  | .string (some s) => variant choice.tags s
  | j => .error (mistyped j "variant identifier")

/-- Splits members into the tag and the others. -/
def splitMembers (choice : Tagged κ α) (origin : Origin) :
    (found : Option κ) → List (Key × Json) → Except Fault (Option κ × List (Key × Json))
  | found, [] => .ok (found, [])
  | found, (.name name, value) :: members =>
    if name = choice.tag then
      if found.isSome then .error (.data (.duplicateField name))
      else do splitMembers choice origin (some (← choice.decodeTag value)) members
    else if origin.keeps value then do
      let (tag, others) ← splitMembers choice origin found members
      return (tag, (.name name, value) :: others)
    else .error .malformed
  | _, _ :: _ => .error .malformed

/-- Reads a tagged value from an object that has the tag among its members, or
from an array that has it first. -/
def decode (choice : Tagged κ α) : Origin → Json → Except Fault α
  | origin, .object members => do
    let inside ← origin.enter
    match ← choice.splitMembers inside none members with
    | (some tag, others) => choice.body tag (.object others)
    | (none, _) => .error (.data (.missingField choice.tag))
  | origin, .array items => do
    let inside ← origin.enter
    match items with
    | [] => .error (.data (.missingField choice.tag))
    | first :: others =>
      let tag ← choice.decodeTag first
      if others.all inside.keeps then choice.body tag (.array others) else .error .malformed
  | _, j => .error (mistyped j choice.title)

/-- Tagged values are written as objects with the tag first. -/
def codec (choice : Tagged κ α) : Codec α where
  decode := choice.decode
  encode a :=
    let (tag, members) := choice.parts a
    ofFields ((choice.tag, .text tag) :: members)

end Tagged

end MediaSearch.Json
