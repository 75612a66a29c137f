/-
MediaSearch/Proofs/Json/Spelling.lean

What a value may be written as in JSON.

A `Spelling` of a type says which JSON values stand for a value.  Scalars have
one spelling, up to the two ways to write a whole number.  A record is an
object or an array: as an object its members stand in any order among others
that name no field, as an array its fields stand in their order, and either
way what is left out has its default.  A tagged choice has its tag among the
members, or in front of the items.  Numbers are the doubles that a text was
read into; how near its digits come to them is a matter of reading.

Spellings depend on where a value comes from, since text bounds how many
arrays and objects are open, and since what surrounds the fields of a tagged
choice is stored.
-/
import MediaSearch.Json.Record
import Mathlib.Data.List.Forall2

namespace MediaSearch.Json

/-- Whether `levels` more arrays and objects can be opened. -/
def Origin.hasRoom (levels : Nat) : Origin → Prop
  | .text depth => depth + levels ≤ maxDepth
  | _ => True

/-- Whether a number has the value of `x`. -/
def Number.Equals {f : Format} (x : Binary f) : Number → Prop
  | .int n => x.negative = decide (n < 0) ∧ f.units x.code = n.natAbs <<< f.scale
  | .float y => y.isInfinite = false ∧ y.negative = x.negative ∧
      Format.double.units y.code <<< f.scale = f.units x.code <<< Format.double.scale

/-- How the values of a type are spelled. -/
structure Spelling (α : Type) where
  /-- Whether a JSON value stands for a value. -/
  spells : Origin → α → Json → Prop
  /-- Whether a value can be written: whether the floats in it are finite. -/
  finite : α → Prop
  /-- How many arrays and objects its fullest spelling has inside one another. -/
  levels : Nat

/-- How a field of records of type `ρ` is spelled. -/
structure FieldSpelling (ρ : Type) where
  name : String
  /-- Whether a JSON value stands for the field of a record. -/
  spells : Origin → ρ → Json → Prop
  /-- Whether the field of a record has its default. -/
  isDefault : ρ → Prop
  /-- Whether two records have the same value in the field. -/
  agrees : ρ → ρ → Prop
  finite : ρ → Prop
  levels : Nat

/-- The field that `get` reads. -/
def FieldSpelling.of {ρ α : Type} (name : String) (spelling : Spelling α) (get : ρ → α)
    (default : α) : FieldSpelling ρ where
  name := name
  spells origin r j := spelling.spells origin (get r) j
  isDefault r := get r = default
  agrees r r' := get r = get r'
  finite r := spelling.finite (get r)
  levels := spelling.levels

/-! ### Members and items -/

/-- What a member may be among those of a record: it spells the field of its
name, or names no field and can be passed over. -/
def SpelledMember {ρ : Type} (inside : Origin) (fields : List (FieldSpelling ρ)) (r : ρ)
    (member : Key × Json) : Prop :=
  ∃ name, member.1 = .name name ∧
    ((∃ field ∈ fields, field.name = name ∧ field.spells inside r member.2) ∨
      ((∀ field ∈ fields, field.name ≠ name) ∧ member.2.wellFormed = true))

/-- The members of an object that stand for a record, in any order. -/
structure SpelledMembers {ρ : Type} (inside : Origin) (fields : List (FieldSpelling ρ)) (r : ρ)
    (members : List (Key × Json)) : Prop where
  distinct : (members.map (·.1)).Nodup
  each : ∀ member ∈ members, SpelledMember inside fields r member
  omitted : ∀ field ∈ fields, .name field.name ∉ members.map (·.1) → field.isDefault r

/-- The items of an array that stand for a record: those of its first fields. -/
def SpelledItems {ρ : Type} (inside : Origin) (fields : List (FieldSpelling ρ)) (r : ρ)
    (items : List Json) : Prop :=
  ∃ given omitted, fields = given ++ omitted ∧
    List.Forall₂ (fun field item => field.spells inside r item) given items ∧
    ∀ field ∈ omitted, field.isDefault r

/-- The members of an object that stand for a tagged choice: the tag stands
anywhere, and the others can be stored. -/
def TaggedMembers (inside : Origin) (tag name : String) (body : Json → Prop)
    (members : List (Key × Json)) : Prop :=
  ∃ before after, members = before ++ (.name tag, .text name) :: after ∧
    (∀ member ∈ before ++ after,
      ∃ key, member.1 = .name key ∧ key ≠ tag ∧ inside.keeps member.2 = true) ∧
    body (.object (before ++ after))

/-- The items of an array that stand for a tagged choice. -/
def TaggedItems (inside : Origin) (name : String) (body : Json → Prop) (items : List Json) :
    Prop :=
  ∃ others, items = .text name :: others ∧ (∀ item ∈ others, inside.keeps item = true) ∧
    body (.array others)

/-! ### Spellings -/

namespace Spelling

variable {α ρ : Type}

/-- What is spelled in one way only. -/
def unique (write : α → Json) : Spelling α where
  spells _ a j := j = write a
  finite _ := True
  levels := 0

/-- A text is spelled in one way. -/
def string : Spelling String :=
  unique .text

/-- A truth value is spelled in one way. -/
def bool : Spelling Bool :=
  unique .bool

/-- A natural number is spelled as a whole number and not as a float. -/
def u64 : Spelling UInt64 :=
  unique fun n => .int n.toNat

/-- A whole number is spelled as one and not as a float. -/
def i64 : Spelling Int64 :=
  unique fun n => .int n.toInt

/-- A finite value is spelled by a number that equals it. -/
def number (f : Format) : Spelling (Binary f) where
  spells _ x j := x.isInfinite = false ∧ ∃ n, j = .number (some n) ∧ n.Equals x
  finite x := x.isInfinite = false
  levels := 0

/-- A value that is absent is spelled `null`, one that is there as itself. -/
def option (s : Spelling α) : Spelling (Option α) where
  spells origin
    | none, j => j = .null
    | some a, j => s.spells origin a j
  finite a := ∀ b ∈ a, s.finite b
  levels := s.levels

/-- A list is spelled by an array, each element by an item of it. -/
def list (s : Spelling α) : Spelling (List α) where
  spells origin as j :=
    ∃ inside items, origin.enter = .ok inside ∧ j = .array items ∧
      List.Forall₂ (s.spells inside) as items
  finite as := ∀ a ∈ as, s.finite a
  levels := s.levels + 1

/-- A choice among names: the name, or an object that holds nothing else. -/
def choice (name : α → String) : Spelling α where
  spells origin a j :=
    j = .text (name a) ∨
      ∃ inside, origin.enter = .ok inside ∧ j = .object [(.name (name a), .null)]
  finite _ := True
  levels := 0

/-- A record of the given fields. -/
def record (fields : List (FieldSpelling ρ)) : Spelling ρ where
  spells origin r j :=
    ∃ inside, origin.enter = .ok inside ∧
      ((∃ members, j = .object members ∧ SpelledMembers inside fields r members) ∨
        ∃ items, j = .array items ∧ SpelledItems inside fields r items)
  finite r := ∀ field ∈ fields, field.finite r
  levels := (fields.map (·.levels)).foldr max 0 + 1

/-- A choice whose tag has the name `name`; what is spelled besides the tag
is its body, which is stored. -/
def tagged (tag : String) (name : α → String) (body : Spelling α) : Spelling α where
  spells origin a j :=
    ∃ inside, origin.enter = .ok inside ∧
      ((∃ members, j = .object members ∧
          TaggedMembers inside tag (name a) (body.spells .stored a) members) ∨
        ∃ items, j = .array items ∧
          TaggedItems inside (name a) (body.spells .stored a) items)
  finite := body.finite
  levels := body.levels

end Spelling

end MediaSearch.Json
