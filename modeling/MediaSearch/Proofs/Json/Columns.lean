/-
MediaSearch/Proofs/Json/Columns.lean

Records as tuples of columns.

A record is a tuple of the values of its fields, and a field reads and writes
one place of the tuple (`Part`).  Writing one place leaves the others as they
are, and all places together are the record.  So if the fields of a record are
such columns, each with a codec that undoes what spells its values, the record
is lawful: this is proved along the list of its fields (`Columns`), once for
all records.

Main result: `Columns.lawful`.
-/
import MediaSearch.Proofs.Json.Records
import Mathlib.Logic.Equiv.Defs

namespace MediaSearch.Json

/-! ### Parts of a record -/

/-- A part of records of type `ρ`, with values of type `τ`. -/
structure Part (ρ τ : Type) where
  get : ρ → τ
  set : ρ → τ → ρ
  get_set : ∀ r t, get (set r t) = t

namespace Part

variable {ρ α τ : Type}

/-- All of a record, which is a tuple. -/
def whole (e : ρ ≃ τ) : Part ρ τ where
  get := e
  set _ t := e.symm t
  get_set _ t := e.apply_symm_apply t

/-- The first place of a part. -/
def first (p : Part ρ (α × τ)) : Part ρ α where
  get r := (p.get r).1
  set r a := p.set r (a, (p.get r).2)
  get_set r a := by rw [p.get_set]

/-- The other places of a part. -/
def others (p : Part ρ (α × τ)) : Part ρ τ where
  get r := (p.get r).2
  set r t := p.set r ((p.get r).1, t)
  get_set r t := by rw [p.get_set]

variable (p : Part ρ (α × τ)) (r : ρ)

/-- Writing the first place leaves the others as they are. -/
theorem others_get_first_set (a : α) : p.others.get (p.first.set r a) = p.others.get r := by
  show (p.get (p.set r (a, (p.get r).2))).2 = (p.get r).2
  rw [p.get_set]

/-- Writing the other places leaves the first as it is. -/
theorem first_get_others_set (t : τ) : p.first.get (p.others.set r t) = p.first.get r := by
  show (p.get (p.set r ((p.get r).1, t))).1 = (p.get r).1
  rw [p.get_set]

end Part

/-! ### Columns -/

/-- That fields read and write the places of a part in their order, each with a
codec that undoes what spells its values, and with the default that it has in
`initial`. -/
inductive Columns {ρ : Type} (initial : ρ) :
    {τ : Type} → Part ρ τ → List (Field ρ) → List (FieldSpelling ρ) → Prop
  | none {p : Part ρ Unit} : Columns initial p [] []
  | more {α τ : Type} {p : Part ρ (α × τ)} {name : String} {codec : Codec α}
      {spelling : Spelling α} {fields : List (Field ρ)} {specs : List (FieldSpelling ρ)}
      (undoes : codec.Undoes spelling) (later : Columns initial p.others fields specs) :
      Columns initial p (.of name codec p.first.get p.first.set :: fields)
        (.of name spelling p.first.get (p.first.get initial) :: specs)

namespace Columns

variable {ρ τ : Type} {initial : ρ} {p : Part ρ τ} {fields : List (Field ρ)}
  {specs : List (FieldSpelling ρ)}

/-- The fields read and write what spells them. -/
theorem follows (columns : Columns initial p fields specs) :
    List.Forall₂ Field.Follows fields specs := by
  induction columns with
  | none => exact .nil
  | @more _ _ p _ _ _ _ _ undoes _ ih => exact .cons (Field.of_follows undoes p.first.get_set) ih

/-- What is written in a field of a part is written in the part. -/
theorem exists_set (columns : Columns initial p fields specs) {field : Field ρ}
    (among : field ∈ fields) {origin : Origin} {j : Json} {r r' : ρ}
    (put : field.put origin j r = .ok r') : ∃ t, r' = p.set r t := by
  induction columns with
  | none => cases among
  | more undoes later ih =>
    rcases List.mem_cons.mp among with rfl | after
    · obtain ⟨a, rfl⟩ := Field.of_put_eq_ok put
      exact ⟨_, rfl⟩
    · obtain ⟨t, rfl⟩ := ih after
      exact ⟨_, rfl⟩

/-- Whether fields of a part agree is a matter of that part. -/
theorem agrees_of_get (columns : Columns initial p fields specs) {spec : FieldSpelling ρ}
    (member : spec ∈ specs) {r r₁ r₂ : ρ} (same : p.get r₁ = p.get r₂)
    (agrees : spec.agrees r r₁) : spec.agrees r r₂ := by
  induction columns with
  | none => cases member
  | @more _ _ p _ _ _ _ _ undoes later ih =>
    rcases List.mem_cons.mp member with rfl | beyond
    · have agreed : p.first.get r = p.first.get r₁ := agrees
      exact agreed.trans (congrArg Prod.fst same)
    · exact ih beyond (congrArg Prod.snd same)

/-- A column is not changed when another one is written. -/
theorem leaves (columns : Columns initial p fields specs) :
    ∀ field ∈ fields, ∀ spec ∈ specs, field.name ≠ spec.name → field.Leaves spec := by
  induction columns with
  | none => exact List.forall_mem_nil _
  | @more _ _ p _ _ _ _ _ undoes later ih =>
    intro field among spec member different origin j r r₁ r₂ put agrees
    rcases List.mem_cons.mp among with rfl | after <;>
      rcases List.mem_cons.mp member with rfl | beyond
    · exact absurd rfl different
    · -- what stands behind the first column is not in it
      obtain ⟨a, rfl⟩ := Field.of_put_eq_ok put
      exact later.agrees_of_get beyond (p.others_get_first_set r₁ a).symm agrees
    · obtain ⟨t, rfl⟩ := later.exists_set after put
      have agreed : p.first.get r = p.first.get r₁ := agrees
      exact agreed.trans (p.first_get_others_set r₁ t).symm
    · exact ih field after spec beyond different put agrees

/-- A field that has its default is as it is at first. -/
theorem agrees_of_isDefault (columns : Columns initial p fields specs) :
    ∀ spec ∈ specs, ∀ r, spec.isDefault r → spec.agrees r initial := by
  induction columns with
  | none => exact List.forall_mem_nil _
  | more undoes later ih => exact List.forall_mem_cons.mpr ⟨fun _ => id, ih⟩

/-- A part is made up of its columns. -/
theorem get_eq (columns : Columns initial p fields specs) {r r' : ρ}
    (agree : ∀ spec ∈ specs, spec.agrees r r') : p.get r = p.get r' := by
  induction columns with
  | none => rfl
  | more undoes later ih =>
    obtain ⟨own, others⟩ := List.forall_mem_cons.mp agree
    exact Prod.ext own (ih others)

/-- **A record of columns is lawful.** -/
theorem lawful {record : Record ρ} (e : ρ ≃ τ)
    (columns : Columns record.initial (.whole e) record.fields specs)
    (distinct : (specs.map (·.name)).Nodup) : record.Lawful specs where
  follows := columns.follows
  distinct := distinct
  leaves := columns.leaves
  initial := columns.agrees_of_isDefault
  ext _ _ agree := e.injective (columns.get_eq agree)

end Columns

end MediaSearch.Json
