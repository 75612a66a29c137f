/-
MediaSearch/Proofs/Json/Records.lean

Decoding undoes every spelling of a record and of a tagged choice.

`Record.Lawful` relates a record to the spellings of its fields.  The one step
is `Lawful.put`: a field takes the value that is spelled and the other fields
keep theirs.  A run over members or items makes every field agree that is
named in it or agreed before (`Lawful.fillMembers_spelled`,
`Lawful.fillItems_spelled`), whatever the order of the members.  Since the
fields that are not named have their defaults, all fields agree in the end
(`Lawful.undoes`).
-/
import MediaSearch.Proofs.Json.Decoding
import Mathlib.Data.List.Nodup

namespace MediaSearch.Json

theorem exists_of_forall₂_left {α β : Type} {R : α → β → Prop} {as : List α} {bs : List β}
    (related : List.Forall₂ R as bs) {a : α} (member : a ∈ as) : ∃ b ∈ bs, R a b := by
  induction related with
  | nil => cases member
  | cons first _ ih =>
    rcases List.mem_cons.mp member with rfl | later
    · exact ⟨_, List.mem_cons_self, first⟩
    · obtain ⟨b, among, relation⟩ := ih later
      exact ⟨b, List.mem_cons_of_mem _ among, relation⟩

variable {ρ : Type}

/-! ### Fields -/

/-- That a field reads and writes the values that spell it. -/
structure Field.Follows (field : Field ρ) (spec : FieldSpelling ρ) : Prop where
  name : field.name = spec.name
  put : ∀ {origin : Origin} {r : ρ} {j : Json}, spec.spells origin r j →
    ∀ r₁, ∃ r₂, field.put origin j r₁ = .ok r₂ ∧ spec.agrees r r₂
  writes : ∀ {origin : Origin} {r : ρ}, origin.hasRoom spec.levels → spec.finite r →
    spec.spells origin r (field.view r)
  keeps : ∀ {origin : Origin} {r : ρ}, origin.hasRoom spec.levels → spec.finite r →
    origin.keeps (field.view r) = true

/-- That a field leaves another field as it is. -/
def Field.Leaves (field : Field ρ) (other : FieldSpelling ρ) : Prop :=
  ∀ {origin : Origin} {j : Json} {r r₁ r₂ : ρ}, field.put origin j r₁ = .ok r₂ →
    other.agrees r r₁ → other.agrees r r₂

section

variable {α : Type} {name : String} {codec : Codec α} {get : ρ → α} {set : ρ → α → ρ}

/-- A field follows the spelling of its values if its codec undoes them. -/
theorem Field.of_follows {spelling : Spelling α} {default : α}
    (undoes : codec.Undoes spelling) (get_set : ∀ r a, get (set r a) = a) :
    (Field.of name codec get set).Follows (.of name spelling get default) where
  name := rfl
  put {origin r j} spelled r₁ := by
    have decoded : codec.decode origin j = .ok (get r) := undoes.reads spelled
    refine ⟨set r₁ (get r), ?_, (get_set r₁ (get r)).symm⟩
    simp only [Field.of, decoded]
    rfl
  writes := undoes.writes
  keeps := undoes.keeps

/-- A value that a field takes is written in its place. -/
theorem Field.of_put_eq_ok {origin : Origin} {j : Json} {r r' : ρ}
    (put : (Field.of name codec get set).put origin j r = .ok r') : ∃ a, r' = set r a := by
  simp only [Field.of] at put
  cases decoded : codec.decode origin j with
  | error fault =>
    rw [decoded] at put
    cases put
  | ok a =>
    rw [decoded] at put
    cases put
    exact ⟨a, rfl⟩

end

theorem FieldSpelling.levels_le {fields : List (FieldSpelling ρ)} {field : FieldSpelling ρ}
    (member : field ∈ fields) : field.levels ≤ (fields.map (·.levels)).foldr max 0 := by
  induction fields with
  | nil => cases member
  | cons first fields ih =>
    rw [List.map_cons, List.foldr_cons]
    rcases List.mem_cons.mp member with rfl | later
    · exact Nat.le_max_left _ _
    · exact Nat.le_trans (ih later) (Nat.le_max_right _ _)

/-! ### Records -/

/-- That a record has the given fields, independent of each other and with
the given defaults. -/
structure Record.Lawful (record : Record ρ) (specs : List (FieldSpelling ρ)) : Prop where
  follows : List.Forall₂ Field.Follows record.fields specs
  distinct : (specs.map (·.name)).Nodup
  leaves : ∀ field ∈ record.fields, ∀ spec ∈ specs, field.name ≠ spec.name → field.Leaves spec
  initial : ∀ spec ∈ specs, ∀ r, spec.isDefault r → spec.agrees r record.initial
  ext : ∀ r r', (∀ spec ∈ specs, spec.agrees r r') → r = r'

namespace Record.Lawful

variable {record : Record ρ} {specs : List (FieldSpelling ρ)} {origin inside : Origin} {r : ρ}

/-- Fields with one name are the same. -/
theorem eq_of_name (law : record.Lawful specs) {spec spec' : FieldSpelling ρ}
    (member : spec ∈ specs) (member' : spec' ∈ specs) (same : spec.name = spec'.name) :
    spec = spec' :=
  List.inj_on_of_nodup_map law.distinct member member' same

/-- A member that names a field is read as that field. -/
theorem find_of_named (law : record.Lawful specs) {spec : FieldSpelling ρ}
    (member : spec ∈ specs) :
    ∃ field ∈ record.fields, record.fields.find? (·.name == spec.name) = some field ∧
      field.Follows spec := by
  obtain ⟨field, among, follows⟩ := exists_of_forall₂_left law.follows.flip member
  have found : (record.fields.find? (·.name == spec.name)).isSome = true :=
    List.find?_isSome.mpr ⟨field, among, beq_iff_eq.mpr follows.name⟩
  obtain ⟨first, find⟩ := Option.isSome_iff_exists.mp found
  have named : first.name = spec.name := beq_iff_eq.mp (List.find?_some find :)
  have firstAmong := List.mem_of_find?_eq_some find
  -- the first field of the name is the only one
  obtain ⟨other, otherMember, firstFollows⟩ := exists_of_forall₂_left law.follows firstAmong
  obtain rfl : other = spec :=
    law.eq_of_name otherMember member (firstFollows.name.symm.trans named)
  exact ⟨first, firstAmong, find, firstFollows⟩

/-- A member that names no field is not read. -/
theorem find_of_unnamed (law : record.Lawful specs) {name : String}
    (unnamed : ∀ spec ∈ specs, spec.name ≠ name) :
    record.fields.find? (·.name == name) = none := by
  rw [List.find?_eq_none]
  intro field among named
  obtain ⟨spec, member, follows⟩ := exists_of_forall₂_left law.follows among
  exact unnamed spec member (follows.name.symm.trans (beq_iff_eq.mp named))

/-- One step: a field takes the value that is spelled, the others keep theirs. -/
theorem put (law : record.Lawful specs) {field : Field ρ} {spec : FieldSpelling ρ} {j : Json}
    (among : field ∈ record.fields) (member : spec ∈ specs) (follows : field.Follows spec)
    (spelled : spec.spells inside r j) (r₁ : ρ) :
    ∃ r₂, field.put inside j r₁ = .ok r₂ ∧
      ∀ other ∈ specs, other.name = spec.name ∨ other.agrees r r₁ → other.agrees r r₂ := by
  obtain ⟨r₂, put, agrees⟩ := follows.put spelled r₁
  refine ⟨r₂, put, fun other otherMember before => ?_⟩
  -- the field that is written has the value, and no other field is touched
  by_cases same : other.name = spec.name
  · rw [law.eq_of_name otherMember member same]
    exact agrees
  · refine law.leaves field among other otherMember ?_ put (before.resolve_left same)
    rw [follows.name]
    exact Ne.symm same

/-- The run over members. -/
theorem fillMembers_spelled (law : record.Lawful specs) {members : List (Key × Json)}
    (distinct : (members.map (·.1)).Nodup)
    (each : ∀ member ∈ members, SpelledMember inside specs r member) {seen : List String}
    (unseen : ∀ name ∈ seen, .name name ∉ members.map (·.1)) (r₁ : ρ) :
    ∃ r₂, fillMembers inside record.fields seen members r₁ = .ok r₂ ∧
      ∀ spec ∈ specs, .name spec.name ∈ members.map (·.1) ∨ spec.agrees r r₁ →
        spec.agrees r r₂ := by
  induction members generalizing seen r₁ with
  | nil =>
    refine ⟨r₁, rfl, fun spec _ before => before.resolve_left ?_⟩
    exact List.not_mem_nil
  | cons member members ih =>
    obtain ⟨key, j⟩ := member
    rw [List.map_cons, List.nodup_cons] at distinct
    rw [List.forall_mem_cons] at each
    obtain ⟨⟨name, named, spelled⟩, each⟩ := each
    obtain rfl : key = .name name := named
    have unseen' : ∀ other ∈ seen, .name other ∉ members.map (·.1) := fun other among later =>
      unseen other among (List.mem_cons_of_mem _ later)
    rcases spelled with ⟨spec, member, rfl, spelled⟩ | ⟨unnamed, passed⟩
    · -- the member fills the field of its name
      obtain ⟨field, among, find, follows⟩ := law.find_of_named member
      obtain ⟨r₂, put, step⟩ := law.put among member follows spelled r₁
      have fresh : spec.name ∉ seen := fun earlier =>
        unseen spec.name earlier List.mem_cons_self
      have unseen'' : ∀ other ∈ spec.name :: seen, .name other ∉ members.map (·.1) :=
        List.forall_mem_cons.mpr ⟨distinct.1, unseen'⟩
      obtain ⟨r₃, run, agrees⟩ := ih distinct.2 each unseen'' r₂
      refine ⟨r₃, ?_, fun other otherMember before => agrees other otherMember ?_⟩
      · rw [fillMembers, find]
        dsimp only
        rw [if_neg fresh, put]
        exact run
      · rw [List.map_cons, List.mem_cons, Key.name.injEq, or_assoc] at before
        rcases before with same | later | agreed
        · exact .inr (step other otherMember (.inl same))
        · exact .inl later
        · exact .inr (step other otherMember (.inr agreed))
    · -- the member names no field
      obtain ⟨r₂, run, agrees⟩ := ih distinct.2 each unseen' r₁
      refine ⟨r₂, ?_, fun other otherMember before => agrees other otherMember ?_⟩
      · rw [fillMembers, law.find_of_unnamed unnamed]
        dsimp only
        rw [if_pos passed]
        exact run
      · rw [List.map_cons, List.mem_cons, Key.name.injEq, or_assoc] at before
        exact before.resolve_left (unnamed other otherMember)

/-- The run over items. -/
theorem fillItems_spelled (law : record.Lawful specs) {fields : List (Field ρ)}
    {given omitted : List (FieldSpelling ρ)} {items : List Json}
    (follows : List.Forall₂ Field.Follows fields (given ++ omitted))
    (among : fields ⊆ record.fields) (member : given ⊆ specs)
    (each : List.Forall₂ (fun spec item => spec.spells inside r item) given items)
    (tooLong : Fault) (r₁ : ρ) :
    ∃ r₂, fillItems inside tooLong fields items r₁ = .ok r₂ ∧
      ∀ spec ∈ specs, spec.name ∈ given.map (·.name) ∨ spec.agrees r r₁ →
        spec.agrees r r₂ := by
  induction each generalizing fields r₁ with
  | nil =>
    refine ⟨r₁, by cases fields <;> rfl, fun spec _ before => before.resolve_left ?_⟩
    exact List.not_mem_nil
  | cons spelled _ ih =>
    cases follows with
    | cons first rest =>
      rw [List.cons_subset] at among member
      obtain ⟨r₂, put, step⟩ := law.put among.1 member.1 first spelled r₁
      obtain ⟨r₃, run, agrees⟩ := ih rest among.2 member.2 r₂
      refine ⟨r₃, ?_, fun other otherMember before => agrees other otherMember ?_⟩
      · rw [fillItems, put]
        exact run
      · rw [List.map_cons, List.mem_cons, or_assoc] at before
        -- a field is written now, written later, or has been right before
        rcases before with same | later | agreed
        · exact .inr (step other otherMember (.inl same))
        · exact .inl later
        · exact .inr (step other otherMember (.inr agreed))

/-- A record is read from what spells it, as an object or as an array. -/
theorem decode_spelled (law : record.Lawful specs) {j : Json}
    (spelled : (Spelling.record specs).spells origin r j) : record.decode origin j = .ok r := by
  obtain ⟨inside, enter, ⟨members, rfl, distinct, each, omitted⟩ |
    ⟨items, rfl, given, omitted, split, each, default⟩⟩ := spelled
  · obtain ⟨r₂, run, agrees⟩ :=
      law.fillMembers_spelled distinct each (List.forall_mem_nil _) record.initial
    -- all fields agree: those that are there, and those left out by their defaults
    have same : r = r₂ := law.ext r r₂ fun spec member => agrees spec member <| by
      by_cases named : .name spec.name ∈ members.map (·.1)
      · exact .inl named
      · exact .inr (law.initial spec member r (omitted spec member named))
    rw [decode, enter, same]
    exact run
  · subst split
    obtain ⟨r₂, run, agrees⟩ := law.fillItems_spelled law.follows (List.Subset.refl _)
      (List.subset_append_left given omitted) each
      (origin.tooLong items.length record.fields.length) record.initial
    have same : r = r₂ := law.ext r r₂ fun spec member => agrees spec member <| by
      rcases List.mem_append.mp member with named | left
      · exact .inl (List.mem_map_of_mem named)
      · exact .inr (law.initial spec member r (default spec left))
    rw [decode, enter, same]
    exact run

theorem names (law : record.Lawful specs) :
    record.fields.map (·.name) = specs.map (·.name) := by
  have same : List.Forall₂ (· = ·) (record.fields.map (·.name)) (specs.map (·.name)) := by
    rw [List.forall₂_map_left_iff, List.forall₂_map_right_iff]
    exact law.follows.imp fun _ _ follows => follows.name
  rwa [List.forall₂_eq_eq_eq] at same

/-- The members that are written for a record. -/
theorem members_spelled (law : record.Lawful specs)
    (room : inside.hasRoom ((specs.map (·.levels)).foldr max 0))
    (finite : ∀ spec ∈ specs, spec.finite r) :
    SpelledMembers inside specs r
      ((record.members r).map fun (name, j) => (.name name, j)) := by
  have keys : ((record.members r).map fun (name, j) => (Key.name name, j)).map (·.1)
      = (specs.map (·.name)).map .name := by
    rw [← law.names, members, List.map_map, List.map_map, List.map_map]
    rfl
  -- all fields are written, so that none is left to its default
  refine ⟨?_, ?_, fun spec member unnamed => absurd ?_ unnamed⟩
  · rw [keys]
    exact List.Nodup.map (fun _ _ same => Key.name.inj same) law.distinct
  · rw [members, List.map_map, List.forall_mem_map]
    intro field among
    obtain ⟨spec, member, follows⟩ := exists_of_forall₂_left law.follows among
    have spelled : spec.spells inside r (field.view r) :=
      follows.writes (room.mono (FieldSpelling.levels_le member)) (finite spec member)
    exact ⟨field.name, rfl, .inl ⟨spec, member, follows.name.symm, spelled⟩⟩
  · rw [keys]
    exact List.mem_map_of_mem (List.mem_map_of_mem member)

/-- What is written for the fields of a record can be stored. -/
theorem keeps_members (law : record.Lawful specs)
    (room : inside.hasRoom ((specs.map (·.levels)).foldr max 0))
    (finite : ∀ spec ∈ specs, spec.finite r) :
    ∀ member ∈ record.members r, inside.keeps member.2 = true := by
  rw [members, List.forall_mem_map]
  intro field among
  obtain ⟨spec, member, follows⟩ := exists_of_forall₂_left law.follows among
  exact follows.keeps (room.mono (FieldSpelling.levels_le member)) (finite spec member)

/-- Records come back, since what is written is an object of all fields. -/
theorem undoes (law : record.Lawful specs) : record.codec.Undoes (.record specs) where
  reads := law.decode_spelled
  writes room finite := by
    obtain ⟨inside, enter, room⟩ := Origin.enter_of_hasRoom room
    exact ⟨inside, enter, .inl ⟨_, rfl, law.members_spelled room finite⟩⟩
  keeps room finite := by
    obtain ⟨inside, enter, room⟩ := Origin.enter_of_hasRoom room
    exact Origin.keeps_ofFields enter (law.keeps_members room finite)

end Record.Lawful

/-- An object or an array is not `null`. -/
theorem record_null {origin : Origin} {specs : List (FieldSpelling ρ)} {r : ρ} :
    ¬ (Spelling.record specs).spells origin r .null := by
  rintro ⟨inside, -, ⟨members, object, -⟩ | ⟨items, array, -⟩⟩
  · cases object
  · cases array

/-- A record that may be absent: `null` spells its absence and nothing else. -/
theorem Record.Lawful.option {record : Record ρ} {specs : List (FieldSpelling ρ)}
    (law : record.Lawful specs) :
    (Codec.option record.codec).Undoes (.option (.record specs)) :=
  law.undoes.option fun _ _ => record_null

/-! ### Tagged choices -/

namespace Tagged

variable {κ α : Type} {choice : Tagged κ α} {origin inside : Origin}

/-- Members without the tag are kept as they are. -/
theorem splitMembers_others {others : List (Key × Json)} (found : Option κ)
    (kept : ∀ member ∈ others,
      ∃ key, member.1 = .name key ∧ key ≠ choice.tag ∧ inside.keeps member.2 = true) :
    choice.splitMembers inside found others = .ok (found, others) := by
  induction others with
  | nil => rfl
  | cons member others ih =>
    obtain ⟨key, j⟩ := member
    rw [List.forall_mem_cons] at kept
    obtain ⟨⟨name, rfl, other, keeps⟩, kept⟩ := kept
    rw [splitMembers, if_neg other, if_pos keeps, ih kept]
    rfl

/-- The tag is found wherever it stands. -/
theorem splitMembers_tag {before after : List (Key × Json)} {name : String} {tag : κ}
    (named : choice.tags.lookup name = some tag)
    (kept : ∀ member ∈ before ++ after,
      ∃ key, member.1 = .name key ∧ key ≠ choice.tag ∧ inside.keeps member.2 = true) :
    choice.splitMembers inside none (before ++ (.name choice.tag, .text name) :: after)
      = .ok (some tag, before ++ after) := by
  have decoded : choice.decodeTag (.text name) = .ok tag := by
    rw [decodeTag, variant, named]
  induction before with
  | nil =>
    rw [List.nil_append, splitMembers, if_pos rfl, decoded]
    exact splitMembers_others (some tag) kept
  | cons member before ih =>
    obtain ⟨key, j⟩ := member
    rw [List.cons_append, List.forall_mem_cons] at kept
    obtain ⟨⟨name, rfl, other, keeps⟩, kept⟩ := kept
    -- what stands before the tag is kept for its contents
    rw [List.cons_append, splitMembers, if_neg other, if_pos keeps, ih kept]
    rfl

/-- That a choice has the tags and the bodies that are spelled. -/
structure Lawful (choice : Tagged κ α) (name : α → String) (kind : α → κ) (body : Spelling α) :
    Prop where
  named : ∀ a, choice.tags.lookup (name a) = some (kind a)
  reads : ∀ {a : α} {j : Json}, body.spells .stored a j → choice.body (kind a) j = .ok a
  tagged : ∀ a, (choice.parts a).1 = name a
  writes : ∀ {a : α}, body.finite a → body.spells .stored a (ofFields (choice.parts a).2)
  untagged : ∀ a, ∀ member ∈ (choice.parts a).2, member.1 ≠ choice.tag
  room : ∀ {origin : Origin}, origin.hasRoom body.levels →
    ∃ inside, origin.enter = .ok inside ∧
      ∀ {a : α}, body.finite a → ∀ member ∈ (choice.parts a).2, inside.keeps member.2 = true

namespace Lawful

variable {name : α → String} {kind : α → κ} {body : Spelling α} {a : α} {j : Json}

/-- A tagged choice is read from what spells it, wherever the tag stands. -/
theorem decode_spelled (law : choice.Lawful name kind body)
    (spelled : (Spelling.tagged choice.tag name body).spells origin a j) :
    choice.decode origin j = .ok a := by
  obtain ⟨inside, enter, ⟨members, rfl, before, after, rfl, kept, spelled⟩ |
    ⟨items, rfl, others, rfl, kept, spelled⟩⟩ := spelled
  · have split := splitMembers_tag (law.named a) kept
    simp only [decode, enter, split, bind, Except.bind]
    exact law.reads spelled
  · have decoded : choice.decodeTag (.text (name a)) = .ok (kind a) := by
      rw [decodeTag, variant, law.named]
    have all : others.all inside.keeps = true := List.all_eq_true.mpr kept
    simp only [decode, enter, decoded, all, bind, Except.bind, if_true]
    exact law.reads spelled

/-- Tagged choices come back, since the tag is no name of a field. -/
theorem undoes (law : choice.Lawful name kind body) :
    choice.codec.Undoes (.tagged choice.tag name body) where
  reads := law.decode_spelled
  writes {origin a} room finite := by
    obtain ⟨inside, enter, kept⟩ := law.room room
    refine ⟨inside, enter, .inl ⟨_, rfl, [], _, ?_, ?_, law.writes finite⟩⟩
    · rw [List.map_cons, law.tagged]
      rfl
    · rw [List.nil_append, List.forall_mem_map]
      exact fun member among =>
        ⟨member.1, rfl, law.untagged a member among, kept finite member among⟩
  keeps {origin a} room finite := by
    obtain ⟨inside, enter, kept⟩ := law.room room
    refine Origin.keeps_ofFields enter (List.forall_mem_cons.mpr ⟨?_, kept finite⟩)
    cases inside <;> rfl

end Lawful

end Tagged

end MediaSearch.Json
