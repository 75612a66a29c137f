/-
MediaSearch/Proofs/Json/Decoding.lean

Decoding undoes every spelling.

`Codec.Undoes c s` says that what spells a value is decoded to it, and that
encoding gives a spelling which can be stored.  It holds of the codecs of
scalars and passes to options, lists and choices.  `Codec.RoundTrips` is what
it means for values that stand alone.
-/
import MediaSearch.Proofs.Json.Spelling
import MediaSearch.Proofs.Number.Exact

namespace MediaSearch.Json

/-! ### Room for arrays and objects -/

namespace Origin

variable {origin inside : Origin}

/-- What has room for more has room for less. -/
theorem hasRoom.mono {m n : Nat} (le : m ≤ n) (room : origin.hasRoom n) : origin.hasRoom m := by
  cases origin with
  | text depth => exact Nat.le_trans (Nat.add_le_add_left le depth) room
  | value => trivial
  | stored => trivial

/-- Where there is room, an array or object can be opened. -/
theorem enter_of_hasRoom {n : Nat} (room : origin.hasRoom (n + 1)) :
    ∃ inside, origin.enter = .ok inside ∧ inside.hasRoom n := by
  cases origin with
  | text depth =>
    have shallow : depth + (n + 1) ≤ maxDepth := room
    refine ⟨.text (depth + 1), if_pos (by omega), ?_⟩
    show depth + 1 + n ≤ maxDepth
    omega
  | value => exact ⟨.value, rfl, trivial⟩
  | stored => exact ⟨.stored, rfl, trivial⟩

/-- Opening an array or object in a text counts it. -/
theorem enter_text {depth : Nat} (enter : (Origin.text depth).enter = .ok inside) :
    depth < maxDepth ∧ inside = .text (depth + 1) := by
  rw [Origin.enter] at enter
  split at enter
  · next shallow =>
    cases enter
    exact ⟨shallow, rfl⟩
  · cases enter

/-- An array can be kept if it can be opened and its items can be kept inside. -/
theorem keeps_array {items : List Json} (enter : origin.enter = .ok inside)
    (kept : ∀ item ∈ items, inside.keeps item = true) : origin.keeps (.array items) = true := by
  cases origin with
  | text depth =>
    obtain ⟨shallow, rfl⟩ := enter_text enter
    rw [keeps, keepable, Bool.and_eq_true, decide_eq_true_iff]
    refine ⟨shallow, ?_⟩
    -- all items are one level deeper
    induction items with
    | nil => rfl
    | cons item items ih =>
      rw [List.forall_mem_cons] at kept
      have first : item.keepable (depth + 1) = true := kept.1
      rw [keepableItems, first, ih kept.2, Bool.and_self]
  | value => rfl
  | stored => rfl

/-- An object can be kept if it can be opened and its values can be kept inside. -/
theorem keeps_ofFields {fields : List (String × Json)} (enter : origin.enter = .ok inside)
    (kept : ∀ field ∈ fields, inside.keeps field.2 = true) :
    origin.keeps (ofFields fields) = true := by
  cases origin with
  | text depth =>
    obtain ⟨shallow, rfl⟩ := enter_text enter
    rw [ofFields, keeps, keepable, Bool.and_eq_true, decide_eq_true_iff]
    refine ⟨shallow, ?_⟩
    -- all values are one level deeper
    induction fields with
    | nil => rfl
    | cons field fields ih =>
      rw [List.forall_mem_cons] at kept
      have first : field.2.keepable (depth + 1) = true := kept.1
      rw [List.map_cons, keepableMembers, first, ih kept.2, Bool.and_self]
  | value => rfl
  | stored => rfl

end Origin

/-! ### Numbers -/

namespace Number

variable {f : Format} {x : Binary f}

/-- A whole number that has the value of `x` is read as `x`. -/
theorem Equals.ofInt {n : Int} (equal : (int n).Equals x) (positive : 0 < f.precision) :
    Binary.ofInt f n = x := by
  obtain ⟨sign, units⟩ := equal
  rw [Binary.ofInt, ← sign]
  exact Binary.ofRatio_of_units positive Nat.one_pos (by rw [← units, Nat.mul_one])

/-- A double that has the value of `x` is rounded to `x`. -/
theorem Equals.convert {y : Binary64} (equal : (float y).Equals x) (positive : 0 < f.precision) :
    y.convert f = x := by
  obtain ⟨finite, sign, units⟩ := equal
  exact Binary.convert_of_units positive finite sign units

/-- A finite double has its own value. -/
theorem equals_self {y : Binary64} (finite : y.isInfinite = false) : (float y).Equals y :=
  ⟨finite, rfl, rfl⟩

end Number

/-! ### Codecs of scalars -/

/-- That decoding undoes every spelling, and encoding gives one. -/
structure Codec.Undoes {α : Type} (c : Codec α) (s : Spelling α) : Prop where
  reads : ∀ {origin : Origin} {a : α} {j : Json}, s.spells origin a j → c.decode origin j = .ok a
  writes : ∀ {origin : Origin} {a : α}, origin.hasRoom s.levels → s.finite a →
    s.spells origin a (c.encode a)
  keeps : ∀ {origin : Origin} {a : α}, origin.hasRoom s.levels → s.finite a →
    origin.keeps (c.encode a) = true

namespace Codec

variable {α : Type}

theorem string_undoes : string.Undoes .string where
  reads spelled := by
    cases spelled
    rfl
  writes _ _ := rfl
  keeps {origin _} _ _ := by cases origin <;> rfl

theorem bool_undoes : bool.Undoes .bool where
  reads spelled := by
    cases spelled
    rfl
  writes _ _ := rfl
  keeps {origin _} _ _ := by cases origin <;> rfl

/-- A natural number below `2 ^ 64` comes back from its digits. -/
theorem u64_undoes : u64.Undoes .u64 where
  reads {_ n _} spelled := by
    cases spelled
    have range : (0 : Int) ≤ n.toNat ∧ (n.toNat : Int) < UInt64.size :=
      ⟨Int.natCast_nonneg _, Int.ofNat_lt.mpr n.toNat_lt_size⟩
    rw [u64, unsigned]
    dsimp only
    rw [if_pos range, Int.toNat_natCast, UInt64.ofNat_toNat]
  writes _ _ := rfl
  keeps {origin _} _ _ := by cases origin <;> rfl

/-- A whole number of 64 bits comes back from its digits. -/
theorem i64_undoes : i64.Undoes .i64 where
  reads {_ n _} spelled := by
    cases spelled
    have range : Int64.minValue.toInt ≤ n.toInt ∧ n.toInt ≤ Int64.maxValue.toInt :=
      ⟨n.minValue_le_toInt, n.toInt_le⟩
    rw [i64]
    dsimp only
    rw [if_pos range, Int64.ofInt_toInt]
  writes _ _ := rfl
  keeps {origin _} _ _ := by cases origin <;> rfl

/-- A finite double comes back from a whole number or a double of its value. -/
theorem f64_undoes : f64.Undoes (.number .double) where
  reads {_ x _} spelled := by
    have positive : 0 < Format.double.precision := by decide
    obtain ⟨-, n, rfl, equal⟩ := spelled
    cases n with
    | int n => exact congrArg Except.ok (equal.ofInt positive)
    | float y =>
      have self : y.convert .double = y := (Number.equals_self equal.1).convert positive
      exact congrArg Except.ok (self.symm.trans (equal.convert positive))
  writes {_ x} _ finite := ⟨finite, .float x, rfl, Number.equals_self finite⟩
  keeps {origin _} _ _ := by cases origin <;> rfl

/-- A finite single comes back through the double of its value. -/
theorem f32_undoes : f32.Undoes (.number .single) where
  reads {_ x _} spelled := by
    have positive : 0 < Format.single.precision := by decide
    obtain ⟨-, n, rfl, equal⟩ := spelled
    cases n with
    | int n => exact congrArg Except.ok (equal.ofInt positive)
    | float y => exact congrArg Except.ok (equal.convert positive)
  writes {_ x} _ finite := by
    have finite' : x.isInfinite = false := finite
    obtain ⟨wide, units⟩ := Binary.convert_double finite'
    have sign : (x.convert .double).negative = x.negative := by
      rw [Binary.convert, finite', if_neg Bool.false_ne_true]
      rfl
    refine ⟨finite, .float (x.convert .double), ?_, wide, sign, units⟩
    rw [f32]
    dsimp only
    rw [finite', if_neg Bool.false_ne_true]
  keeps {origin x} _ finite := by
    have finite' : x.isInfinite = false := finite
    rw [f32]
    dsimp only
    rw [finite', if_neg Bool.false_ne_true]
    cases origin <;> rfl

/-! ### Options, lists and choices -/

-- what is spelled `null` is the absence of a value and nothing else
theorem bool_null {origin : Origin} {b : Bool} : ¬ Spelling.bool.spells origin b .null :=
  nofun

theorem u64_null {origin : Origin} {n : UInt64} :
    ¬ Spelling.u64.spells origin n .null :=
  nofun

theorem number_null {origin : Origin} {f : Format} {x : Binary f} :
    ¬ (Spelling.number f).spells origin x .null := by
  rintro ⟨-, n, number, -⟩
  cases number

theorem choice_null {origin : Origin} {name : α → String} {a : α} :
    ¬ (Spelling.choice name).spells origin a .null := by
  rintro (text | ⟨inside, -, object⟩)
  · cases text
  · cases object

/-- An optional value comes back if no value is spelled like its absence. -/
theorem Undoes.option {c : Codec α} {s : Spelling α} (undoes : c.Undoes s)
    (present : ∀ origin a, ¬ s.spells origin a .null) : (option c).Undoes (.option s) where
  reads {origin a j} spelled := by
    cases a with
    | none =>
      cases spelled
      rfl
    | some a =>
      have decoded : c.decode origin j = .ok a := undoes.reads spelled
      cases j with
      | null => exact absurd spelled (present origin a)
      | _ => exact congrArg (Except.map some) decoded
  writes {origin a} room finite := by
    cases a with
    | none => rfl
    | some a => exact undoes.writes room (finite a rfl)
  keeps {origin a} room finite := by
    cases a with
    | none => cases origin <;> rfl
    | some a => exact undoes.keeps room (finite a rfl)

/-- Lists come back item by item. -/
theorem Undoes.list {c : Codec α} {s : Spelling α} (undoes : c.Undoes s) :
    (list c).Undoes (.list s) where
  reads {origin as j} spelled := by
    obtain ⟨inside, items, enter, rfl, each⟩ := spelled
    have decoded : items.mapM (c.decode inside) = .ok as := by
      clear enter
      induction each with
      | nil => rfl
      | cons spelled _ ih =>
        rw [List.mapM_cons, undoes.reads spelled, ih]
        rfl
    show (origin.enter >>= fun inside => items.mapM (c.decode inside)) = .ok as
    rw [enter]
    exact decoded
  writes {origin as} room finite := by
    obtain ⟨inside, enter, room⟩ := Origin.enter_of_hasRoom room
    refine ⟨inside, as.map c.encode, enter, rfl, ?_⟩
    rw [List.forall₂_map_right_iff, List.forall₂_same]
    exact fun a member => undoes.writes room (finite a member)
  keeps {origin as} room finite := by
    obtain ⟨inside, enter, room⟩ := Origin.enter_of_hasRoom room
    refine Origin.keeps_array enter (List.forall_mem_map.mpr ?_)
    exact fun a member => undoes.keeps room (finite a member)

/-- A choice comes back if each variant is found under its name. -/
theorem choice_undoes {variants : List (String × α)} {name : α → String}
    (named : ∀ a, variants.lookup (name a) = some a) :
    (choice variants name).Undoes (.choice name) where
  reads {origin a j} spelled := by
    have chosen : variant variants (name a) = .ok a := by rw [variant, named]
    rcases spelled with rfl | ⟨inside, enter, rfl⟩
    · cases origin <;> exact chosen
    · cases origin <;>
        simp only [choice, keyVariant, enter, chosen, decodeNothing, bind, Except.bind] <;> rfl
  writes _ _ := .inl rfl
  keeps {origin _} _ _ := by cases origin <;> rfl

/-! ### Whole values -/

/-- That every spelling of a value is decoded to it, as a text or as a part of
something else, and that what is written for a value spells it. -/
structure RoundTrips (c : Codec α) (s : Spelling α) : Prop where
  decode : ∀ {origin : Origin} {a : α} {j : Json}, s.spells origin a j → c.decode origin j = .ok a
  decodeText : ∀ {a : α} {text : String}, s.spells (.text 0) a (Document.read text).root →
    (Document.read text).trailing = false → c.decodeText text = .ok a
  encode : ∀ {a : α}, s.finite a →
    s.spells (.text 0) a (c.encode a) ∧ s.spells .value a (c.encode a)

/-- What comes back from JSON comes back from text if it is not too deep. -/
theorem Undoes.roundTrips {c : Codec α} {s : Spelling α} (undoes : c.Undoes s)
    (shallow : s.levels ≤ maxDepth) : c.RoundTrips s where
  decode := undoes.reads
  decodeText {a text} spelled whole := by
    have decoded : c.decode (.text 0) (Document.read text).root = .ok a := undoes.reads spelled
    simp only [Codec.decodeText, decoded, whole]
    rfl
  encode finite := by
    have room : (Origin.text 0).hasRoom s.levels := by
      rw [Origin.hasRoom, Nat.zero_add]
      exact shallow
    exact ⟨undoes.writes room finite, undoes.writes trivial finite⟩

end Codec

end MediaSearch.Json
