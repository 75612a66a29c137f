/-
MediaSearch/Proofs/Instant/Order.lean

The order of instants.

Instants in UTC are in the order of their fields, from the year down to the
fraction, where a leap second comes after the second before it.  The day
after a date and the day before it are its neighbours in this order
(`Date.lt_iff_next_le`, `Date.lt_iff_le_previous`).  An offset moves an
instant by less than a day, so that of two local times with one offset the
later one is the later instant.

Main result: `ofLocal_mono`.
-/
import Mathlib.Data.Prod.Lex
import MediaSearch.Instant

namespace MediaSearch

/-! ### Dates -/

namespace Date

/-- The parts of a date that decide its order. -/
def fields (d : Date) : Int ×ₗ Nat ×ₗ Nat :=
  toLex (d.year, toLex (d.month, d.day))

theorem fields_injective : Function.Injective fields := by
  rintro ⟨year, month, day⟩ ⟨year', month', day'⟩ same
  simpa [fields] using same

instance : LinearOrder Date := LinearOrder.lift' fields fields_injective

theorem lt_iff {d e : Date} :
    d < e ↔ d.year < e.year
      ∨ d.year = e.year ∧ (d.month < e.month ∨ d.month = e.month ∧ d.day < e.day) := by
  show d.fields < e.fields ↔ _
  simp [fields, Prod.Lex.lt_iff]

theorem le_iff {d e : Date} :
    d ≤ e ↔ d.year < e.year
      ∨ d.year = e.year ∧ (d.month < e.month ∨ d.month = e.month ∧ d.day ≤ e.day) := by
  show d.fields ≤ e.fields ↔ _
  simp [fields, Prod.Lex.le_iff]

/-- Whether a date exists, as bounds on its parts. -/
theorem isValid_iff {d : Date} :
    d.isValid = true
      ↔ (1 ≤ d.month ∧ d.month ≤ 12) ∧ 1 ≤ d.day ∧ d.day ≤ daysInMonth d.year d.month := by
  simp [isValid, and_assoc]

theorem daysInMonth_le (year : Int) (month : Nat) : daysInMonth year month ≤ 31 := by
  unfold daysInMonth
  split
  · split <;> omega
  all_goals omega

/-- The day after a date comes next among dates that exist. -/
theorem lt_iff_next_le {d e : Date} (valid : e.isValid = true) : d < e ↔ d.next ≤ e := by
  obtain ⟨month, day⟩ := isValid_iff.mp valid
  have sameMonth : d.year = e.year → d.month = e.month →
      daysInMonth e.year e.month = daysInMonth d.year d.month := by
    intro year month
    rw [year, month]
  rw [lt_iff, le_iff, next]
  -- the next day is in the same month, in the next one, or in the next year
  split
  · dsimp only
    omega
  · split
    · dsimp only
      omega
    · dsimp only
      omega

/-- So does the day before it, the other way. -/
theorem lt_iff_le_previous {d e : Date} (valid : d.isValid = true) : d < e ↔ d ≤ e.previous := by
  obtain ⟨month, day⟩ := isValid_iff.mp valid
  have most := daysInMonth_le d.year d.month
  rw [lt_iff, le_iff, previous]
  -- the day before is in the same month, in the one before, or in the year before
  split
  · dsimp only
    omega
  · have sameMonth : d.year = e.year → d.month = e.month - 1 →
        daysInMonth d.year d.month = daysInMonth e.year (e.month - 1) := by
      intro year month
      rw [year, month]
    split
    · dsimp only
      omega
    · dsimp only
      omega

/-- The next day is later. -/
theorem lt_next (d : Date) : d < d.next := by
  rw [lt_iff, next]
  split
  · dsimp only
    omega
  · split
    · dsimp only
      omega
    · dsimp only
      omega

/-- The day before is earlier. -/
theorem previous_lt {d : Date} (valid : d.isValid = true) : d.previous < d := by
  obtain ⟨month, day⟩ := isValid_iff.mp valid
  rw [lt_iff, previous]
  split
  · dsimp only
    omega
  · split
    · dsimp only
      omega
    · dsimp only
      omega

end Date

/-! ### Instants -/

namespace Instant

/-- The parts of an instant that decide its order. -/
def fields (i : Instant) : Date ×ₗ Nat ×ₗ Nat ×ₗ Nat :=
  toLex (i.date, toLex (i.minute, toLex (i.second, i.nano)))

theorem fields_injective : Function.Injective fields := by
  rintro ⟨date, minute, second, nano⟩ ⟨date', minute', second', nano'⟩ same
  simpa [fields] using same

instance : LinearOrder Instant := LinearOrder.lift' fields fields_injective

theorem le_iff {i j : Instant} :
    i ≤ j ↔ i.date < j.date
      ∨ i.date = j.date ∧ (i.minute < j.minute
        ∨ i.minute = j.minute ∧ (i.second < j.second
          ∨ i.second = j.second ∧ i.nano ≤ j.nano)) := by
  show i.fields ≤ j.fields ↔ _
  simp [fields, Prod.Lex.le_iff]

/-- What is on an earlier day is earlier, whatever the time of day. -/
theorem le_of_date_lt {i j : Instant} (earlier : i.date < j.date) : i ≤ j :=
  le_iff.mpr (.inl earlier)

/-- On one day, or on an earlier one, an earlier minute is before. -/
theorem le_of_minute_lt {i j : Instant} (day : i.date ≤ j.date) (earlier : i.minute < j.minute) :
    i ≤ j := by
  rcases lt_or_eq_of_le day with before | same
  · exact le_of_date_lt before
  · exact le_iff.mpr (.inr ⟨same, .inl earlier⟩)

/-- Local times on different days: the offset moves both or one of them by a
day, and then the minutes decide. -/
theorem ofLocal_le_of_date_lt {d e : Date} (earlier : d < e) (valid : d.isValid = true)
    (valid' : e.isValid = true) {minute minute' : Nat} (day : minute < 1440)
    (offset : Int) (second nano second' nano' : Nat) :
    ofLocal d minute second nano offset ≤ ofLocal e minute' second' nano' offset := by
  have next : d.next ≤ e := (Date.lt_iff_next_le valid').mp earlier
  have previous : d ≤ e.previous := (Date.lt_iff_le_previous valid).mp earlier
  have back : d.previous < d := Date.previous_lt valid
  have on : e < e.next := Date.lt_next e
  unfold ofLocal
  dsimp only
  split
  · -- the first moves back
    split
    · exact le_of_date_lt (back.trans_le previous)
    · split
      · exact le_of_date_lt (back.trans (earlier.trans on))
      · exact le_of_date_lt (back.trans earlier)
  · split
    · -- the first moves on, so the second cannot move back
      split
      · omega
      · split
        · exact le_of_date_lt (next.trans_lt on)
        · refine le_of_minute_lt next ?_
          dsimp only
          omega
    · split
      · refine le_of_minute_lt previous ?_
        dsimp only
        omega
      · split
        · exact le_of_date_lt (earlier.trans on)
        · exact le_of_date_lt earlier

/-- **Of two local times with one offset the later one is the later
instant.** -/
theorem ofLocal_mono {i j : Instant} (before : i ≤ j) (valid : i.date.isValid = true)
    (valid' : j.date.isValid = true) (day : i.minute < 1440) {offset : Int}
    (within : offset < 1440) :
    ofLocal i.date i.minute i.second i.nano offset
      ≤ ofLocal j.date j.minute j.second j.nano offset := by
  rcases le_iff.mp before with earlier | ⟨same, rest⟩
  · exact ofLocal_le_of_date_lt earlier valid valid' day offset _ _ _ _
  · -- on one day the earlier minute moves at least as far back
    have back : j.date.previous < j.date := Date.previous_lt valid'
    have on : j.date < j.date.next := Date.lt_next j.date
    rw [same]
    unfold ofLocal
    dsimp only
    -- both go back, both stay or both go on, unless the later one is ahead by a day
    split
    · split
      · refine le_iff.mpr (.inr ⟨rfl, ?_⟩)
        dsimp only
        omega
      · split
        · exact le_of_date_lt (back.trans on)
        · exact le_of_date_lt back
    · split
      · split
        · omega
        · split
          · refine le_iff.mpr (.inr ⟨rfl, ?_⟩)
            dsimp only
            omega
          · omega
      · split
        · omega
        · split
          · exact le_of_date_lt on
          · refine le_iff.mpr (.inr ⟨rfl, ?_⟩)
            dsimp only
            omega

end Instant

end MediaSearch
