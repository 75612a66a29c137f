/-
MediaSearch/Proofs/Instant/Reading.lean

Texts of instants and their order.

A text is compared from the left, and an instant is read from the left: of
two texts that are read, the first part that differs decides both orders.
So each reader has a lemma about two texts of which one comes before the
other: what is read is ahead, or it is equal and what is left still comes
before (`twoDigits_le`, `readDate_le`, `readTime_le`, `readFraction_le`).

This ends at the offset.  Local times with different offsets are in another
order than their instants, and so may be texts that differ in their
separators, or in the number of digits of a fraction where the mark after
them comes after all digits.  Texts that agree in these are *spelled alike*.

Main result: `parse_le_of_le`.
-/
import Mathlib.Data.List.TakeDrop
import MediaSearch.Proofs.Instant.Order
import MediaSearch.Proofs.Number.Digits

namespace MediaSearch

/-- A chain of readers succeeds step by step. -/
theorem bind_eq_ok {ε α β : Type} {x : Except ε α} {f : α → Except ε β} {b : β}
    (ok : (x >>= f) = .ok b) : ∃ a, x = .ok a ∧ f a = .ok b := by
  cases x with
  | error e => cases ok
  | ok a => exact ⟨a, rfl, ok⟩

namespace Instant

variable {cs ds cs' ds' : List Char}

/-! ### Parts of a text -/

/-- Two digits have been read if there are two of them. -/
theorem twoDigits_eq_ok {n : Nat} (read : twoDigits cs = .ok (n, cs')) :
    ∃ digits : List Char, digits.length = 2 ∧ (∀ c ∈ digits, c.isDigit = true)
      ∧ digitsValue digits = n ∧ cs = digits ++ cs' := by
  match cs with
  | [] | [_] => cases read
  | a :: b :: rest =>
    rw [twoDigits] at read
    split at read
    · next digits =>
      obtain ⟨rfl, rfl⟩ := Prod.mk.inj (Except.ok.inj read)
      refine ⟨[a, b], rfl, ?_, rfl, rfl⟩
      simpa using digits
    · cases read

theorem twoDigits_lt {n : Nat} (read : twoDigits cs = .ok (n, cs')) : n < 100 := by
  obtain ⟨digits, length, all, rfl, -⟩ := twoDigits_eq_ok read
  have small := digitsValue_lt all
  rwa [length] at small

/-- Reading two digits takes two characters away. -/
theorem twoDigits_drop {n : Nat} (read : twoDigits cs = .ok (n, cs')) : cs' = cs.drop 2 := by
  obtain ⟨digits, length, -, -, rfl⟩ := twoDigits_eq_ok read
  exact (List.drop_left' length).symm

/-- Two digits are ahead, or equal and what follows comes before. -/
theorem twoDigits_le {m n : Nat} (left : twoDigits cs = .ok (m, cs'))
    (right : twoDigits ds = .ok (n, ds')) (before : cs ≤ ds) : m < n ∨ m = n ∧ cs' ≤ ds' := by
  obtain ⟨digits, length, all, rfl, rfl⟩ := twoDigits_eq_ok left
  obtain ⟨others, length', all', rfl, rfl⟩ := twoDigits_eq_ok right
  have lengths : digits.length = others.length := length.trans length'.symm
  rcases (append_le_append_iff lengths _ _).mp before with ahead | ⟨same, rest⟩
  · exact .inl (digitsValue_lt_of_lt lengths all all' ahead)
  · exact .inr ⟨congrArg digitsValue same, rest⟩

theorem oneOf_eq_ok {allowed : List Char} (read : oneOf allowed cs = .ok cs') :
    ∃ c ∈ allowed, cs = c :: cs' := by
  cases cs with
  | nil => cases read
  | cons c rest =>
    rw [oneOf] at read
    split at read
    · next among =>
      obtain rfl := Except.ok.inj read
      exact ⟨c, among, rfl⟩
    · cases read

theorem oneOf_drop {allowed : List Char} (read : oneOf allowed cs = .ok cs') :
    cs' = cs.drop 1 := by
  obtain ⟨c, -, rfl⟩ := oneOf_eq_ok read
  rfl

/-- After an equal separator the rest decides. -/
theorem oneOf_le {allowed : List Char} (left : oneOf allowed cs = .ok cs')
    (right : oneOf allowed ds = .ok ds') (same : cs.head? = ds.head?) (before : cs ≤ ds) :
    cs' ≤ ds' := by
  obtain ⟨c, -, rfl⟩ := oneOf_eq_ok left
  obtain ⟨d, -, rfl⟩ := oneOf_eq_ok right
  obtain rfl : c = d := Option.some.inj same
  rcases cons_le_cons_iff.mp before with ahead | ⟨-, rest⟩
  · exact absurd ahead (lt_irrefl c)
  · exact rest

/-- A separator that has only one spelling is always equal. -/
theorem oneOf_singleton_le {c : Char} (left : oneOf [c] cs = .ok cs')
    (right : oneOf [c] ds = .ok ds') (before : cs ≤ ds) : cs' ≤ ds' := by
  refine oneOf_le left right ?_ before
  obtain ⟨a, among, rfl⟩ := oneOf_eq_ok left
  obtain ⟨b, among', rfl⟩ := oneOf_eq_ok right
  rw [List.mem_singleton.mp among, List.mem_singleton.mp among']
  rfl

/-! ### Dates and times -/

/-- What a date was read from. -/
theorem readDate_eq_ok {date : Date} (read : readDate cs = .ok (date, cs')) :
    ∃ century year afterCentury afterYear atMonth afterMonth atDay,
      twoDigits cs = .ok (century, afterCentury)
      ∧ twoDigits afterCentury = .ok (year, afterYear) ∧ oneOf ['-'] afterYear = .ok atMonth
      ∧ twoDigits atMonth = .ok (date.month, afterMonth) ∧ oneOf ['-'] afterMonth = .ok atDay
      ∧ twoDigits atDay = .ok (date.day, cs')
      ∧ date.year = (100 * century + year : Nat) ∧ date.isValid = true := by
  obtain ⟨⟨century, afterCentury⟩, readsCentury, read⟩ := bind_eq_ok read
  obtain ⟨⟨year, afterYear⟩, readsYear, read⟩ := bind_eq_ok read
  obtain ⟨atMonth, firstDash, read⟩ := bind_eq_ok read
  obtain ⟨⟨month, afterMonth⟩, readsMonth, read⟩ := bind_eq_ok read
  obtain ⟨atDay, secondDash, read⟩ := bind_eq_ok read
  obtain ⟨⟨day, afterDay⟩, readsDay, read⟩ := bind_eq_ok read
  dsimp only at read
  split at read
  · next valid =>
    obtain ⟨rfl, rfl⟩ := Prod.mk.inj (Except.ok.inj read)
    exact ⟨century, year, afterCentury, afterYear, atMonth, afterMonth, atDay, readsCentury,
      readsYear, firstDash, readsMonth, secondDash, readsDay, rfl, valid⟩
  · cases read

/-- A date that has been read exists. -/
theorem isValid_of_readDate {date : Date} (read : readDate cs = .ok (date, cs')) :
    date.isValid = true := by
  obtain ⟨_, _, _, _, _, _, _, -, -, -, -, -, -, -, valid⟩ := readDate_eq_ok read
  exact valid

/-- A date takes ten characters. -/
theorem readDate_drop {date : Date} (read : readDate cs = .ok (date, cs')) :
    cs' = cs.drop 10 := by
  obtain ⟨_, _, _, _, _, _, _, century, year, dash, month, dash', day, -⟩ := readDate_eq_ok read
  rw [twoDigits_drop day, oneOf_drop dash', twoDigits_drop month, oneOf_drop dash,
    twoDigits_drop year, twoDigits_drop century]
  simp

/-- Of two dates the one whose text comes before is ahead, or they are equal
and what follows comes before. -/
theorem readDate_le {date date' : Date} (left : readDate cs = .ok (date, cs'))
    (right : readDate ds = .ok (date', ds')) (before : cs ≤ ds) :
    date < date' ∨ date = date' ∧ cs' ≤ ds' := by
  obtain ⟨century, year, _, _, _, _, _, readsCentury, readsYear, firstDash, readsMonth, secondDash,
    readsDay, whole, -⟩ := readDate_eq_ok left
  obtain ⟨century', year', _, _, _, _, _, readsCentury', readsYear', firstDash', readsMonth',
    secondDash', readsDay', whole', -⟩ := readDate_eq_ok right
  -- the first difference decides, since every part has two digits
  have small := twoDigits_lt readsYear
  have small' := twoDigits_lt readsYear'
  rw [Date.lt_iff, whole, whole']
  rcases twoDigits_le readsCentury readsCentury' before with ahead | ⟨rfl, before⟩
  · exact .inl (.inl (by omega))
  rcases twoDigits_le readsYear readsYear' before with ahead | ⟨rfl, before⟩
  · exact .inl (.inl (by omega))
  have atMonth := oneOf_singleton_le firstDash firstDash' before
  rcases twoDigits_le readsMonth readsMonth' atMonth with ahead | ⟨month, before⟩
  · exact .inl (.inr ⟨rfl, .inl ahead⟩)
  have atDay := oneOf_singleton_le secondDash secondDash' before
  rcases twoDigits_le readsDay readsDay' atDay with ahead | ⟨day, before⟩
  · exact .inl (.inr ⟨rfl, .inr ⟨month, ahead⟩⟩)
  · obtain ⟨y, m, d⟩ := date
    obtain ⟨y', m', d'⟩ := date'
    dsimp only at whole whole' month day
    subst whole whole' month day
    exact .inr ⟨rfl, before⟩

/-- What a time was read from. -/
theorem readTime_eq_ok {hour minute second : Nat}
    (read : readTime cs = .ok (hour, minute, second, cs')) :
    ∃ afterHour atMinute afterMinute atSecond, twoDigits cs = .ok (hour, afterHour)
      ∧ oneOf [':'] afterHour = .ok atMinute ∧ twoDigits atMinute = .ok (minute, afterMinute)
      ∧ oneOf [':'] afterMinute = .ok atSecond ∧ twoDigits atSecond = .ok (second, cs') := by
  obtain ⟨⟨_, afterHour⟩, readsHour, read⟩ := bind_eq_ok read
  obtain ⟨atMinute, firstColon, read⟩ := bind_eq_ok read
  obtain ⟨⟨_, afterMinute⟩, readsMinute, read⟩ := bind_eq_ok read
  obtain ⟨atSecond, secondColon, read⟩ := bind_eq_ok read
  obtain ⟨⟨_, afterSecond⟩, readsSecond, read⟩ := bind_eq_ok read
  cases read
  exact ⟨afterHour, atMinute, afterMinute, atSecond, readsHour, firstColon, readsMinute,
    secondColon, readsSecond⟩

/-- A time of day without a fraction takes eight characters. -/
theorem readTime_drop {hour minute second : Nat}
    (read : readTime cs = .ok (hour, minute, second, cs')) : cs' = cs.drop 8 := by
  obtain ⟨_, _, _, _, hour, colon, minute, colon', second⟩ := readTime_eq_ok read
  rw [twoDigits_drop second, oneOf_drop colon', twoDigits_drop minute, oneOf_drop colon,
    twoDigits_drop hour]
  simp

/-- So it is with times, whose first part that differs decides. -/
theorem readTime_le {hour minute second hour' minute' second' : Nat}
    (left : readTime cs = .ok (hour, minute, second, cs'))
    (right : readTime ds = .ok (hour', minute', second', ds')) (before : cs ≤ ds) :
    hour < hour' ∨ hour = hour' ∧ (minute < minute'
      ∨ minute = minute' ∧ (second < second' ∨ second = second' ∧ cs' ≤ ds')) := by
  obtain ⟨_, _, _, _, readsHour, firstColon, readsMinute, secondColon, readsSecond⟩ :=
    readTime_eq_ok left
  obtain ⟨_, _, _, _, readsHour', firstColon', readsMinute', secondColon', readsSecond'⟩ :=
    readTime_eq_ok right
  -- here too the first difference decides
  refine (twoDigits_le readsHour readsHour' before).imp_right
    fun ⟨sameHour, before⟩ => ⟨sameHour, ?_⟩
  have atMinute := oneOf_singleton_le firstColon firstColon' before
  refine (twoDigits_le readsMinute readsMinute' atMinute).imp_right
    fun ⟨sameMinute, before⟩ => ⟨sameMinute, ?_⟩
  have atSecond := oneOf_singleton_le secondColon secondColon' before
  exact twoDigits_le readsSecond readsSecond' atSecond

/-! ### Fractions and offsets -/

/-- The digits after a point, if a text begins with one. -/
def fractionDigits : List Char → List Char
  | '.' :: rest => rest.takeWhile Char.isDigit
  | _ => []

/-- A text without the point and the digits that it begins with. -/
def afterFraction : List Char → List Char
  | '.' :: rest => rest.dropWhile Char.isDigit
  | cs => cs

theorem isDigit_of_mem_fractionDigits (cs : List Char) :
    ∀ c ∈ fractionDigits cs, c.isDigit = true := by
  unfold fractionDigits
  split
  · exact List.all_eq_true.mp List.all_takeWhile
  · nofun

/-- There is no fraction, or there are a point and digits. -/
theorem readFraction_eq_ok {nano : Nat} (read : readFraction cs = .ok (nano, cs')) :
    afterFraction cs = cs' ∧ nanoOf (fractionDigits cs) = nano
      ∧ (fractionDigits cs = [] ∧ cs = cs'
        ∨ fractionDigits cs ≠ [] ∧ cs = '.' :: (fractionDigits cs ++ cs')) := by
  unfold readFraction at read
  split at read
  · next rest =>
    rw [List.span_eq_takeWhile_dropWhile] at read
    have whole : rest = fractionDigits ('.' :: rest) ++ afterFraction ('.' :: rest) :=
      List.takeWhile_append_dropWhile.symm
    have parts : (rest.takeWhile Char.isDigit, rest.dropWhile Char.isDigit)
        = (fractionDigits ('.' :: rest), afterFraction ('.' :: rest)) := rfl
    rw [parts] at read
    generalize fractionDigits ('.' :: rest) = digits at read whole ⊢
    generalize afterFraction ('.' :: rest) = after at read whole ⊢
    split at read
    · cases read
    · cases read
    · next ended unended same =>
      obtain ⟨rfl, rfl⟩ := Prod.mk.inj same
      obtain ⟨rfl, rfl⟩ := Prod.mk.inj (Except.ok.inj read)
      refine ⟨rfl, rfl, .inr ⟨fun empty => ?_, congrArg ('.' :: ·) whole⟩⟩
      -- a point alone is not read, whether or not the text goes on
      cases after with
      | nil => exact ended empty rfl
      | cons c after => exact unended c after empty rfl
  · next pointless =>
    have none : fractionDigits cs = [] ∧ afterFraction cs = cs := by
      unfold fractionDigits afterFraction
      split
      · exact absurd rfl (pointless _)
      · exact ⟨rfl, rfl⟩
    obtain ⟨rfl, rfl⟩ := Prod.mk.inj (Except.ok.inj read)
    rw [none.1, none.2]
    exact ⟨rfl, rfl, .inl ⟨rfl, rfl⟩⟩

/-- Of two fractions with the same text after them that of the text before is
at most the other. -/
theorem readFraction_le {zone : List Char} {nano nano' : Nat}
    (left : readFraction cs = .ok (nano, zone)) (right : readFraction ds = .ok (nano', zone))
    (before : cs ≤ ds)
    (ends : (∃ c rest, zone = c :: rest ∧ c < '.')
      ∨ (fractionDigits cs).length = (fractionDigits ds).length) : nano ≤ nano' := by
  obtain ⟨-, rfl, whole⟩ := readFraction_eq_ok left
  obtain ⟨-, rfl, whole'⟩ := readFraction_eq_ok right
  have digits := isDigit_of_mem_fractionDigits cs
  have digits' := isDigit_of_mem_fractionDigits ds
  -- without a fraction there are no nanoseconds, which is the least
  rcases whole with ⟨none, -⟩ | ⟨some, text⟩
  · rw [none]
    exact Nat.zero_le _
  · rcases whole' with ⟨none', text'⟩ | ⟨-, text'⟩
    · -- a point does not come before the text after it
      rcases ends with ⟨c, rest, rfl, low⟩ | length
      · rw [text, text'] at before
        rcases cons_le_cons_iff.mp before with ahead | ⟨same, -⟩
        · exact absurd (ahead.trans low) (lt_irrefl _)
        · exact absurd (same ▸ low) (lt_irrefl _)
      · rw [none', List.length_nil] at length
        exact absurd (List.eq_nil_of_length_eq_zero length) some
    · rw [text, text'] at before
      rcases cons_le_cons_iff.mp before with ahead | ⟨-, rest⟩
      · exact absurd ahead (lt_irrefl _)
      have point : '.' < '0' := by decide
      have low : (∃ c rest, zone = c :: rest ∧ c < '0')
          ∨ (fractionDigits cs).length = (fractionDigits ds).length := by
        rcases ends with ⟨c, rest, same, low⟩ | length
        · exact .inl ⟨c, rest, same, low.trans point⟩
        · exact .inr length
      have order := fillUp_le_of_le digits digits' rest low 9
      rw [nanoOf, nanoOf, ← fillUp_eq, ← fillUp_eq]
      exact digitsValue_le_of_le (by simp) (isDigit_of_mem_fillUp digits)
        (isDigit_of_mem_fillUp digits') order

/-- The minutes by which a text that is an offset is ahead of UTC. -/
def offsetOf (zone : List Char) : Int :=
  match readOffset zone with
  | .ok (behind, hours, minutes, _) =>
    if behind then -((60 * hours + minutes : Nat) : Int) else (60 * hours + minutes : Nat)
  | .error _ => 0

theorem minutes_of_readHoursMinutes {cs rest : List Char} {hours minutes : Nat}
    (read : readHoursMinutes cs = .ok (hours, minutes, rest)) : minutes < 60 := by
  obtain ⟨⟨_, _⟩, -, read⟩ := bind_eq_ok read
  obtain ⟨_, -, read⟩ := bind_eq_ok read
  obtain ⟨⟨_, _⟩, -, read⟩ := bind_eq_ok read
  dsimp only at read
  split at read
  · next small =>
    cases read
    exact small
  · cases read

theorem minutes_of_readOffset {zone rest : List Char} {behind : Bool} {hours minutes : Nat}
    (read : readOffset zone = .ok (behind, hours, minutes, rest)) : minutes < 60 := by
  -- whatever the sign is, the minutes are read in the same way
  have signed {cs : List Char} {sign : Bool}
      (read : (readHoursMinutes cs).map (sign, ·) = .ok (behind, hours, minutes, rest)) :
      minutes < 60 := by
    cases parts : readHoursMinutes cs with
    | error e =>
      rw [parts] at read
      cases read
    | ok part =>
      rw [parts] at read
      cases read
      exact minutes_of_readHoursMinutes parts
  unfold readOffset at read
  split at read
  · cases read
  · split at read
    · cases read
      decide
    · split at read
      · exact signed read
      · split at read
        · exact signed read
        · cases read

/-! ### Whole texts -/

/-- What an instant was read from. -/
theorem parse_eq_ok {s : String} {i : Instant} (parsed : parse s = .ok i) :
    ∃ date hour minute second nano afterDate time afterTime zone,
      readDate s.toList = .ok (date, afterDate)
      ∧ oneOf ['T', 't', ' '] afterDate = .ok time
      ∧ readTime time = .ok (hour, minute, second, afterTime)
      ∧ readFraction afterTime = .ok (nano, zone)
      ∧ hour < 24 ∧ minute < 60 ∧ offsetOf zone < 1440
      ∧ i = ofLocal date (60 * hour + minute) second nano (offsetOf zone) := by
  unfold parse at parsed
  -- each test that a text has to pass leaves one fact
  split at parsed
  · cases parsed
  obtain ⟨⟨date, afterDate⟩, readsDate, parsed⟩ := bind_eq_ok parsed
  obtain ⟨time, separator, parsed⟩ := bind_eq_ok parsed
  obtain ⟨⟨hour, minute, second, afterTime⟩, readsTime, parsed⟩ := bind_eq_ok parsed
  obtain ⟨⟨nano, zone⟩, readsFraction, parsed⟩ := bind_eq_ok parsed
  dsimp only at parsed
  split at parsed
  · cases parsed
  next day =>
  obtain ⟨⟨behind, hours, minutes, rest⟩, readsOffset, parsed⟩ := bind_eq_ok parsed
  dsimp only at parsed
  split at parsed
  · cases parsed
  split at parsed
  · cases parsed
  next within =>
  have offset : offsetOf zone
      = if behind then -((60 * hours + minutes : Nat) : Int) else (60 * hours + minutes : Nat) := by
    rw [offsetOf, readsOffset]
  have small := minutes_of_readOffset readsOffset
  refine ⟨date, hour, minute, second, nano, afterDate, time, afterTime, zone, readsDate, separator,
    readsTime, readsFraction, by omega, by omega, ?_, ?_⟩
  · rw [offset]
    split <;> omega
  · rw [offset]
    exact (Except.ok.inj parsed).symm

/-- Texts of instants that agree in what does not follow the order of time:
the separator, the offset, and how many digits their fractions have, unless
the offset begins with a sign that comes before all digits. -/
structure SpelledAlike (s t : String) : Prop where
  separator : (s.toList.drop 10).head? = (t.toList.drop 10).head?
  zone : afterFraction (s.toList.drop 19) = afterFraction (t.toList.drop 19)
  fraction : (afterFraction (s.toList.drop 19)).head? = some '+'
    ∨ (afterFraction (s.toList.drop 19)).head? = some '-'
    ∨ (fractionDigits (s.toList.drop 19)).length = (fractionDigits (t.toList.drop 19)).length

instance (s t : String) : Decidable (SpelledAlike s t) :=
  decidable_of_iff (_ ∧ _ ∧ _) ⟨fun ⟨a, b, c⟩ => ⟨a, b, c⟩, fun ⟨a, b, c⟩ => ⟨a, b, c⟩⟩

namespace SpelledAlike

variable {s t : String}

/-- After the fractions comes what comes before all digits, or the fractions
have equally many. -/
theorem ends (alike : SpelledAlike s t) :
    (∃ c rest, afterFraction (s.toList.drop 19) = c :: rest ∧ c < '.')
      ∨ (fractionDigits (s.toList.drop 19)).length
        = (fractionDigits (t.toList.drop 19)).length := by
  rcases alike.fraction with plus | minus | length
  · obtain ⟨rest, same⟩ := List.head?_eq_some_iff.mp plus
    exact .inl ⟨'+', rest, same, by decide⟩
  · obtain ⟨rest, same⟩ := List.head?_eq_some_iff.mp minus
    exact .inl ⟨'-', rest, same, by decide⟩
  · exact .inr length

end SpelledAlike

/-- The fraction stands behind the date, a separator and the time. -/
theorem atFraction_eq {date : Date} {hour minute second : Nat}
    {allowed afterDate time atFraction : List Char}
    (readsDate : readDate cs = .ok (date, afterDate))
    (separator : oneOf allowed afterDate = .ok time)
    (readsTime : readTime time = .ok (hour, minute, second, atFraction)) :
    atFraction = cs.drop 19 := by
  rw [readTime_drop readsTime, oneOf_drop separator, readDate_drop readsDate, List.drop_drop,
    List.drop_drop]

/-- **Of texts that are spelled alike the first is the earlier instant.** -/
theorem parse_le_of_le {s t : String} {i j : Instant} (left : parse s = .ok i)
    (right : parse t = .ok j) (alike : SpelledAlike s t) (before : s ≤ t) : i ≤ j := by
  obtain ⟨date, hour, minute, second, nano, afterDate, time, afterTime, zone, readsDate, separator,
    readsTime, readsFraction, hours, minutes, offset, rfl⟩ := parse_eq_ok left
  obtain ⟨date', hour', minute', second', nano', afterDate', time', afterTime', zone', readsDate',
    separator', readsTime', readsFraction', hours', minutes', -, rfl⟩ := parse_eq_ok right
  obtain rfl := atFraction_eq readsDate separator readsTime
  obtain rfl := atFraction_eq readsDate' separator' readsTime'
  obtain rfl := (readFraction_eq_ok readsFraction).1
  obtain rfl : _ = zone' := alike.zone.trans (readFraction_eq_ok readsFraction').1
  have sameSeparator : afterDate.head? = afterDate'.head? := by
    rw [readDate_drop readsDate, readDate_drop readsDate', alike.separator]
  -- the order of the local times, before the offset is taken away
  have order : (⟨date, 60 * hour + minute, second, nano⟩ : Instant)
      ≤ ⟨date', 60 * hour' + minute', second', nano'⟩ := by
    rw [le_iff]
    rcases readDate_le readsDate readsDate' (String.le_iff_toList_le.mp before) with
      ahead | ⟨rfl, before⟩
    · exact .inl ahead
    refine .inr ⟨rfl, ?_⟩
    dsimp only
    rcases readTime_le readsTime readsTime' (oneOf_le separator separator' sameSeparator before)
      with ahead | ⟨rfl, ahead | ⟨rfl, ahead | ⟨rfl, before⟩⟩⟩
    · exact .inl (by omega)
    · exact .inl (by omega)
    · exact .inr ⟨rfl, .inl ahead⟩
    · exact .inr ⟨rfl, .inr ⟨rfl, readFraction_le readsFraction readsFraction' before alike.ends⟩⟩
  exact ofLocal_mono order (isValid_of_readDate readsDate) (isValid_of_readDate readsDate')
    (by dsimp only; omega) offset

end Instant

end MediaSearch
