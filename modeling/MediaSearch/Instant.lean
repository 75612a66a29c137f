/-
MediaSearch/Instant.lean

Instants in RFC 3339.

`Instant.parse` reads a local time with its offset and `Instant.render`
writes the same instant in UTC.  Offsets are whole minutes below a day, so
the date moves by a day at most, and the second, which may be a leap second
(60), and its fraction stay as they are.
-/
import MediaSearch.Number.Digits

namespace MediaSearch

/-- A date of the proleptic Gregorian calendar. -/
structure Date where
  year : Int
  month : Nat
  day : Nat
  deriving DecidableEq

namespace Date

/-- Whether a year has a 29th of February. -/
def isLeapYear (year : Int) : Bool :=
  year % 4 = 0 && (year % 100 ≠ 0 || year % 400 = 0)

/-- How many days a month of a year has. -/
def daysInMonth (year : Int) : Nat → Nat
  | 2 => if isLeapYear year then 29 else 28
  | 4 | 6 | 9 | 11 => 30
  | _ => 31

/-- Whether there is such a date. -/
def isValid (d : Date) : Bool :=
  1 ≤ d.month && d.month ≤ 12 && 1 ≤ d.day && d.day ≤ daysInMonth d.year d.month

/-- The day after. -/
def next (d : Date) : Date :=
  if d.day < daysInMonth d.year d.month then { d with day := d.day + 1 }
  else if d.month < 12 then ⟨d.year, d.month + 1, 1⟩
  else ⟨d.year + 1, 1, 1⟩

/-- The day before. -/
def previous (d : Date) : Date :=
  if 1 < d.day then { d with day := d.day - 1 }
  else if 1 < d.month then ⟨d.year, d.month - 1, daysInMonth d.year (d.month - 1)⟩
  else ⟨d.year - 1, 12, 31⟩

end Date

/-- An instant in UTC. -/
structure Instant where
  date : Date
  /-- Minutes since midnight. -/
  minute : Nat
  /-- Up to 60, which is a leap second. -/
  second : Nat
  /-- Billionths of a second. -/
  nano : Nat
  deriving DecidableEq

/-- Why a text is not an instant. -/
inductive InstantFault where
  | premature
  | invalid
  | outOfRange
  | trailing
  deriving DecidableEq

/-- The wording of why a text is no instant. -/
def InstantFault.message : InstantFault → String
  | premature => "premature end of input"
  | invalid => "input contains invalid characters"
  | outOfRange => "input is out of range"
  | trailing => "trailing input"

namespace Instant

/-! ### Reading -/

/-- Two digits of a part whose length has been checked. -/
def twoDigits : List Char → Except InstantFault (Nat × List Char)
  | a :: b :: rest =>
    if a.isDigit && b.isDigit then
      .ok (digitsValue [a, b], rest)
    else .error .invalid
  | _ => .error .invalid

/-- One of the given characters. -/
def oneOf (allowed : List Char) : List Char → Except InstantFault (List Char)
  | c :: rest => if c ∈ allowed then .ok rest else .error .invalid
  | [] => .error .invalid

/-- `dddd-dd-dd`, a date that exists. -/
def readDate (cs : List Char) : Except InstantFault (Date × List Char) := do
  let (century, cs) ← twoDigits cs
  let (year, cs) ← twoDigits cs
  let cs ← oneOf ['-'] cs
  let (month, cs) ← twoDigits cs
  let cs ← oneOf ['-'] cs
  let (day, cs) ← twoDigits cs
  let date : Date := ⟨(100 * century + year : Nat), month, day⟩
  if date.isValid then return (date, cs) else throw .outOfRange

/-- `dd:dd:dd`. -/
def readTime (cs : List Char) : Except InstantFault (Nat × Nat × Nat × List Char) := do
  let (hour, cs) ← twoDigits cs
  let cs ← oneOf [':'] cs
  let (minute, cs) ← twoDigits cs
  let cs ← oneOf [':'] cs
  let (second, cs) ← twoDigits cs
  return (hour, minute, second, cs)

/-- The billionths that digits after a point stand for; digits after the
ninth are dropped. -/
def nanoOf (digits : List Char) : Nat :=
  digitsValue ((digits ++ List.replicate 9 '0').take 9)

/-- A point and digits, if there is a point. -/
def readFraction : List Char → Except InstantFault (Nat × List Char)
  | '.' :: rest =>
    match rest.span Char.isDigit with
    | ([], []) => .error .premature
    | ([], _ :: _) => .error .invalid
    | (digits, rest) => .ok (nanoOf digits, rest)
  | rest => .ok (0, rest)

/-- Two digits where the text may end; what is missing is counted in bytes. -/
def twoOffsetDigits (cs : List Char) : Except InstantFault (Nat × List Char) :=
  if (String.ofList cs).utf8ByteSize < 2 then .error .premature else twoDigits cs

/-- The colon of an offset. -/
def offsetColon : List Char → Except InstantFault (List Char)
  | [] => .error .premature
  | ':' :: rest => .ok rest
  | _ :: _ => .error .invalid

/-- `hh:mm` after a sign: hours, minutes and what follows. -/
def readHoursMinutes (cs : List Char) : Except InstantFault (Nat × Nat × List Char) := do
  let (hours, cs) ← twoOffsetDigits cs
  let cs ← offsetColon cs
  let (minutes, cs) ← twoOffsetDigits cs
  if minutes < 60 then return (hours, minutes, cs) else throw .outOfRange

/-- An offset: whether it is behind UTC, its hours and minutes, and what
follows. -/
def readOffset : List Char → Except InstantFault (Bool × Nat × Nat × List Char)
  | [] => .error .premature
  | c :: rest =>
    if c = 'Z' ∨ c = 'z' then .ok (false, 0, 0, rest)
    else if c = '+' then (readHoursMinutes rest).map (false, ·)
    else if c = '-' ∨ c = '\u2212' then (readHoursMinutes rest).map (true, ·)
    else .error .invalid

/-- The instant at a local time whose offset is `offset` minutes. -/
def ofLocal (date : Date) (minute : Nat) (second nano : Nat) (offset : Int) : Instant :=
  let shifted : Int := minute - offset
  if shifted < 0 then ⟨date.previous, (shifted + 1440).toNat, second, nano⟩
  else if 1440 ≤ shifted then ⟨date.next, (shifted - 1440).toNat, second, nano⟩
  else ⟨date, shifted.toNat, second, nano⟩

/-- Reads an instant, or says what is wrong first. -/
def parse (s : String) : Except InstantFault Instant := do
  if s.utf8ByteSize < 19 then throw .premature
  let (date, cs) ← readDate s.toList
  let cs ← oneOf ['T', 't', ' '] cs
  let (hour, minute, second, cs) ← readTime cs
  let (nano, cs) ← readFraction cs
  if 23 < hour ∨ 59 < minute ∨ 60 < second then throw .outOfRange
  let (behind, hours, minutes, cs) ← readOffset cs
  if !cs.isEmpty then throw .trailing
  if 23 < hours then throw .outOfRange
  -- the hours of an offset are the last thing that can be wrong
  let offset : Int := (60 * hours + minutes : Nat)
  return ofLocal date (60 * hour + minute) second nano (if behind then -offset else offset)

/-! ### Writing -/

/-- A year of four digits, or with its sign one outside them. -/
def renderYear (year : Int) : String :=
  if year < 0 then "-" ++ padded 4 year.natAbs
  else if 9999 < year then "+" ++ padded 5 year.natAbs
  else padded 4 year.natAbs

/-- The fraction with the fewest digits of 0, 3, 6 and 9 that are exact. -/
def renderNano (nano : Nat) : String :=
  if nano = 0 then ""
  else if nano % 1000000 = 0 then "." ++ padded 3 (nano / 1000000)
  else if nano % 1000 = 0 then "." ++ padded 6 (nano / 1000)
  else "." ++ padded 9 nano

/-- The text of an instant, in UTC. -/
def render (i : Instant) : String :=
  renderYear i.date.year ++ "-" ++ padded 2 i.date.month ++ "-" ++ padded 2 i.date.day
    ++ "T" ++ padded 2 (i.minute / 60) ++ ":" ++ padded 2 (i.minute % 60)
    ++ ":" ++ padded 2 i.second ++ renderNano i.nano ++ "Z"

end Instant

end MediaSearch
