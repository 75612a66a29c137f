/-
MediaSearch/Json/Reader.lean

Reading JSON text.

Each reader returns what it found and, unless it had to stop, the characters
after it.  A reader that stops puts `Json.broken` where it stopped; the
readers around it stop as well, so that what they return ends there.

Reading is lenient about what can be passed over (numbers out of range,
unpaired surrogates); `Json` marks these.
-/
import MediaSearch.Json.Basic
import MediaSearch.Number.Digits
import MediaSearch.Number.Literal

namespace MediaSearch.Json

/-- The four characters that may stand between tokens. -/
def isSpace (c : Char) : Bool :=
  c == ' ' || c == '\n' || c == '\t' || c == '\r'

/-- What follows after white space. -/
def skipSpace (cs : List Char) : List Char :=
  cs.dropWhile isSpace

/-- What follows `word`, if the text starts with it. -/
def afterWord? : (word text : List Char) → Option (List Char)
  | [], rest => some rest
  | c :: word, d :: rest => if c = d then afterWord? word rest else none
  | _ :: _, [] => none

/-! ### Numbers -/

/-- The digits at the start of a text and what follows them. -/
def spanDigits (cs : List Char) : List Char × List Char :=
  cs.span Char.isDigit

/-- At least one digit, and what follows. -/
def someDigits? (cs : List Char) : Option (List Char × List Char) :=
  match spanDigits cs with
  | ([], _) => none
  | found => some found

/-- The digits of a whole part: no leading zero but for zero itself. -/
def wholePart? (cs : List Char) : Option (List Char × List Char) :=
  match someDigits? cs with
  | some ('0' :: _ :: _, _) => none
  | found => found

/-- The digits after a point, if there is one. -/
def fractionPart? : List Char → Option (List Char × List Char)
  | '.' :: rest => someDigits? rest
  | rest => some ([], rest)

/-- The exponent, if there is one. -/
def exponentPart? : List Char → Option (Option Int × List Char)
  | [] => some (none, [])
  | c :: rest =>
    if c = 'e' ∨ c = 'E' then
      let (negative, rest) := match rest with
        | '+' :: rest => (false, rest)
        | '-' :: rest => (true, rest)
        | rest => (false, rest)
      (someDigits? rest).map fun (digits, rest) =>
        let n : Int := digitsValue digits
        (some (if negative then -n else n), rest)
    else some (none, c :: rest)

/-- The value of a literal.  Without a fraction and an exponent it is whole
if it lies in the range of the whole numbers and is not `-0`. -/
def numberValue (negative : Bool) (whole fraction : List Char) (exponent : Option Int) :
    Option Number :=
  let n := digitsValue whole
  if fraction.isEmpty ∧ exponent = none ∧
      (if negative then 0 < n ∧ Int64.minValue.toInt ≤ -n else n < UInt64.size) then
    some (.int (if negative then -n else n))
  else (Binary64.ofLiteral? negative whole fraction (exponent.getD 0)).map .float

/-- A number, after its sign. -/
def readNumber (negative : Bool) (cs : List Char) : Json × Option (List Char) :=
  match wholePart? cs with
  | none => (.broken, none)
  | some (whole, rest) =>
    match fractionPart? rest with
    | none => (.broken, none)
    | some (fraction, rest) =>
      match exponentPart? rest with
      | none => (.broken, none)
      | some (exponent, rest) =>
        (.number (numberValue negative whole fraction exponent), some rest)

/-! ### Strings -/

/-- The value of a hexadecimal digit of either case. -/
def hexValue? (c : Char) : Option Nat :=
  if '0' ≤ c ∧ c ≤ '9' then some (c.toNat - '0'.toNat)
  else if 'a' ≤ c ∧ c ≤ 'f' then some (c.toNat - 'a'.toNat + 10)
  else if 'A' ≤ c ∧ c ≤ 'F' then some (c.toNat - 'A'.toNat + 10)
  else none

/-- The code unit that four hexadecimal digits stand for. -/
def hexUnit? (a b c d : Char) : Option Nat := do
  return 0x1000 * (← hexValue? a) + 0x100 * (← hexValue? b) + 0x10 * (← hexValue? c)
    + (← hexValue? d)

/-- The character an escape letter stands for. -/
def escaped? : Char → Option Char
  | '"' => some '"'
  | '\\' => some '\\'
  | '/' => some '/'
  | 'b' => some '\x08'
  | 'f' => some '\x0c'
  | 'n' => some '\n'
  | 'r' => some '\r'
  | 't' => some '\t'
  | _ => none

/-- One unit of a string as it is written. -/
inductive CodeUnit where
  | char (c : Char)
  /-- A 16-bit unit, from a `\u` escape. -/
  | code (n : Nat)
  deriving DecidableEq

/-- The units of a string up to its closing quote, and what follows it. -/
def readUnits : List Char → Option (List CodeUnit × List Char)
  | [] => none
  | '"' :: rest => some ([], rest)
  | '\\' :: 'u' :: a :: b :: c :: d :: rest => do
    let n ← hexUnit? a b c d
    let (units, rest) ← readUnits rest
    return (.code n :: units, rest)
  | '\\' :: c :: rest => do
    let c ← escaped? c
    let (units, rest) ← readUnits rest
    return (.char c :: units, rest)
  | c :: rest =>
    if c.toNat < 0x20 then none else do
      let (units, rest) ← readUnits rest
      return (.char c :: units, rest)

/-- Whether a code unit is the first of a pair. -/
def isHighSurrogate (n : Nat) : Bool := 0xd800 ≤ n && n < 0xdc00

/-- Whether a code unit is the second of a pair. -/
def isLowSurrogate (n : Nat) : Bool := 0xdc00 ≤ n && n < 0xe000

/-- The text the units spell, unless a surrogate is unpaired. -/
def unitsText : List CodeUnit → Option (List Char)
  | [] => some []
  | .char c :: units => (unitsText units).map (c :: ·)
  | .code n :: .code m :: units =>
    -- two surrogates in their order spell one character above the first plane
    if isHighSurrogate n then
      if isLowSurrogate m then
        (unitsText units).map
          (Char.ofNat (0x10000 + (n - 0xd800) * 0x400 + (m - 0xdc00)) :: ·)
      else none
    else if isLowSurrogate n then none
    else (unitsText (.code m :: units)).map (Char.ofNat n :: ·)
  | .code n :: units =>
    if isHighSurrogate n || isLowSurrogate n then none
    else (unitsText units).map (Char.ofNat n :: ·)

/-- A string, after its opening quote. -/
def readString (cs : List Char) : Json × Option (List Char) :=
  match readUnits cs with
  | none => (.broken, none)
  | some (units, rest) => (.string ((unitsText units).map String.ofList), some rest)

/-! ### Values -/

/-- A word that is a value by itself. -/
def readWord (word : String) (value : Json) (cs : List Char) : Json × Option (List Char) :=
  match afterWord? word.toList cs with
  | some rest => (value, some rest)
  | none => (.broken, none)

/-- The key a value makes. -/
def Key.ofJson : Json → Key
  | .string (some s) => .name s
  | _ => .unkept

mutual

/-- A value.  `fuel` bounds the calls; twice the number of characters is
enough, since of two calls one inside the other at least one takes a
character. -/
def readValue : (fuel : Nat) → List Char → Json × Option (List Char)
  | 0, _ => (.broken, none)
  | fuel + 1, cs =>
    match skipSpace cs with
    | '"' :: rest => readString rest
    | '-' :: rest => readNumber true rest
    | '[' :: rest =>
      match skipSpace rest with
      | ']' :: rest => (.array [], some rest)
      | rest =>
        let (items, after) := readItems fuel rest
        (.array items, after)
    | '{' :: rest =>
      match skipSpace rest with
      | '}' :: rest => (.object [], some rest)
      | rest =>
        let (members, after) := readMembers fuel rest
        (.object members, after)
    | 'n' :: rest => readWord "ull" .null rest
    | 't' :: rest => readWord "rue" (.bool true) rest
    | 'f' :: rest => readWord "alse" (.bool false) rest
    | rest => readNumber false rest

/-- The items of an array up to its closing bracket. -/
def readItems : (fuel : Nat) → List Char → List Json × Option (List Char)
  | 0, _ => ([.broken], none)
  | fuel + 1, cs =>
    match readValue fuel cs with
    | (item, none) => ([item], none)
    | (item, some rest) =>
      match skipSpace rest with
      | ']' :: rest => ([item], some rest)
      | ',' :: rest =>
        let (items, after) := readItems fuel rest
        (item :: items, after)
      | _ => ([item, .broken], none)

/-- The members of an object up to its closing brace. -/
def readMembers : (fuel : Nat) → List Char → List (Key × Json) × Option (List Char)
  | 0, _ => ([(.unkept, .broken)], none)
  | fuel + 1, cs =>
    match skipSpace cs with
    | '"' :: rest =>
      match readString rest with
      | (key, none) => ([(Key.ofJson key, .broken)], none)
      | (key, some rest) =>
        match skipSpace rest with
        | ':' :: rest =>
          match readValue fuel rest with
          | (value, none) => ([(Key.ofJson key, value)], none)
          | (value, some rest) =>
            match skipSpace rest with
            | '}' :: rest => ([(Key.ofJson key, value)], some rest)
            | ',' :: rest =>
              let (members, after) := readMembers fuel rest
              ((Key.ofJson key, value) :: members, after)
            | _ => ([(Key.ofJson key, value), (.unkept, .broken)], none)
        | _ => ([(Key.ofJson key, .broken)], none)
    | _ => ([(.unkept, .broken)], none)

end

/-- A text: its value, and whether more than white space follows it. -/
structure Document where
  root : Json
  trailing : Bool

/-- Reads a text. -/
def Document.read (s : String) : Document :=
  match readValue (2 * s.length + 1) s.toList with
  | (root, none) => ⟨root, false⟩
  | (root, some rest) => ⟨root, !(skipSpace rest).isEmpty⟩

/-- The value of a text that is JSON from end to end. -/
def ofText? (s : String) : Option Json :=
  let document := Document.read s
  if document.root.wellFormed && !document.trailing then some document.root else none

end MediaSearch.Json
