/-
MediaSearch/Proofs/Sql/Words.lean

Emitted text, read word by word.

Spaces, commas and parentheses end a word, and the word after `FROM` or
`JOIN` is a table that is read, unless a parenthesis stands there instead
(`tablesIn`).  Outside quotes, each parenthesis that is opened is closed
again (`upToClosing`).

Text is put together from pieces that mean nothing by themselves, so what is
shown of a piece is where a reader has to stand before it, where the reader
stands behind it, and which tables were named on the way (`Span`).  Spans are
closed under putting texts in a row; fixed pieces are checked by evaluation
(`Span.piece`).

Main results: `Phrase.tablesIn_eq`, `Phrase.upToClosing_append`.
-/
import MediaSearch.Proofs.Sql.Arity

namespace MediaSearch.Sql

open Fragment

/-! ### Tables -/

/-- The characters that end a word. -/
def isBreak (c : Char) : Bool :=
  c == ' ' || c == ',' || c == '(' || c == ')'

/-- The words that a table comes after. -/
def takesTable (word : List Char) : Bool :=
  word == ['F', 'R', 'O', 'M'] || word == ['J', 'O', 'I', 'N']

/-- What has been read of a text. -/
structure Reading where
  /-- Whether a table comes next, after the words that are complete. -/
  expected : Bool
  /-- The word that is not complete yet. -/
  word : List Char
  /-- The tables that have been named. -/
  tables : List String
  deriving DecidableEq

namespace Reading

/-- Before anything is read. -/
def start : Reading := ⟨false, [], []⟩

/-- The tables when the word ends. -/
def found (r : Reading) : List String :=
  if r.expected ∧ r.word ≠ [] then r.tables ++ [String.ofList r.word] else r.tables

/-- A character more: it goes on with the word, or ends it and is not part of any. -/
def next (r : Reading) (c : Char) : Reading :=
  if isBreak c then ⟨takesTable r.word, [], r.found⟩
  else { r with word := r.word ++ [c] }

/-- A text more, from left to right. -/
def read (r : Reading) (text : String) : Reading :=
  text.toList.foldl next r

/-- Reading goes on where it has stopped. -/
theorem read_append (r : Reading) (s t : String) : r.read (s ++ t) = (r.read s).read t := by
  rw [read, String.toList_append, List.foldl_append]
  rfl

/-- What has been named before does not matter. -/
theorem foldl_next_tables (r : Reading) (before : List String) (cs : List Char) :
    cs.foldl next { r with tables := before ++ r.tables }
      = { cs.foldl next r with tables := before ++ (cs.foldl next r).tables } := by
  induction cs generalizing r with
  | nil => rfl
  | cons c cs ih =>
    -- tables that were found before do not change what is read now
    have step : next { r with tables := before ++ r.tables } c
        = { next r c with tables := before ++ (next r c).tables } := by
      unfold next found
      split
      · split <;> simp
      · rfl
    rw [List.foldl_cons, List.foldl_cons, step, ih (next r c)]

end Reading

/-- The tables that a text names, from first to last. -/
def tablesIn (text : String) : List String :=
  (Reading.start.read text).found

/-! ### Parentheses -/

/-- The number of parentheses that are open after a character. -/
def nextDepth (quote : Option Char) (depth : Nat) (c : Char) : Nat :=
  if quote = none ∧ c = '(' then depth + 1
  else if quote = none ∧ c = ')' then depth - 1
  else depth

/-- Whether a character closes a parenthesis that was opened before the text. -/
def Closes (quote : Option Char) (depth : Nat) (c : Char) : Prop :=
  quote = none ∧ c = ')' ∧ depth = 0

instance (quote : Option Char) (depth : Nat) (c : Char) : Decidable (Closes quote depth c) :=
  inferInstanceAs (Decidable (_ ∧ _))

/-- The characters up to the parenthesis that closes one opened before, and
the characters after it, a quote and further parentheses being open. -/
def upToClosing (quote : Option Char) (depth : Nat) :
    List Char → Option (List Char × List Char)
  | [] => none
  | c :: cs =>
    if Closes quote depth c then some ([], cs)
    else
      (upToClosing (nextQuote quote c) (nextDepth quote depth c) cs).map
        fun (inner, after) => (c :: inner, after)

/-- The quote and the number of parentheses that are open after some
characters, if none is closed that was opened before. -/
def nest (quote : Option Char) (depth : Nat) : List Char → Option (Option Char × Nat)
  | [] => some (quote, depth)
  | c :: cs =>
    if Closes quote depth c then none
    else nest (nextQuote quote c) (nextDepth quote depth c) cs

section Nest

variable {quote quote' : Option Char} {depth depth' : Nat} {cs : List Char}

theorem nest_append (nested : nest quote depth cs = some (quote', depth')) (rest : List Char) :
    nest quote depth (cs ++ rest) = nest quote' depth' rest := by
  induction cs generalizing quote depth with
  | nil =>
    obtain ⟨rfl, rfl⟩ := Prod.mk.inj (Option.some.inj nested)
    rfl
  | cons c cs ih =>
    rw [nest] at nested
    rw [List.cons_append, nest]
    split at nested
    · cases nested
    · next stays => rw [if_neg stays, ih nested]

/-- More open parentheses stay open. -/
theorem nest_add (nested : nest quote depth cs = some (quote', depth')) (more : Nat) :
    nest quote (more + depth) cs = some (quote', more + depth') := by
  induction cs generalizing quote depth with
  | nil =>
    obtain ⟨rfl, rfl⟩ := Prod.mk.inj (Option.some.inj nested)
    rfl
  | cons c cs ih =>
    rw [nest] at nested
    split at nested
    · cases nested
    · next stays =>
      -- with more around it a parenthesis closes nothing that it did not close before
      have stays' : ¬Closes quote (more + depth) c := fun closes =>
        stays ⟨closes.1, closes.2.1, Nat.eq_zero_of_add_eq_zero_left closes.2.2⟩
      have deeper : nextDepth quote (more + depth) c = more + nextDepth quote depth c := by
        unfold nextDepth
        unfold Closes at stays
        grind
      rw [nest, if_neg stays', deeper, ih nested]

/-- Characters whose parentheses are closed again are left behind. -/
theorem upToClosing_append (nested : nest quote depth cs = some (quote', depth'))
    (rest : List Char) :
    upToClosing quote depth (cs ++ rest)
      = (upToClosing quote' depth' rest).map fun (inner, after) => (cs ++ inner, after) := by
  induction cs generalizing quote depth with
  | nil =>
    obtain ⟨rfl, rfl⟩ := Prod.mk.inj (Option.some.inj nested)
    simp
  | cons c cs ih =>
    rw [nest] at nested
    split at nested
    · cases nested
    · next stays =>
      rw [List.cons_append, upToClosing, if_neg stays, ih nested, Option.map_map]
      rfl

end Nest

/-! ### Spans -/

/-- Where a reader stands in a text. -/
inductive Place where
  /-- Before a word that is no table. -/
  | word
  /-- Before a table. -/
  | table
  /-- Behind a word. -/
  | stop
  deriving DecidableEq

namespace Place

/-- Whether a reader stands there. -/
def Holds : Place → Reading → Prop
  | word, r => r.expected = false ∧ r.word = []
  | table, r => r.expected = true ∧ r.word = []
  | stop, r => takesTable r.word = false

/-- A reader that has read nothing else. -/
def reading : Place → Reading
  | word | stop => ⟨false, [], []⟩
  | table => ⟨true, [], []⟩

end Place

/-- Whether a text takes a reader from one place to another, past some tables,
and from a number of open parentheses to another. -/
structure Span (p : Place) (depth : Nat) (text : String) (tables : List String) (q : Place)
    (depth' : Nat) : Prop where
  reads : ∀ r, p.Holds r → q.Holds (r.read text) ∧ (r.read text).found = r.found ++ tables
  nests : nest none depth text.toList = some (none, depth')

/-- A text that can stand wherever a word can. -/
def Phrase (text : String) (tables : List String) : Prop :=
  ∀ depth, Span .word depth text tables .stop depth

namespace Span

variable {p q o : Place} {depth depth' depth'' : Nat} {s t : String} {tables others : List String}

/-- Spans can be put one after the other if the second starts in the place
where the first ends. -/
theorem append (left : Span p depth s tables q depth') (right : Span q depth' t others o depth'') :
    Span p depth (s ++ t) (tables ++ others) o depth'' where
  reads := by
    intro r holds
    obtain ⟨middle, first⟩ := left.reads r holds
    obtain ⟨stop, second⟩ := right.reads _ middle
    rw [Reading.read_append, second, first, List.append_assoc]
    exact ⟨stop, rfl⟩
  nests := by
    rw [String.toList_append, nest_append left.nests, right.nests]

/-- Text without tables behind a text. -/
theorem followed (left : Span p depth s tables q depth') (right : Span q depth' t [] o depth'') :
    Span p depth (s ++ t) tables o depth'' :=
  List.append_nil tables ▸ left.append right

theorem nil (p : Place) (depth : Nat) : Span p depth "" [] p depth where
  reads := fun _ holds => ⟨holds, (List.append_nil _).symm⟩
  nests := rfl

/-- Where a word can stand nothing need stand. -/
theorem toStop (span : Span p depth s tables .word depth') :
    Span p depth s tables .stop depth' where
  reads := by
    intro r holds
    obtain ⟨⟨-, empty⟩, found⟩ := span.reads r holds
    refine ⟨?_, found⟩
    show takesTable _ = false
    rw [empty]
    rfl
  nests := span.nests

end Span

/-! ### Fixed pieces -/

/-- Whether a text without tables takes every reader from one place to
another, and opens some parentheses that it does not close. -/
def isPiece (p : Place) (text : String) (q : Place) (opened : Nat) : Bool :=
  let r := p.reading.read text
  (p != .stop || text.toList.head?.any isBreak) && r.tables == []
    && (match q with
      | .word => !r.expected && r.word == []
      | .table => r.expected && r.word == []
      | .stop => !r.expected && !takesTable r.word)
    && nest none 0 text.toList == some (none, opened)

namespace Place

variable {p : Place} {r : Reading} {text : String}

/-- A reader who stands somewhere reads on as one who has read nothing else. -/
theorem read_eq (holds : p.Holds r)
    (starts : p ≠ .stop ∨ text.toList.head?.any isBreak = true) :
    r.read text
      = { p.reading.read text with tables := r.found ++ (p.reading.read text).tables } := by
  have frame := Reading.foldl_next_tables p.reading r.found text.toList
  refine Eq.trans ?_ frame
  obtain ⟨expected, word, tables⟩ := r
  cases p with
  | word =>
    obtain ⟨rfl, rfl⟩ : expected = false ∧ word = [] := holds
    simp [Reading.read, Reading.found, reading]
  | table =>
    obtain ⟨rfl, rfl⟩ : expected = true ∧ word = [] := holds
    simp [Reading.read, Reading.found, reading]
  | stop =>
    -- the first character ends the word, whatever it is
    have complete : takesTable word = false := holds
    have breaks := starts.resolve_left fun no => no rfl
    rw [Reading.read]
    cases chars : text.toList with
    | nil => simp [chars] at breaks
    | cons c cs =>
      rw [chars] at breaks
      have first : isBreak c = true := breaks
      have none : takesTable [] = false := rfl
      simp [Reading.next, first, complete, none, Reading.found, reading]

end Place

namespace Span

variable {p q : Place} {text : String} {opened : Nat}

theorem of_isPiece (piece : isPiece p text q opened = true) (depth : Nat) :
    Span p depth text [] q (depth + opened) := by
  simp only [isPiece, Bool.and_eq_true, Bool.or_eq_true, bne_iff_ne, beq_iff_eq] at piece
  obtain ⟨⟨⟨starts, none⟩, place⟩, nested⟩ := piece
  refine ⟨?_, nest_add nested depth⟩
  intro r holds
  rw [Place.read_eq holds starts, none]
  cases q <;> simp_all [Place.Holds, Reading.found]

/-- A text that closes what it opens. -/
theorem piece (piece : isPiece p text q 0 = true) (depth : Nat) :
    Span p depth text [] q depth :=
  of_isPiece piece depth

/-- A text that opens a parenthesis. -/
theorem opening (piece : isPiece p text q 1 = true) (depth : Nat) :
    Span p depth text [] q (depth + 1) :=
  of_isPiece piece depth

/-- The parenthesis that closes what was opened. -/
theorem closing (depth : Nat) : Span .stop (depth + 1) ")" [] .stop depth where
  reads := by
    intro r holds
    have complete : takesTable r.word = false := holds
    simp [Reading.read, Reading.next, isBreak, complete, Place.Holds, Reading.found]
    decide
  nests := by
    simp [nest, Closes, nextDepth, nextQuote]

end Span

/-! ### Names -/

/-- The characters that neither end a word nor open a quote. -/
def isLetter (c : Char) : Bool :=
  !isBreak c && nextQuote none c == none

/-- Whether a text is one word, and none that a table comes after. -/
def isWord (text : String) : Bool :=
  text.toList != [] && text.toList.all isLetter && !takesTable text.toList

theorem foldl_next_letters (r : Reading) {cs : List Char} (letters : cs.all isLetter = true) :
    cs.foldl Reading.next r = { r with word := r.word ++ cs } := by
  induction cs generalizing r with
  | nil => simp
  | cons c cs ih =>
    rw [List.all_cons, Bool.and_eq_true] at letters
    have whole : isBreak c = false := by
      have letter := letters.1
      rw [isLetter, Bool.and_eq_true, Bool.not_eq_true'] at letter
      exact letter.1
    have step : r.next c = { r with word := r.word ++ [c] } := by
      rw [Reading.next, whole]
      rfl
    rw [List.foldl_cons, step, ih _ letters.2, List.append_assoc]
    rfl

theorem nest_letters (depth : Nat) {cs : List Char} (letters : cs.all isLetter = true) :
    nest none depth cs = some (none, depth) := by
  induction cs with
  | nil => rfl
  | cons c cs ih =>
    rw [List.all_cons, Bool.and_eq_true] at letters
    obtain ⟨letter, rest⟩ := letters
    rw [isLetter, Bool.and_eq_true, Bool.not_eq_true', beq_iff_eq] at letter
    have opens : c ≠ '(' := by
      rintro rfl
      exact absurd letter.1 (by decide)
    have closes : c ≠ ')' := by
      rintro rfl
      exact absurd letter.1 (by decide)
    have same : nextDepth none depth c = depth := by simp [nextDepth, opens, closes]
    rw [nest, if_neg fun closed => closes closed.2.1, letter.2, same, ih rest]

theorem letters_toDigits (n : Nat) : (Nat.toDigits 10 n).all isLetter = true := by
  rw [List.all_eq_true]
  intro c there
  have digit : c.isDigit = true := Nat.isDigit_of_mem_toDigits (by decide) (by decide) there
  have apart (d : Char) (other : d.isDigit = false) : c ≠ d := by
    rintro rfl
    rw [digit] at other
    cases other
  simp [isLetter, isBreak, nextQuote, apart ' ' (by decide), apart ',' (by decide),
    apart '(' (by decide), apart ')' (by decide), apart '\'' (by decide), apart '"' (by decide)]

/-- Letters that do not start as the words before tables do are a word. -/
theorem isWord_of_head {text : String} {c : Char} {cs : List Char} (chars : text.toList = c :: cs)
    (letters : (c :: cs).all isLetter = true) (first : c ≠ 'F' ∧ c ≠ 'J') :
    isWord text = true := by
  rw [isWord, chars, letters]
  simp [takesTable, first]

/-- Digits are a word. -/
theorem isWord_toString (n : Nat) : isWord (toString n) = true := by
  obtain ⟨c, cs, digits⟩ := List.exists_cons_of_ne_nil (Nat.toDigits_ne_nil (n := n) (b := 10))
  have digit : c.isDigit = true := by
    refine Nat.isDigit_of_mem_toDigits (n := n) (b := 10) (by decide) (by decide) ?_
    exact digits ▸ List.mem_cons_self
  refine isWord_of_head ((toList_toString_nat n).trans digits) (digits ▸ letters_toDigits n) ?_
  constructor
  · rintro rfl
    exact absurd digit (by decide)
  · rintro rfl
    exact absurd digit (by decide)

/-- A word with a dot in it. -/
theorem isWord_dotted {s t : String} (left : isWord s = true)
    (right : t.toList.all isLetter = true) : isWord (s ++ "." ++ t) = true := by
  rw [isWord, Bool.and_eq_true, Bool.and_eq_true] at left
  have chars : (s ++ "." ++ t).toList = s.toList ++ '.' :: t.toList := by
    simp [String.toList_append]
  have dot : isLetter '.' = true := by decide
  -- no keyword has a dot in it
  have keyword : takesTable (s.toList ++ '.' :: t.toList) = false := by
    have within : '.' ∈ s.toList ++ '.' :: t.toList := by simp
    rw [takesTable, Bool.or_eq_false_iff, beq_eq_false_iff_ne, beq_eq_false_iff_ne]
    constructor
    · intro same
      exact absurd (same ▸ within) (by decide)
    · intro same
      exact absurd (same ▸ within) (by decide)
  rw [isWord, chars, keyword, List.all_append, List.all_cons, left.1.2, dot, right]
  simp

namespace Span

variable {name : String}

/-- A word names nothing but itself. -/
theorem word (name_isWord : isWord name = true) (depth : Nat) :
    Span .word depth name [] .stop depth := by
  rw [isWord, Bool.and_eq_true, Bool.and_eq_true, Bool.not_eq_true'] at name_isWord
  obtain ⟨⟨-, letters⟩, keyword⟩ := name_isWord
  refine ⟨?_, nest_letters depth letters⟩
  intro r holds
  rw [Reading.read, foldl_next_letters r letters]
  obtain ⟨expected, before, tables⟩ := r
  obtain ⟨rfl, rfl⟩ : expected = false ∧ before = [] := holds
  refine ⟨keyword, ?_⟩
  simp [Reading.found]

/-- A word in the place of a table is a table. -/
theorem table (name_isWord : isWord name = true) (depth : Nat) :
    Span .table depth name [name] .stop depth := by
  rw [isWord, Bool.and_eq_true, Bool.and_eq_true, Bool.not_eq_true', bne_iff_ne] at name_isWord
  obtain ⟨⟨some, letters⟩, keyword⟩ := name_isWord
  refine ⟨?_, nest_letters depth letters⟩
  intro r holds
  rw [Reading.read, foldl_next_letters r letters]
  obtain ⟨expected, before, tables⟩ := r
  obtain ⟨rfl, rfl⟩ : expected = true ∧ before = [] := holds
  refine ⟨keyword, ?_⟩
  rw [Reading.found, if_pos ⟨rfl, some⟩]
  simp [Reading.found]

end Span

theorem phrase_word {name : String} (name_isWord : isWord name = true) : Phrase name [] :=
  Span.word name_isWord

/-! ### Phrases -/

namespace Phrase

variable {text : String} {tables : List String}

/-- **The tables of a phrase are those it names.** -/
theorem tablesIn_eq (phrase : Phrase text tables) : tablesIn text = tables :=
  ((phrase 0).reads .start ⟨rfl, rfl⟩).2

-- a query in parentheses is no table, but the tables in it are
example : tablesIn "SELECT id FROM (SELECT id FROM items JOIN files ON (a = b)) AS x"
    = ["items", "files"] := by
  decide +kernel

/-- **A phrase closes the parentheses it opens**, so one that was opened
before is closed behind it. -/
theorem upToClosing_append (phrase : Phrase text tables) (rest : List Char) :
    upToClosing none 0 (text.toList ++ ')' :: rest) = some (text.toList, rest) := by
  rw [Sql.upToClosing_append (phrase 0).nests]
  simp [upToClosing, Closes]

end Phrase

end MediaSearch.Sql
