/-
MediaSearch/Proofs/Sql/Lexing.lean

Placeholders are counted as a lexer finds them.

A lexer reads a literal or an identifier as one lexeme, from a quote to the
first closing one that is not doubled, or to the end of the text; a quote
that is doubled inside stands for itself.  The scanner that counts
placeholders knows nothing of pairs.  It remembers which quote is open, so
the first of two quotes ends a quoted part for it and the second starts the
next.  After the pair both are inside the same quotes again, and a single
closing quote ends both, so the scanner comes out of the quotes where the
lexeme ends (`countFrom_char`).

What a lexer does is said by rules for lists of lexemes (`Lexed`).  Each text
is spelled by one list that keeps the rules, and the lexer finds it
(`lex_eq_iff`).

Main result: `placeholderCount_eq_count`.
-/
import MediaSearch.Sql.Fragment

namespace MediaSearch.Sql

/-! ### Quotes -/

/-- What a quote may open. -/
inductive Quote where
  | literal
  | identifier
  deriving DecidableEq

namespace Quote

/-- The character that opens and closes a quote. -/
def char : Quote → Char
  | literal => '\''
  | identifier => '"'

/-- The quote that a character is. -/
def ofChar? (c : Char) : Option Quote :=
  if c = '\'' then some literal else if c = '"' then some identifier else none

theorem ofChar?_eq_some_iff {c : Char} {q : Quote} : ofChar? c = some q ↔ c = q.char := by
  unfold ofChar?
  constructor
  · intro found
    split at found
    · next same => cases found; exact same
    · split at found
      · next same => cases found; exact same
      · cases found
  · rintro rfl
    cases q <;> rfl

@[simp] theorem ofChar?_char (q : Quote) : ofChar? q.char = some q :=
  ofChar?_eq_some_iff.mpr rfl

/-- A quote is no placeholder. -/
theorem char_ne_placeholder (q : Quote) : q.char ≠ '?' := by
  cases q <;> decide

/-- Quoted characters as they are written: the quote itself is doubled. -/
def written (q : Quote) (content : List Char) : List Char :=
  content.flatMap fun c => if c = q.char then [c, c] else [c]

/-- A quote inside itself is written twice. -/
theorem written_cons_char (q : Quote) (content : List Char) :
    q.written (q.char :: content) = q.char :: q.char :: q.written content := by
  simp [written]

theorem written_cons_of_ne {q : Quote} {c : Char} (inside : c ≠ q.char) (content : List Char) :
    q.written (c :: content) = c :: q.written content := by
  simp [written, inside]

end Quote

/-! ### Lexemes -/

/-- A part of a statement as the quotes in it divide it. -/
inductive Lexeme where
  | placeholder
  /-- A character outside quotes that is no placeholder. -/
  | other (c : Char)
  /-- What stands between quotes; the closing quote may be missing. -/
  | quoted (q : Quote) (content : List Char) (closed : Bool)
  deriving DecidableEq

/-- The characters of a lexeme. -/
def Lexeme.spelling : Lexeme → List Char
  | placeholder => ['?']
  | other c => [c]
  | quoted q content closed => q.char :: (q.written content ++ if closed then [q.char] else [])

/-- The text of lexemes. -/
def spell (lexemes : List Lexeme) : List Char :=
  lexemes.flatMap Lexeme.spelling

/-- Whether lexemes keep the rules: characters outside quotes are no quotes,
a closing quote is not followed by the same quote, and one is missing at the
end of a text only. -/
inductive Lexed : List Lexeme → Prop
  | nil : Lexed []
  | placeholder {rest : List Lexeme} (after : Lexed rest) : Lexed (.placeholder :: rest)
  | other {c : Char} {rest : List Lexeme} (noQuote : Quote.ofChar? c = none) (noMark : c ≠ '?')
      (after : Lexed rest) : Lexed (.other c :: rest)
  | closed {q : Quote} {content : List Char} {rest : List Lexeme}
      (undoubled : (spell rest).head? ≠ some q.char) (after : Lexed rest) :
      Lexed (.quoted q content true :: rest)
  | unclosed (q : Quote) (content : List Char) : Lexed [.quoted q content false]

/-! ### The lexer -/

/-- What is read after an opening quote. -/
structure QuotedPart where
  content : List Char
  closed : Bool
  rest : List Char

/-- A part with one more character at its start. -/
def QuotedPart.cons (c : Char) (part : QuotedPart) : QuotedPart :=
  { part with content := c :: part.content }

/-- Reads up to the first closing quote that is not doubled, or to the end. -/
def readQuoted (q : Quote) : List Char → QuotedPart
  | [] => ⟨[], false, []⟩
  | c :: cs =>
    if c = q.char then
      if cs.head? = some q.char then (readQuoted q cs.tail).cons c else ⟨[], true, cs⟩
    else (readQuoted q cs).cons c
termination_by cs => cs.length
decreasing_by
  · simp only [List.length_tail, List.length_cons]
    omega
  · exact Nat.lt_succ_self _

theorem length_rest_le (q : Quote) (cs : List Char) :
    (readQuoted q cs).rest.length ≤ cs.length := by
  fun_induction readQuoted q cs with
  | case1 => exact Nat.le_refl 0
  | case2 cs _ ih =>
    rw [List.length_tail] at ih
    simp only [QuotedPart.cons, List.length_cons]
    omega
  | case3 cs _ => exact Nat.le_succ _
  | case4 c cs _ ih => exact Nat.le_succ_of_le ih

/-- The lexemes of a text. -/
def lex : List Char → List Lexeme
  | [] => []
  | c :: cs =>
    match Quote.ofChar? c with
    | some q =>
      let part := readQuoted q cs
      .quoted q part.content part.closed :: lex part.rest
    | none => if c = '?' then .placeholder :: lex cs else .other c :: lex cs
termination_by cs => cs.length
decreasing_by
  · exact Nat.lt_succ_of_le (length_rest_le q cs)
  all_goals exact Nat.lt_succ_self _

/-! ### Quoted parts -/

/-- A quoted part is written with the characters that it was read from. -/
theorem written_readQuoted (q : Quote) (cs : List Char) :
    q.written (readQuoted q cs).content
        ++ ((if (readQuoted q cs).closed then [q.char] else []) ++ (readQuoted q cs).rest)
      = cs := by
  fun_induction readQuoted q cs with
  | case1 => rfl
  | case2 cs doubled ih =>
    obtain ⟨cs, rfl⟩ := List.head?_eq_some_iff.mp doubled
    rw [List.tail_cons] at ih ⊢
    rw [QuotedPart.cons, Quote.written_cons_char, List.cons_append, List.cons_append, ih]
  | case3 cs _ => rfl
  | case4 c cs inside ih =>
    rw [QuotedPart.cons, Quote.written_cons_of_ne inside, List.cons_append, ih]

/-- A closing quote is not doubled, and without one nothing is left. -/
theorem end_readQuoted (q : Quote) (cs : List Char) :
    if (readQuoted q cs).closed then (readQuoted q cs).rest.head? ≠ some q.char
    else (readQuoted q cs).rest = [] := by
  fun_induction readQuoted q cs with
  | case1 => rfl
  | case2 _ _ ih => exact ih
  | case3 _ undoubled => exact undoubled
  | case4 _ _ _ ih => exact ih

/-- What was written is read, up to a closing quote that is not doubled. -/
theorem readQuoted_closed {q : Quote} {rest : List Char} (undoubled : rest.head? ≠ some q.char)
    (content : List Char) :
    readQuoted q (q.written content ++ q.char :: rest) = ⟨content, true, rest⟩ := by
  induction content with
  | nil =>
    show readQuoted q (q.char :: rest) = _
    rw [readQuoted, if_pos rfl, if_neg undoubled]
  | cons c content ih =>
    -- a quote in the contents is written twice and read as one
    by_cases same : c = q.char
    · subst same
      rw [Quote.written_cons_char, List.cons_append, List.cons_append, readQuoted, if_pos rfl,
        List.head?_cons, if_pos rfl, List.tail_cons, ih, QuotedPart.cons]
    · rw [Quote.written_cons_of_ne same, List.cons_append, readQuoted, if_neg same, ih,
        QuotedPart.cons]

/-- What was written is read, up to the end. -/
theorem readQuoted_unclosed (q : Quote) (content : List Char) :
    readQuoted q (q.written content) = ⟨content, false, []⟩ := by
  induction content with
  | nil =>
    show readQuoted q [] = _
    rw [readQuoted]
  | cons c content ih =>
    by_cases same : c = q.char
    · subst same
      rw [Quote.written_cons_char, readQuoted, if_pos rfl,
        List.head?_cons, if_pos rfl, List.tail_cons, ih, QuotedPart.cons]
    · rw [Quote.written_cons_of_ne same, readQuoted, if_neg same, ih, QuotedPart.cons]

/-! ### Lexing -/

/-- An opening quote takes what belongs to it, up to the closing one. -/
theorem lex_char (q : Quote) (cs : List Char) :
    lex (q.char :: cs) = .quoted q (readQuoted q cs).content (readQuoted q cs).closed
      :: lex (readQuoted q cs).rest := by
  rw [lex, Quote.ofChar?_char]

/-- **The lexemes of a text spell it.** -/
theorem spell_lex (cs : List Char) : spell (lex cs) = cs := by
  fun_induction lex cs with
  | case1 => rfl
  | case2 c cs q quote part ih =>
    obtain rfl := Quote.ofChar?_eq_some_iff.mp quote
    rw [spell, List.flatMap_cons, ← spell, ih, Lexeme.spelling, List.cons_append,
      List.append_assoc, written_readQuoted]
  | case3 cs _ ih => exact congrArg ('?' :: ·) ih
  | case4 c cs _ _ ih => exact congrArg (c :: ·) ih

/-- The lexemes of a text keep the rules. -/
theorem lexed_lex (cs : List Char) : Lexed (lex cs) := by
  fun_induction lex cs with
  | case1 => exact .nil
  | case2 c cs q _ part ih =>
    have ending : if part.closed then part.rest.head? ≠ some q.char else part.rest = [] :=
      end_readQuoted q cs
    cases closed : part.closed with
    | true =>
      rw [closed, if_pos rfl, ← spell_lex part.rest] at ending
      exact .closed ending ih
    | false =>
      rw [closed, if_neg (by decide)] at ending
      rw [ending, lex]
      exact .unclosed q part.content
  | case3 cs _ ih => exact .placeholder ih
  | case4 c cs noQuote noMark ih => exact .other noQuote noMark ih

/-- **Lexemes that keep the rules are found in the text that they spell.** -/
theorem Lexed.lex_spell {lexemes : List Lexeme} (lexed : Lexed lexemes) :
    lex (spell lexemes) = lexemes := by
  induction lexed with
  | nil => rw [spell, List.flatMap_nil, lex]
  | @placeholder rest _ ih =>
    show lex ('?' :: spell rest) = _
    have noQuote : Quote.ofChar? '?' = none := by decide
    rw [lex, noQuote]
    exact congrArg (.placeholder :: ·) ih
  | @other c rest noQuote noMark _ ih =>
    show lex (c :: spell rest) = _
    rw [lex, noQuote]
    simp only [noMark, if_false, ih]
  | @closed q content rest undoubled _ ih =>
    have text : spell (.quoted q content true :: rest)
        = q.char :: (q.written content ++ q.char :: spell rest) := by
      simp [spell, Lexeme.spelling]
    rw [text, lex_char, readQuoted_closed undoubled, ih]
  | unclosed q content =>
    have text : spell [.quoted q content false] = q.char :: q.written content := by
      simp [spell, Lexeme.spelling]
    rw [text, lex_char, readQuoted_unclosed, lex]

/-- **The lexemes of a text are those that spell it by the rules.** -/
theorem lex_eq_iff {cs : List Char} {lexemes : List Lexeme} :
    lex cs = lexemes ↔ Lexed lexemes ∧ spell lexemes = cs := by
  constructor
  · rintro rfl
    exact ⟨lexed_lex cs, spell_lex cs⟩
  · rintro ⟨lexed, rfl⟩
    exact lexed.lex_spell

/-! ### Placeholders -/

namespace Fragment

/-- The scanner knows the same quotes. -/
theorem nextQuote_none (c : Char) : nextQuote none c = (Quote.ofChar? c).map Quote.char := by
  cases found : Quote.ofChar? c with
  | some q =>
    obtain rfl := Quote.ofChar?_eq_some_iff.mp found
    cases q <;> rfl
  | none =>
    refine if_neg ?_
    rintro (rfl | rfl) <;> cases found

/-- An opening quote is no placeholder, and what follows is inside. -/
theorem countFrom_opening (q : Quote) (cs : List Char) :
    countFrom none (q.char :: cs) = countFrom (some q.char) cs := by
  have opens : nextQuote none q.char = some q.char := by
    rw [nextQuote_none, Quote.ofChar?_char, Option.map_some]
  rw [countFrom, opens, if_neg fun both => q.char_ne_placeholder both.2, Nat.zero_add]

/-- A closing quote is no placeholder, and what follows is outside. -/
theorem countFrom_closing (q : Quote) (cs : List Char) :
    countFrom (some q.char) (q.char :: cs) = countFrom none cs := by
  have closes : nextQuote (some q.char) q.char = none := if_pos rfl
  rw [countFrom, closes, if_neg (by simp), Nat.zero_add]

/-- Nothing inside a quote is counted, question marks included. -/
theorem countFrom_inside {q : Quote} {c : Char} (inside : c ≠ q.char) (cs : List Char) :
    countFrom (some q.char) (c :: cs) = countFrom (some q.char) cs := by
  have stays : nextQuote (some q.char) c = some q.char := if_neg inside
  rw [countFrom, stays, if_neg (by simp), Nat.zero_add]

/-- **The scanner comes out of quotes where the lexer does**: of a doubled
quote the first closes what the second opens again. -/
theorem countFrom_char (q : Quote) (cs : List Char) :
    countFrom (some q.char) cs = countFrom none (readQuoted q cs).rest := by
  fun_induction readQuoted q cs with
  | case1 => rfl
  | case2 cs doubled ih =>
    obtain ⟨cs, rfl⟩ := List.head?_eq_some_iff.mp doubled
    rw [countFrom_closing, countFrom_opening]
    exact ih
  | case3 cs _ => exact countFrom_closing q cs
  | case4 c cs inside ih => rw [countFrom_inside inside]; exact ih

/-- What the scanner counts are the lexemes that are placeholders. -/
theorem countFrom_eq_count (cs : List Char) :
    countFrom none cs = (lex cs).count .placeholder := by
  -- the lexer jumps over what is quoted, the scanner walks through it
  fun_induction lex cs with
  | case1 => rfl
  | case2 c cs q quote part ih =>
    obtain rfl := Quote.ofChar?_eq_some_iff.mp quote
    rw [countFrom_opening, countFrom_char, ih, List.count_cons_of_ne (by simp)]
  | case3 cs noQuote ih =>
    rw [countFrom, nextQuote_none, noQuote, Option.map_none, if_pos ⟨rfl, rfl⟩, ih,
      List.count_cons_self, Nat.add_comm]
  | case4 c cs noQuote noMark ih =>
    rw [countFrom, nextQuote_none, noQuote, Option.map_none, if_neg fun both => noMark both.2,
      Nat.zero_add, ih, List.count_cons_of_ne (by simp)]

/-- **The placeholders of a text are those among its lexemes.**  These are the
only ones that spell the text by the rules, so it does not matter how a lexer
finds them. -/
theorem placeholderCount_eq_count (a : Fragment) :
    a.placeholderCount = (lex a.text.toList).count .placeholder
      ∧ ∀ lexemes, lex a.text.toList = lexemes
          ↔ Lexed lexemes ∧ spell lexemes = a.text.toList :=
  ⟨countFrom_eq_count a.text.toList, fun _ => lex_eq_iff⟩

-- one literal with a doubled quote, an identifier with the other quote, and a literal that is
-- not closed
example : lex "'a''?'?\"'?\"'?''".toList
    = [.quoted .literal ['a', '\'', '?'] true, .placeholder,
      .quoted .identifier ['\'', '?'] true, .quoted .literal ['?', '\''] false] := by
  decide +kernel

end Fragment

end MediaSearch.Sql
