/-
MediaSearch/Proofs/Compile/Placeholders.lean

Every statement binds each of its placeholders, so compiling never fails.

What stands inside quotes is said without a scanner (`Marks`): a text is a
sequence of characters outside quotes and of quoted parts, each from a quote
to the next one of its kind.  The scanner that looks for mismatches counts
exactly the marks of a text that leaves no quote open (`marks_iff`), and all
statements are balanced because all their names are plain.

Main result: `statements_bound`.
-/
import MediaSearch.Proofs.Search.Statements

namespace MediaSearch

open Sql Fragment

/-! ### Marks outside quotes -/

namespace Sql

/-- Quotes of literals and of identifiers. -/
def IsQuote (c : Char) : Prop :=
  c = '\'' ∨ c = '"'

/-- A text with so many question marks outside its quoted parts.  A quote that
is doubled inside a quoted part ends one part and starts the next. -/
inductive Marks : List Char → Nat → Prop where
  | nil : Marks [] 0
  | mark {cs : List Char} {n : Nat} (rest : Marks cs n) : Marks ('?' :: cs) (n + 1)
  | other {c : Char} {cs : List Char} {n : Nat} (noMark : c ≠ '?') (noQuote : ¬IsQuote c)
      (rest : Marks cs n) : Marks (c :: cs) n
  | quoted {q : Char} {body cs : List Char} {n : Nat} (quote : IsQuote q) (inside : q ∉ body)
      (rest : Marks cs n) : Marks (q :: (body ++ q :: cs)) n

namespace Fragment

theorem nextQuote_of_isQuote {q : Char} (quote : IsQuote q) : nextQuote none q = some q :=
  if_pos quote

theorem nextQuote_of_not_isQuote {c : Char} (noQuote : ¬IsQuote c) : nextQuote none c = none :=
  if_neg noQuote

/-- The scanner passes over a quoted part. -/
theorem scan_quoted {q : Char} {body : List Char} (inside : q ∉ body) (rest : List Char) :
    countFrom (some q) (body ++ q :: rest) = countFrom none rest
      ∧ endQuote (some q) (body ++ q :: rest) = endQuote none rest := by
  induction body with
  | nil =>
    have closes : nextQuote (some q) q = none := if_pos rfl
    rw [List.nil_append, countFrom, closes, endQuote, List.foldl_cons, closes]
    exact ⟨by simp, rfl⟩
  | cons c body ih =>
    rw [List.mem_cons, not_or] at inside
    -- only the quote itself closes it
    have stays : nextQuote (some q) c = some q := if_neg (Ne.symm inside.1)
    rw [List.cons_append, countFrom, stays, endQuote, List.foldl_cons, stays]
    obtain ⟨count, last⟩ := ih inside.2
    exact ⟨by simp [count], last⟩

/-- The scanner counts what marks there are. -/
theorem scan_of_marks {cs : List Char} {n : Nat} (marks : Marks cs n) :
    countFrom none cs = n ∧ endQuote none cs = none := by
  induction marks with
  | nil => exact ⟨rfl, rfl⟩
  | mark _ ih =>
    have noQuote : nextQuote none '?' = none := by decide
    rw [countFrom, endQuote, List.foldl_cons, noQuote, ih.1, if_pos ⟨rfl, rfl⟩]
    exact ⟨Nat.add_comm 1 _, ih.2⟩
  | other noMark noQuote _ ih =>
    rw [countFrom, endQuote, List.foldl_cons, nextQuote_of_not_isQuote noQuote, ih.1,
      if_neg fun both => noMark both.2]
    exact ⟨Nat.zero_add _, ih.2⟩
  | quoted quote inside _ ih =>
    -- an opening quote is not counted, and neither is anything before the closing one
    have noMark : ∀ q, IsQuote q → q ≠ '?' := by
      rintro q (rfl | rfl) <;> decide
    obtain ⟨count, last⟩ := scan_quoted inside _
    rw [countFrom, endQuote, List.foldl_cons, nextQuote_of_isQuote quote, count, ih.1,
      if_neg fun both => noMark _ quote both.2]
    exact ⟨Nat.zero_add _, last.trans ih.2⟩

/-- What the scanner counts are marks, if it leaves no quote open: those of
the text, or those after the end of the quoted part that it starts in. -/
theorem marks_of_scan (cs : List Char) :
    (endQuote none cs = none → Marks cs (countFrom none cs))
    ∧ ∀ q, endQuote (some q) cs = none →
      ∃ body rest, cs = body ++ q :: rest ∧ q ∉ body ∧ Marks rest (countFrom (some q) cs) := by
  induction cs with
  | nil => exact ⟨fun _ => .nil, fun q closed => by cases closed⟩
  | cons c cs ih =>
    -- one statement for texts outside quotes and one for texts inside, by the same induction
    obtain ⟨outside, inside⟩ := ih
    constructor
    · intro closed
      rw [endQuote, List.foldl_cons] at closed
      rw [countFrom]
      by_cases quote : IsQuote c
      · have noMark : ¬((none : Option Char) = none ∧ c = '?') := by
          rintro ⟨-, rfl⟩
          rcases quote with same | same <;> cases same
        rw [nextQuote_of_isQuote quote] at closed ⊢
        obtain ⟨body, rest, rfl, first, marks⟩ := inside c closed
        rw [if_neg noMark, Nat.zero_add]
        exact .quoted quote first marks
      · rw [nextQuote_of_not_isQuote quote] at closed ⊢
        by_cases mark : c = '?'
        · rw [if_pos ⟨rfl, mark⟩, mark, Nat.add_comm]
          exact .mark (outside closed)
        · rw [if_neg fun both => mark both.2, Nat.zero_add]
          exact .other mark quote (outside closed)
    · intro q closed
      rw [endQuote, List.foldl_cons] at closed
      rw [countFrom, if_neg (by simp), Nat.zero_add]
      -- the body of the quote ends here, or the character belongs to it
      by_cases closes : c = q
      · obtain rfl := closes
        have ended : nextQuote (some c) c = none := if_pos rfl
        rw [ended] at closed ⊢
        exact ⟨[], cs, rfl, List.not_mem_nil, outside closed⟩
      · have stays : nextQuote (some q) c = some q := if_neg closes
        rw [stays] at closed ⊢
        obtain ⟨body, rest, rfl, first, marks⟩ := inside q closed
        exact ⟨c :: body, rest, rfl, List.not_mem_cons_of_ne_of_not_mem (Ne.symm closes) first,
          marks⟩

/-- **The scanner counts the marks outside quotes** of a text that leaves no
quote open. -/
theorem marks_iff {cs : List Char} {n : Nat} :
    Marks cs n ↔ countFrom none cs = n ∧ endQuote none cs = none := by
  constructor
  · exact scan_of_marks
  · rintro ⟨rfl, closed⟩
    exact (marks_of_scan cs).1 closed

/-- Whether each placeholder of a statement, and nothing else, has a value:
the marks outside quotes are as many as the parameters, for the scanner
too. -/
def Bound (a : Fragment) : Prop :=
  Marks a.text.toList a.params.length ∧ a.placeholderCount = a.params.length

/-- What the scanner finds balanced is bound: the two ways to count agree. -/
theorem Balanced.bound {a : Fragment} (balanced : a.Balanced) : a.Bound :=
  ⟨marks_iff.mpr ⟨balanced.count, balanced.closed⟩, balanced.count⟩

end Fragment

end Sql

/-! ### Statements -/

/-- No search fails because of its statements. -/
theorem Search.start_ne_compile (settings : Settings) (store : Store) (request : Request)
    (mismatch : ArityMismatch) :
    (Search.start settings store request).1 ≠ .error (.compile mismatch) := by
  -- a count can fail in the store only, and without one nothing can
  by_cases counted : request.count = true
  · by_cases gives : ∃ total,
        GivesTotal (store [] (settings.statements request.normalize).count.fragment) total
    · obtain ⟨total, gives⟩ := gives
      rw [start_of_gives counted gives]
      nofun
    · obtain ⟨cause, failed, -⟩ := start_of_not_gives counted (not_exists.mp gives)
      rw [failed]
      nofun
  · rw [start_uncounted (Bool.eq_false_iff.mpr counted)]
    nofun

/-- **Compiling never fails, and statements bind each of their placeholders**:
those of all requests under all settings, normal or not, and those of all
rules.  So no search ends before it has begun. -/
theorem statements_bound :
    (∀ (settings : Settings) (request : Request), ∃ compiled,
      settings.compile request = .ok compiled
        ∧ compiled.count.fragment.Bound ∧ compiled.fetch.fragment.Bound
        ∧ ∀ (store : Store) (mismatch : ArityMismatch),
          (Search.start settings store request).1 ≠ .error (.compile mismatch))
    ∧ ∀ rule : ItemRule, ∃ statement, rule.compile = .ok statement ∧ statement.Bound := by
  constructor
  · intro settings request
    obtain ⟨count, fetch⟩ := settings.balanced_statements request
    exact ⟨_, settings.compile_eq_ok request, count.bound, fetch.bound,
      fun store mismatch => Search.start_ne_compile settings store request mismatch⟩
  · intro rule
    exact ⟨_, rule.compile_eq_ok, rule.balanced_query.bound⟩

end MediaSearch
