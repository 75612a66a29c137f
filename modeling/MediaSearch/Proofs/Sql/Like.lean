/-
MediaSearch/Proofs/Sql/Like.lean

What `LIKE … ESCAPE '\'` matches.

A pattern is read as tokens: `%` stands for any characters, `_` for any one
character, a backslash makes the character after it stand for itself, and
all other characters stand for themselves.  A backslash at the end escapes
nothing; such a pattern matches no text.  Which characters count as the same
is a parameter; the store folds the case of ASCII letters.

Main result: the pattern made for the start of a text matches exactly the
texts that start with it (`like_startPattern`).
-/
import MediaSearch.Sql.Pattern
import Mathlib.Data.List.Infix

namespace MediaSearch.Sql

/-! ### Patterns -/

/-- What a part of a pattern stands for. -/
inductive PatternToken where
  | anyRun
  | anyOne
  | literal (c : Char)
  deriving DecidableEq

/-- What an unescaped character stands for. -/
def PatternToken.ofChar (c : Char) : PatternToken :=
  if c = '%' then anyRun else if c = '_' then anyOne else literal c

/-- The tokens of a pattern, unless it ends in a backslash that escapes
nothing. -/
def patternTokens : List Char → Option (List PatternToken)
  | [] => some []
  | '\\' :: c :: cs => (patternTokens cs).map (.literal c :: ·)
  | ['\\'] => none
  | c :: cs => (patternTokens cs).map (.ofChar c :: ·)

/-- Whether tokens match a text as a whole. -/
def matchTokens (same : Char → Char → Bool) : List PatternToken → List Char → Bool
  | [], text => text.isEmpty
  | .anyRun :: tokens, text => text.tails.any (matchTokens same tokens)
  | .anyOne :: tokens, text => !text.isEmpty && matchTokens same tokens text.tail
  | .literal c :: tokens, text =>
    text.head?.any (same c) && matchTokens same tokens text.tail

/-- Whether a pattern matches a text as a whole. -/
def like (same : Char → Char → Bool) (pattern text : List Char) : Bool :=
  (patternTokens pattern).any fun tokens => matchTokens same tokens text

/-- Whether characters are the same but for the case of ASCII letters. -/
def sameFolded (c d : Char) : Bool :=
  c.toLower == d.toLower

/-! ### Patterns of starts -/

/-- Whether a text starts with the characters `start`, up to `same`. -/
def startsWith (same : Char → Char → Bool) : (start text : List Char) → Bool
  | [], _ => true
  | _ :: _, [] => false
  | c :: start, d :: text => same c d && startsWith same start text

theorem startsWith_sameFolded_iff (start text : List Char) :
    startsWith sameFolded start text = true
      ↔ start.map Char.toLower <+: text.map Char.toLower := by
  induction start generalizing text with
  | nil => simp [startsWith]
  | cons c start ih =>
    cases text with
    | nil => simp [startsWith]
    | cons d text => simp [startsWith, sameFolded, ih, List.cons_prefix_cons]

/-- Escaped characters are literals, whatever follows them. -/
theorem patternTokens_escapeChars_append (cs rest : List Char) :
    patternTokens (escapeChars cs ++ rest)
      = (patternTokens rest).map (cs.map .literal ++ ·) := by
  induction cs with
  | nil => simp [escapeChars]
  | cons c cs ih =>
    -- an escaped character is read as a pair, any other one by itself
    by_cases special : isSpecial c = true
    · have step : escapeChars (c :: cs) = '\\' :: c :: escapeChars cs := by
        simp [escapeChars, special]
      rw [step, List.cons_append, List.cons_append, patternTokens, ih]
      simp [Function.comp_def]
    · have step : escapeChars (c :: cs) = c :: escapeChars cs := by
        simp [escapeChars, special]
      have plain : c ≠ '%' ∧ c ≠ '_' ∧ c ≠ '\\' := by
        simpa [isSpecial, not_or, and_assoc] using special
      have literal : PatternToken.ofChar c = .literal c := by
        simp [PatternToken.ofChar, plain]
      rw [step, List.cons_append, patternTokens, ih, literal]
      · simp [Function.comp_def]
      · rintro d ds rfl
        exact absurd rfl plain.2.2
      · rintro rfl
        exact absurd rfl plain.2.2

/-- A run of any characters matches everything. -/
theorem matchTokens_anyRun (same : Char → Char → Bool) (text : List Char) :
    matchTokens same [.anyRun] text = true := by
  simp only [matchTokens, List.any_eq_true, List.mem_tails]
  exact ⟨[], List.nil_suffix, rfl⟩

/-- Literals before a run of any characters match what starts with them. -/
theorem matchTokens_literals_anyRun (same : Char → Char → Bool) (start text : List Char) :
    matchTokens same (start.map .literal ++ [.anyRun]) text = startsWith same start text := by
  induction start generalizing text with
  | nil => simp [startsWith, matchTokens_anyRun]
  | cons c start ih =>
    cases text with
    | nil => simp [matchTokens, startsWith]
    | cons d text => simp [matchTokens, startsWith, ih]

/-- The tokens of the pattern of a start: all its characters stand for
themselves, and no backslash is left over. -/
theorem patternTokens_startPattern (start : String) :
    patternTokens (startPattern start).toList
      = some (start.toList.map .literal ++ [.anyRun]) := by
  rw [startPattern, escapeLike, String.toList_append, String.toList_ofList,
    patternTokens_escapeChars_append]
  rfl

/-- **A pattern made for a start matches what starts with it.** -/
theorem like_startPattern (same : Char → Char → Bool) (start : String) (text : List Char) :
    like same (startPattern start).toList text = startsWith same start.toList text := by
  rw [like, patternTokens_startPattern, Option.any_some, matchTokens_literals_anyRun]

end MediaSearch.Sql
