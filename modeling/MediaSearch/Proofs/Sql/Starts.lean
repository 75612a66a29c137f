/-
MediaSearch/Proofs/Sql/Starts.lean

Conditions on how a text starts.

What `LIKE … ESCAPE '\'` matches is said by rules, one for each kind of
character that a pattern can go on with (`Likes`).  The matcher that reads a
pattern as tokens and tries every run of characters for a `%` decides it
(`like_eq_true_iff`).  By the rules an escaped character takes one character
of the text, and a plain one does too, so what is matched by the escaped
characters of a start lies beside them, character by character
(`likes_escapeChars_append`); the `%` after them matches all that is left.

A condition on several starts is read from its text with the values in their
places: comparisons with patterns, joined by `OR`, in parentheses
(`ReadsAs`).  There is one way to read it (`Alternatives.unique`).

Main result: `likeAnyPrefix_matches`.
-/
import MediaSearch.Proofs.Sql.Meaning
import MediaSearch.Proofs.Sql.Rendering

namespace MediaSearch.Sql

/-! ### Patterns by rules -/

section Rules

/-- What a pattern matches, where `same` says which characters a plain one
stands for, and `exact` which an escaped one does. -/
inductive Likes (same exact : Char → Char → Prop) : (pattern text : List Char) → Prop
  | nil : Likes same exact [] []
  | anyRun (skipped : List Char) {pattern text : List Char} (rest : Likes same exact pattern text) :
      Likes same exact ('%' :: pattern) (skipped ++ text)
  | anyOne (c : Char) {pattern text : List Char} (rest : Likes same exact pattern text) :
      Likes same exact ('_' :: pattern) (c :: text)
  | escaped {c d : Char} {pattern text : List Char} (alike : exact c d)
      (rest : Likes same exact pattern text) : Likes same exact ('\\' :: c :: pattern) (d :: text)
  | plain {c d : Char} {pattern text : List Char} (ordinary : isSpecial c = false)
      (alike : same c d) (rest : Likes same exact pattern text) :
      Likes same exact (c :: pattern) (d :: text)

/-- Whether a text begins with as many characters as `start` has, each the
same as the one beside it. -/
def Begins (same : Char → Char → Prop) (start text : List Char) : Prop :=
  ∃ head, head <+: text ∧ start.Forall₂ same head

variable {same exact : Char → Char → Prop} {pattern text : List Char}

theorem likes_nil_iff : Likes same exact [] text ↔ text = [] := by
  constructor
  · intro likes
    cases likes
    rfl
  · rintro rfl
    exact .nil

/-- A run of any characters leaves any end of the text to what follows it. -/
theorem likes_anyRun_iff :
    Likes same exact ('%' :: pattern) text
      ↔ ∃ rest, rest <:+ text ∧ Likes same exact pattern rest := by
  constructor
  · intro likes
    cases likes with
    | anyRun skipped rest => exact ⟨_, List.suffix_append skipped _, rest⟩
    | plain ordinary => cases ordinary
  · rintro ⟨rest, ⟨skipped, rfl⟩, likes⟩
    exact .anyRun skipped likes

theorem likes_anyOne_iff :
    Likes same exact ('_' :: pattern) text
      ↔ ∃ d rest, text = d :: rest ∧ Likes same exact pattern rest := by
  constructor
  · intro likes
    cases likes with
    | anyOne d rest => exact ⟨d, _, rfl, rest⟩
    | plain ordinary => cases ordinary
  · rintro ⟨d, rest, rfl, likes⟩
    exact .anyOne d likes

/-- An escaped character is matched exactly, whatever it stands for otherwise. -/
theorem likes_escaped_iff {c : Char} :
    Likes same exact ('\\' :: c :: pattern) text
      ↔ ∃ d rest, text = d :: rest ∧ exact c d ∧ Likes same exact pattern rest := by
  constructor
  · intro likes
    cases likes with
    | escaped alike rest => exact ⟨_, _, rfl, alike, rest⟩
    | plain ordinary => cases ordinary
  · rintro ⟨d, rest, rfl, alike, likes⟩
    exact .escaped alike likes

theorem likes_plain_iff {c : Char} (ordinary : isSpecial c = false) :
    Likes same exact (c :: pattern) text
      ↔ ∃ d rest, text = d :: rest ∧ same c d ∧ Likes same exact pattern rest := by
  constructor
  · intro likes
    cases likes with
    | anyRun | anyOne | escaped => cases ordinary
    | plain _ alike rest => exact ⟨_, _, rfl, alike, rest⟩
  · rintro ⟨d, rest, rfl, alike, likes⟩
    exact .plain ordinary alike likes

/-- A backslash that escapes nothing matches nothing. -/
theorem not_likes_backslash : ¬Likes same exact ['\\'] text := by
  intro likes
  cases likes with
  | plain ordinary => cases ordinary

/-! ### Patterns of starts -/

/-- Escaped characters match as many characters, one after the other, and
leave the rest of the text to the rest of the pattern. -/
theorem likes_escapeChars_append
    (agree : ∀ c d, isSpecial c = true → (exact c d ↔ same c d)) (start : List Char) :
    Likes same exact (escapeChars start ++ pattern) text
      ↔ ∃ head rest, text = head ++ rest ∧ start.Forall₂ same head
          ∧ Likes same exact pattern rest := by
  induction start generalizing text with
  | nil =>
    constructor
    · intro likes
      exact ⟨[], text, rfl, .nil, likes⟩
    · rintro ⟨head, rest, rfl, nothing, likes⟩
      cases nothing
      exact likes
  | cons c start ih =>
    -- escaped or not, the first character takes one of the text
    have first : Likes same exact (escapeChars (c :: start) ++ pattern) text
        ↔ ∃ d rest, text = d :: rest ∧ same c d
            ∧ Likes same exact (escapeChars start ++ pattern) rest := by
      cases special : isSpecial c with
      | true =>
        have step : escapeChars (c :: start) ++ pattern
            = '\\' :: c :: (escapeChars start ++ pattern) := by
          simp [escapeChars, special]
        rw [step, likes_escaped_iff]
        simp only [agree c _ special]
      | false =>
        have step : escapeChars (c :: start) ++ pattern
            = c :: (escapeChars start ++ pattern) := by
          simp [escapeChars, special]
        rw [step, likes_plain_iff special]
    rw [first]
    constructor
    · rintro ⟨d, rest, rfl, alike, likes⟩
      obtain ⟨head, later, rfl, others, likes⟩ := ih.mp likes
      exact ⟨d :: head, later, rfl, .cons alike others, likes⟩
    · rintro ⟨head, rest, rfl, alike, likes⟩
      cases alike with
      | cons alike others => exact ⟨_, _, rfl, alike, ih.mpr ⟨_, rest, rfl, others, likes⟩⟩

/-- **The pattern of a start matches what begins with it.** -/
theorem likes_startPattern_iff
    (agree : ∀ c d, isSpecial c = true → (exact c d ↔ same c d)) (start : String) :
    Likes same exact (startPattern start).toList text ↔ Begins same start.toList text := by
  rw [startPattern, escapeLike, String.toList_append, String.toList_ofList,
    likes_escapeChars_append agree]
  constructor
  · rintro ⟨head, rest, rfl, alike, -⟩
    exact ⟨head, List.prefix_append head rest, alike⟩
  · rintro ⟨head, ⟨rest, rfl⟩, alike⟩
    exact ⟨head, rest, rfl, alike, likes_anyRun_iff.mpr ⟨[], List.nil_suffix, .nil⟩⟩

end Rules

/-! ### The matcher -/

section Matcher

variable {same : Char → Char → Bool} {pattern rest : List Char}

theorem like_anyRun (read : patternTokens pattern = (patternTokens rest).map (.anyRun :: ·))
    (text : List Char) :
    like same pattern text = true ↔ ∃ later, later <:+ text ∧ like same rest later = true := by
  unfold like
  rw [read]
  cases patternTokens rest <;> simp [matchTokens]

theorem like_anyOne (read : patternTokens pattern = (patternTokens rest).map (.anyOne :: ·))
    (text : List Char) :
    like same pattern text = true
      ↔ ∃ d later, text = d :: later ∧ like same rest later = true := by
  unfold like
  rw [read]
  cases patternTokens rest <;> cases text <;> simp [matchTokens]

theorem like_literal {c : Char}
    (read : patternTokens pattern = (patternTokens rest).map (.literal c :: ·))
    (text : List Char) :
    like same pattern text = true
      ↔ ∃ d later, text = d :: later ∧ same c d = true ∧ like same rest later = true := by
  unfold like
  rw [read]
  cases patternTokens rest <;> cases text <;> simp [matchTokens]

/-- **The matcher decides what a pattern matches.** -/
theorem like_eq_true_iff (pattern text : List Char) :
    like same pattern text = true
      ↔ Likes (same · · = true) (same · · = true) pattern text := by
  fun_induction patternTokens pattern generalizing text with
  | case1 => rw [likes_nil_iff]; simp [like, patternTokens, matchTokens]
  | case2 c cs ih =>
    have read : patternTokens ('\\' :: c :: cs) = (patternTokens cs).map (.literal c :: ·) := by
      rw [patternTokens]
    simp only [like_literal read, likes_escaped_iff, ih]
  | case3 => simp [like, patternTokens, not_likes_backslash]
  | case4 c cs noEscape noEnd ih =>
    have read : patternTokens (c :: cs) = (patternTokens cs).map (.ofChar c :: ·) := by
      rw [patternTokens]
      · exact noEscape
      · exact noEnd
    -- a character that is not escaped is one of the two wildcards or itself
    by_cases percent : c = '%'
    · subst percent
      simp only [like_anyRun read, likes_anyRun_iff, ih]
    by_cases underscore : c = '_'
    · subst underscore
      simp only [like_anyOne read, likes_anyOne_iff, ih]
    · have backslash : c ≠ '\\' := by
        rintro rfl
        cases cs with
        | nil => exact noEnd rfl rfl
        | cons d ds => exact noEscape d ds rfl rfl
      have literal : PatternToken.ofChar c = .literal c := by
        simp [PatternToken.ofChar, percent, underscore]
      have ordinary : isSpecial c = false := by
        simp [isSpecial, percent, underscore, backslash]
      rw [literal] at read
      simp only [like_literal read, likes_plain_iff ordinary, ih]

/-- Whether a text begins with another is decided by going along both. -/
theorem begins_iff_startsWith {start text : List Char} :
    Begins (same · · = true) start text ↔ startsWith same start text = true := by
  induction start generalizing text with
  | nil =>
    rw [startsWith]
    exact ⟨fun _ => rfl, fun _ => ⟨[], List.nil_prefix, .nil⟩⟩
  | cons c start ih =>
    cases text with
    | nil =>
      rw [startsWith]
      constructor
      · rintro ⟨head, initial, alike⟩
        obtain rfl := List.prefix_nil.mp initial
        cases alike
      · exact fun impossible => absurd impossible Bool.false_ne_true
    | cons d text =>
      rw [startsWith, Bool.and_eq_true, ← ih]
      constructor
      · rintro ⟨head, initial, alike⟩
        -- the first characters go together, and so do the rest
        cases alike with
        | cons first others =>
          obtain ⟨rfl, later⟩ := List.cons_prefix_cons.mp initial
          exact ⟨first, _, later, others⟩
      · rintro ⟨first, head, initial, others⟩
        exact ⟨d :: head, List.cons_prefix_cons.mpr ⟨rfl, initial⟩, .cons first others⟩

instance (same : Char → Char → Bool) (start text : List Char) :
    Decidable (Begins (same · · = true) start text) :=
  decidable_of_iff _ begins_iff_startsWith.symm

end Matcher

/-! ### Conditions -/

section Conditions

open Fragment

/-- `expr LIKE … ESCAPE '\'`, with the pattern as a value. -/
def comparison (expr pattern : String) : List Piece :=
  chars (expr ++ " LIKE ") ++ [.value (.text pattern)] ++ chars " ESCAPE '\\'"

/-- Comparisons of an expression with patterns, joined by `OR`. -/
inductive Alternatives (expr : String) : List Piece → List String → Prop
  | last (pattern : String) : Alternatives expr (comparison expr pattern) [pattern]
  | more (pattern : String) {pieces : List Piece} {patterns : List String}
      (others : Alternatives expr pieces patterns) :
      Alternatives expr (comparison expr pattern ++ chars " OR " ++ pieces) (pattern :: patterns)

/-- Whether a condition is made of comparisons with some patterns, in
parentheses. -/
def ReadsAs (expr : String) (condition : List Piece) (patterns : List String) : Prop :=
  ∃ inner, condition = chars "(" ++ inner ++ chars ")" ∧ Alternatives expr inner patterns

variable {expr : String}

/-- Where two comparisons go on in one way, their patterns and what comes
after them are the same. -/
theorem comparison_append_inj {pattern other : String} {rest more : List Piece}
    (same : comparison expr pattern ++ rest = comparison expr other ++ more) :
    pattern = other ∧ rest = more := by
  simpa [comparison] using same

/-- A text is made of comparisons in one way only. -/
theorem Alternatives.unique {pieces : List Piece} {patterns others : List String}
    (left : Alternatives expr pieces patterns) (right : Alternatives expr pieces others) :
    patterns = others := by
  -- one comparison cannot be read as another, nor as the start of several
  induction left generalizing others with
  | last pattern =>
    generalize whole : comparison expr pattern = pieces at right
    cases right with
    | last other =>
      have same := comparison_append_inj (congrArg (· ++ []) whole)
      rw [same.1]
    | more other later =>
      rw [List.append_assoc, ← List.append_nil (comparison expr pattern)] at whole
      have nothing := (comparison_append_inj whole).2
      simp [chars] at nothing
  | @more pattern pieces patterns later ih =>
    generalize whole : comparison expr pattern ++ chars " OR " ++ pieces = all at right
    rw [List.append_assoc] at whole
    cases right with
    | last other =>
      rw [← List.append_nil (comparison expr other)] at whole
      have nothing := (comparison_append_inj whole).2
      simp [chars] at nothing
    | more other right =>
      rw [List.append_assoc] at whole
      obtain ⟨rfl, rest⟩ := comparison_append_inj whole
      obtain rfl := List.append_cancel_left rest
      rw [ih right]

/-- A condition reads as one list of patterns only. -/
theorem ReadsAs.unique {condition : List Piece} {patterns others : List String}
    (left : ReadsAs expr condition patterns) (right : ReadsAs expr condition others) :
    patterns = others := by
  obtain ⟨inner, rfl, left⟩ := left
  obtain ⟨inner', same, right⟩ := right
  obtain rfl : inner = inner' := by simpa using same
  exact left.unique right

/-- Joined comparisons are read as what they were made from. -/
theorem alternatives_intercalate {patterns : List String} (some : patterns ≠ []) :
    Alternatives expr ((chars " OR ").intercalate (patterns.map (comparison expr))) patterns := by
  match patterns with
  | [] => exact absurd rfl some
  | [pattern] =>
    have single : Alternatives expr (comparison expr pattern) [pattern] := .last pattern
    simpa using single
  | pattern :: next :: later =>
    have others := alternatives_intercalate (List.cons_ne_nil next later)
    rw [List.map_cons, List.map_cons, List.intercalate_cons_cons]
    exact .more pattern others

/-- **A condition on starts is read as comparisons with their patterns.** -/
theorem readsAs_likeAnyPrefix_iff (plain : isPlain expr = true) {starts : List String}
    (some : starts ≠ []) {patterns : List String} :
    ReadsAs expr (likeAnyPrefix expr starts).render patterns
      ↔ patterns = starts.map startPattern := by
  -- the condition reads as its own patterns, and it reads in one way only
  have reads : ReadsAs expr (likeAnyPrefix expr starts).render (starts.map startPattern) := by
    have others : starts.map startPattern ≠ [] := by simpa using some
    have all : Alternatives expr _ _ := alternatives_intercalate others
    rw [List.map_map] at all
    exact ⟨_, render_likeAnyPrefix plain starts, all⟩
  constructor
  · exact fun other => other.unique reads
  · rintro rfl
    exact reads

variable (same exact : Char → Char → Prop)

/-- Whether a condition is true of a text: one of its patterns matches. -/
def Holds (expr : String) (condition : List Piece) (text : String) : Prop :=
  ∃ patterns, ReadsAs expr condition patterns
    ∧ ∃ pattern ∈ patterns, Likes same exact pattern.toList text.toList

variable {same exact}

/-- A rendered condition holds of the texts that begin with any of the starts. -/
theorem holds_likeAnyPrefix_iff
    (agree : ∀ c d, isSpecial c = true → (exact c d ↔ same c d)) (plain : isPlain expr = true)
    {starts : List String} (some : starts ≠ []) (text : String) :
    Holds same exact expr (likeAnyPrefix expr starts).render text
      ↔ ∃ start ∈ starts, Begins same start.toList text.toList := by
  simp only [Holds, readsAs_likeAnyPrefix_iff plain some, exists_eq_left, List.mem_map,
    exists_exists_and_eq_and, likes_startPattern_iff agree]

end Conditions

/-! ### Folded case -/

/-- Folding the case of letters leaves the special characters alone. -/
theorem sameFolded_special {c : Char} (special : isSpecial c = true) (d : Char) :
    c = d ↔ sameFolded c d = true := by
  have kinds : c = '%' ∨ c = '_' ∨ c = '\\' := by
    simpa [isSpecial, or_assoc] using special
  have own : c.toLower = c := by
    rcases kinds with rfl | rfl | rfl <;> decide
  have code : c.val.toNat = 37 ∨ c.val.toNat = 95 ∨ c.val.toNat = 92 := by
    rcases kinds with rfl | rfl | rfl <;> decide
  rw [sameFolded, beq_iff_eq, own]
  unfold Char.toLower
  split
  · next upper =>
    -- neither a capital nor the small letter for it is special
    have least : 65 ≤ d.val.toNat := upper.1
    have greatest : d.val.toNat ≤ 90 := upper.2
    have small : (d.val + ('a'.val - 'A'.val)).toNat = d.val.toNat + 32 := by
      have offset : ('a'.val - 'A'.val).toNat = 32 := rfl
      rw [UInt32.toNat_add, offset]
      exact Nat.mod_eq_of_lt (by omega)
    rw [Char.ext_iff, Char.ext_iff, ← UInt32.toNat_inj, ← UInt32.toNat_inj, small]
    omega
  · rfl

/-- The store's answer to a condition on starts. -/
theorem truth_startsWithAny_iff {engine : Engine} {tables : Tables} {scope : Scope} {r : Ref}
    {text : String} (cell : scope.value r = .text text) (starts : List String) :
    (Condition.startsWithAny r starts).truth engine tables scope = some true
      ↔ ∃ start ∈ starts, Begins (sameFolded · · = true) start.toList text.toList := by
  simp only [Condition.truth, anyTrue_eq_true_iff, List.mem_map, cell, Engine.startsWith?,
    Engine.text?, Option.map_some, Option.some.injEq, like_eq_true_iff,
    likes_startPattern_iff fun _ _ _ => Iff.rfl]

/-! ### Main result -/

/-- **Starts are matched literally.**  The pattern of a start matches the texts
that begin with it, up to the characters that count as the same; whether an
escaped character may stand for others as well makes no difference, as long as
those that need escaping have no others.  A condition on several starts is
true of the texts that begin with one of them, by its text and its values and
by the answer of a store that folds the case of letters. -/
theorem likeAnyPrefix_matches {same exact : Char → Char → Prop}
    (agree : ∀ c d, isSpecial c = true → (exact c d ↔ same c d)) :
    (∀ start text : String,
      patternTokens (startPattern start).toList = some (start.toList.map .literal ++ [.anyRun])
        ∧ unescapeChars (escapeLike start).toList = start.toList
        ∧ (Likes same exact (startPattern start).toList text.toList
            ↔ Begins same start.toList text.toList))
      ∧ (∀ expr, Fragment.isPlain expr = true → ∀ starts ≠ [], ∀ text : String,
        Holds same exact expr (Fragment.likeAnyPrefix expr starts).render text
          ↔ ∃ start ∈ starts, Begins same start.toList text.toList)
      ∧ ∀ (engine : Engine) (tables : Tables) (scope : Scope) (r : Ref) (starts : List String)
          (text : String), scope.value r = .text text →
        ((Condition.startsWithAny r starts).truth engine tables scope = some true
          ↔ ∃ start ∈ starts, Begins (sameFolded · · = true) start.toList text.toList) := by
  have recovered (start : String) : unescapeChars (escapeLike start).toList = start.toList := by
    rw [escapeLike, String.toList_ofList, unescapeChars_escapeChars]
  exact ⟨fun start text => ⟨patternTokens_startPattern start, recovered start,
      likes_startPattern_iff agree start⟩,
    fun expr plain starts some text => holds_likeAnyPrefix_iff agree plain some text,
    fun _ _ _ _ starts _ cell => truth_startsWithAny_iff cell starts⟩

/-- Two starts with special characters in them. -/
def specialStarts : List String :=
  ["/In/100%_", "c:\\"]

/-- A row of a file with a path. -/
def fileRow (path : String) : Scope :=
  [("files", [("path", .text path)])]

theorem likeAnyPrefix_matches_specialStarts :
    (∀ c d, isSpecial c = true → (c = d ↔ sameFolded c d = true))
      ∧ Fragment.isPlain "files.path" = true ∧ specialStarts ≠ []
      ∧ Holds (sameFolded · · = true) (· = ·) "files.path"
          (Fragment.likeAnyPrefix "files.path" specialStarts).render "/in/100%_a.png"
      ∧ ¬Holds (sameFolded · · = true) (· = ·) "files.path"
          (Fragment.likeAnyPrefix "files.path" specialStarts).render "/in/1000a.png"
      ∧ (fileRow "C:\\a.png").value (.of "files" "path") = .text "C:\\a.png"
      ∧ (Condition.startsWithAny (.of "files" "path") specialStarts).truth .idle []
          (fileRow "C:\\a.png") = some true := by
  have agree : ∀ c d, isSpecial c = true → (c = d ↔ sameFolded c d = true) :=
    fun _ d special => sameFolded_special special d
  have plain : Fragment.isPlain "files.path" = true := by decide
  have some : specialStarts ≠ [] := by decide
  have cell : (fileRow "C:\\a.png").value (.of "files" "path") = .text "C:\\a.png" := by decide
  obtain ⟨-, read, answer⟩ := likeAnyPrefix_matches agree
  refine ⟨agree, plain, some, (read _ plain _ some _).mpr ?_,
    (read _ plain _ some _).not.mpr ?_, cell, (answer .idle [] _ _ _ _ cell).mpr ?_⟩
  · decide
  · decide
  · decide

end MediaSearch.Sql
