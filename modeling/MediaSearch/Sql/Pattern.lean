/-
MediaSearch/Sql/Pattern.lean

Patterns of `LIKE … ESCAPE '\'` that match a text literally.

`escapeLike` puts a backslash before every character that would not stand
for itself, and `unescapeChars` takes them off again
(`unescapeChars_escapeChars`), so no two texts have the same pattern.
-/
namespace MediaSearch.Sql

/-- The wildcards, and the character that escapes them. -/
def isSpecial (c : Char) : Bool :=
  c == '%' || c == '_' || c == '\\'

/-- The characters with a backslash before each special one. -/
def escapeChars (cs : List Char) : List Char :=
  cs.flatMap fun c => if isSpecial c then ['\\', c] else [c]

/-- The pattern that matches exactly the given text. -/
def escapeLike (s : String) : String :=
  String.ofList (escapeChars s.toList)

/-- The pattern that matches every text starting with the given one. -/
def startPattern (s : String) : String :=
  escapeLike s ++ "%"

/-- The characters of a pattern without the backslashes that escape them. -/
def unescapeChars : List Char → List Char
  | '\\' :: c :: cs => c :: unescapeChars cs
  | c :: cs => c :: unescapeChars cs
  | [] => []

theorem unescapeChars_escapeChars (cs : List Char) : unescapeChars (escapeChars cs) = cs := by
  induction cs with
  | nil => rfl
  | cons c cs ih =>
    by_cases special : isSpecial c = true
    · have step : escapeChars (c :: cs) = '\\' :: c :: escapeChars cs := by
        simp [escapeChars, special]
      rw [step, unescapeChars, ih]
    · have step : escapeChars (c :: cs) = c :: escapeChars cs := by
        simp [escapeChars, special]
      have plain : c ≠ '\\' := by
        rintro rfl
        exact special rfl
      rw [step, unescapeChars, ih]
      intro d ds same
      simp [plain] at same

end MediaSearch.Sql
