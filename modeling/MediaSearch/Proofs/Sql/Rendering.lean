/-
MediaSearch/Proofs/Sql/Rendering.lean

Values keep their places when fragments are put together.

A fragment is rendered by putting a value in the place of each placeholder,
the first value in the place of the first (`render`).  The scan for
placeholders carries a quote along, so the rendering of two fragments in a
row is that of the one and then that of the other only where the first leaves
no quote open and uses up its own values (`render_append`).  Both hold of
whatever is put together from fragments of which they hold
(`Combination.balanced`), to any depth, and so each part of a combination is
rendered as it would be by itself.

Main result: `combination_renders`.
-/
import MediaSearch.Proofs.Sql.Arity

namespace MediaSearch.Sql

namespace Fragment

/-! ### Rendered texts -/

/-- A character of a text, or the value in the place of a placeholder. -/
inductive Piece where
  | char (c : Char)
  | value (v : Value)
  deriving DecidableEq

/-- A text without values. -/
def chars (text : String) : List Piece :=
  text.toList.map .char

/-- Characters with values in the places of their placeholders, a quote being
open at the start or not.  Placeholders for which no value is left stay. -/
def fill (quote : Option Char) : List Char → List Value → List Piece
  | [], _ => []
  | c :: cs, [] => .char c :: fill (nextQuote quote c) cs []
  | c :: cs, v :: values =>
    if quote = none ∧ c = '?' then .value v :: fill (nextQuote quote c) cs values
    else .char c :: fill (nextQuote quote c) cs (v :: values)

/-- The text of a fragment with the values in the places of its placeholders. -/
def render (a : Fragment) : List Piece :=
  fill none a.text.toList a.params

/-- Without values a text stays as it is. -/
theorem fill_nil (quote : Option Char) (cs : List Char) : fill quote cs [] = cs.map .char := by
  induction cs generalizing quote with
  | nil => rfl
  | cons c cs ih => rw [fill, ih, List.map_cons]

@[simp] theorem render_raw (text : String) : (raw text).render = chars text :=
  fill_nil none text.toList

@[simp] theorem render_placeholder (v : Value) : render ⟨"?", [v]⟩ = [.value v] := by
  simp [render, fill]

/-- Characters that use up their values leave the other values to the rest. -/
theorem fill_append {quote : Option Char} {cs : List Char} {values : List Value}
    (enough : countFrom quote cs = values.length) (rest : List Char) (more : List Value) :
    fill quote (cs ++ rest) (values ++ more)
      = fill quote cs values ++ fill (endQuote quote cs) rest more := by
  induction cs generalizing quote values with
  | nil =>
    obtain rfl : values = [] := List.eq_nil_of_length_eq_zero enough.symm
    rfl
  | cons c cs ih =>
    rw [countFrom] at enough
    have later : endQuote quote (c :: cs) = endQuote (nextQuote quote c) cs := rfl
    by_cases mark : quote = none ∧ c = '?'
    · -- the placeholder takes the first value
      rw [if_pos mark, Nat.add_comm] at enough
      obtain ⟨v, values, rfl⟩ := List.exists_cons_of_length_eq_add_one enough.symm
      have fewer : countFrom (nextQuote quote c) cs = values.length := Nat.succ.inj enough
      rw [later, List.cons_append, List.cons_append, fill, fill, if_pos mark, if_pos mark,
        ih fewer, List.cons_append]
    · -- any other character stays, and all values are left
      rw [if_neg mark, Nat.zero_add] at enough
      have stays (values : List Value) (ds : List Char) : fill quote (c :: ds) values
          = .char c :: fill (nextQuote quote c) ds values := by
        cases values with
        | nil => rw [fill]
        | cons v values => rw [fill, if_neg mark]
      rw [later, List.cons_append, stays, stays, ih enough, List.cons_append]

/-- **A balanced fragment is rendered as if nothing followed it.** -/
theorem render_append {a : Fragment} (balanced : a.Balanced) (b : Fragment) :
    (a ++ b).render = a.render ++ b.render := by
  show fill none (a.text ++ b.text).toList (a.params ++ b.params) = _
  rw [String.toList_append, fill_append balanced.count, balanced.closed]
  rfl

/-! ### Combined fragments -/

theorem render_pushText {a : Fragment} (balanced : a.Balanced) (text : String) :
    (a.pushText text).render = a.render ++ chars text := by
  rw [pushText, render_append balanced, render_raw]

/-- A fragment between texts renders to itself between them. -/
theorem render_wrap {a : Fragment} (balanced : a.Balanced) {before : String}
    (start : isPlain before = true) (after : String) :
    (a.wrap before after).render = chars before ++ a.render ++ chars after := by
  have first := balanced_raw start
  rw [wrap, render_append (first.append balanced), render_append first, render_raw, render_raw]

/-- A join renders to what its parts render to, with the separator between any two. -/
theorem render_join {separator : String} (plain : isPlain separator = true)
    {parts : List Fragment} (balanced : ∀ a ∈ parts, a.Balanced) :
    (join separator parts).render = (chars separator).intercalate (parts.map render) := by
  match parts with
  | [] => rfl
  | [a] => simp [join]
  | a :: b :: rest =>
    obtain ⟨first, others⟩ := List.forall_mem_cons.mp balanced
    rw [join, render_append (first.append (balanced_raw plain)), render_append first, render_raw,
      render_join plain others, List.map_cons]
    exact (List.intercalate_cons_cons ..).symm

/-- As many placeholders as values, each with its own. -/
theorem placeholders_eq_join (values : List Value) :
    (⟨placeholders values.length, values⟩ : Fragment)
      = join ", " (values.map fun v => ⟨"?", [v]⟩) := by
  match values with
  | [] => rfl
  | [v] => rfl
  | v :: w :: rest =>
    have others := placeholders_eq_join (w :: rest)
    show _ = ⟨"?", [v]⟩ ++ raw ", " ++ join ", " ((w :: rest).map fun v => ⟨"?", [v]⟩)
    rw [← others, List.length_cons, List.length_cons, placeholders_succ]
    rfl

/-- A list is a join of placeholders between parentheses. -/
theorem inList_eq_wrap (expr : String) (values : List Value) :
    inList expr values
      = (join ", " (values.map fun v => ⟨"?", [v]⟩)).wrap (expr ++ " IN (") ")" := by
  rw [← placeholders_eq_join]
  simp [inList, wrap, append_def, raw, String.append_assoc]

/-- A list renders to its values in their order. -/
theorem render_inList {expr : String} (plain : isPlain expr = true) (values : List Value) :
    (inList expr values).render
      = chars (expr ++ " IN (") ++ (chars ", ").intercalate (values.map fun v => [.value v])
        ++ chars ")" := by
  have marks : ∀ a ∈ values.map fun v => (⟨"?", [v]⟩ : Fragment), a.Balanced := by
    intro a member
    obtain ⟨v, -, rfl⟩ := List.mem_map.mp member
    exact balanced_placeholder v
  have comma : isPlain ", " = true := by decide
  rw [inList_eq_wrap, render_wrap (balanced_join comma marks) (isPlain_append plain (by decide)),
    render_join comma marks, List.map_map]
  simp only [Function.comp_def, render_placeholder]

/-- One of the patterns that an expression is compared with. -/
theorem render_pattern {expr : String} (plain : isPlain expr = true) (v : Value) :
    render ⟨expr ++ " LIKE ? ESCAPE '\\'", [v]⟩
      = chars (expr ++ " LIKE ") ++ [.value v] ++ chars " ESCAPE '\\'" := by
  have split : (⟨expr ++ " LIKE ? ESCAPE '\\'", [v]⟩ : Fragment)
      = wrap ⟨"?", [v]⟩ (expr ++ " LIKE ") " ESCAPE '\\'" := by
    simp [wrap, append_def, raw, String.append_assoc]
  rw [split, render_wrap (balanced_placeholder v) (isPlain_append plain (by decide)),
    render_placeholder]

/-- Patterns render to one comparison for each text. -/
theorem render_likeAnyPrefix {expr : String} (plain : isPlain expr = true)
    (starts : List String) :
    (likeAnyPrefix expr starts).render
      = chars "(" ++ (chars " OR ").intercalate (starts.map fun start =>
          chars (expr ++ " LIKE ") ++ [.value (.text (startPattern start))]
            ++ chars " ESCAPE '\\'")
        ++ chars ")" := by
  have patterns : ∀ a ∈ starts.map fun start =>
      (⟨expr ++ " LIKE ? ESCAPE '\\'", [.text (startPattern start)]⟩ : Fragment),
      a.Balanced := by
    intro a member
    obtain ⟨start, -, rfl⟩ := List.mem_map.mp member
    have pattern : Counts " LIKE ? ESCAPE '\\'" 1 := ⟨by decide, by decide⟩
    exact (counts_of_isPlain plain).append pattern
  have alternative : isPlain " OR " = true := by decide
  rw [likeAnyPrefix, render_wrap (balanced_join alternative patterns) (by decide),
    render_join alternative patterns, List.map_map]
  simp only [Function.comp_def, render_pattern plain]

/-- Joining is joining the parts of a list apart. -/
theorem join_append (separator : String) {xs ys : List Fragment} (left : xs ≠ [])
    (right : ys ≠ []) :
    join separator (xs ++ ys) = join separator xs ++ raw separator ++ join separator ys := by
  induction xs with
  | nil => exact absurd rfl left
  | cons x xs ih =>
    -- the separator stands between the last part on the left and the first on the right
    cases xs with
    | nil =>
      obtain ⟨y, rest, rfl⟩ := List.exists_cons_of_ne_nil right
      rfl
    | cons x' xs =>
      have rest := ih (List.cons_ne_nil _ _)
      rw [List.cons_append] at rest
      rw [List.cons_append, List.cons_append, join, rest, join]
      simp only [append_assoc]

/-- Whether a fragment leaves no quote open and passes the check of its
arity. -/
structure Aligned (a : Fragment) : Prop where
  closed : endQuote none a.text.toList = none
  arity : a.checkArity = .ok ()

/-- A fragment is aligned if its placeholders are as many as its values and no
quote is open. -/
theorem aligned_iff_balanced {a : Fragment} : a.Aligned ↔ a.Balanced := by
  constructor
  · intro aligned
    refine ⟨?_, aligned.closed⟩
    by_contra different
    have refused : a.checkArity = .error _ := if_neg different
    exact nomatch refused.symm.trans aligned.arity
  · intro balanced
    exact ⟨balanced.closed, balanced.checkArity⟩

-- two fragments may pass the check and fail it together, where a quote is left open
example : (raw "'").checkArity = .ok () ∧ checkArity ⟨"?", [.null]⟩ = .ok ()
    ∧ (raw "'" ++ ⟨"?", [.null]⟩).checkArity = .error ⟨0, 1⟩ := by
  decide

end Fragment

/-! ### Expressions over fragments -/

open Fragment

/-- A fragment as it is put together: from given ones, by appending one to
another, and by the functions that add text or lists of values. -/
inductive Combination where
  | part (a : Fragment)
  | append (left right : Combination)
  | pushText (c : Combination) (text : String)
  | wrap (c : Combination) (before after : String)
  | join (separator : String) (parts : List Combination)
  | inList (expr : String) (values : List Value)
  | likeAnyPrefix (expr : String) (starts : List String)

namespace Combination

mutual

/-- What is put together. -/
def fragment : Combination → Fragment
  | part a => a
  | append left right => left.fragment ++ right.fragment
  | pushText c text => c.fragment.pushText text
  | wrap c before after => c.fragment.wrap before after
  | join separator parts => Fragment.join separator (fragments parts)
  | inList expr values => Fragment.inList expr values
  | likeAnyPrefix expr starts => Fragment.likeAnyPrefix expr starts

/-- The fragments of several combinations. -/
def fragments : List Combination → List Fragment
  | [] => []
  | c :: cs => c.fragment :: fragments cs

end

mutual

/-- The renderings of the parts, put together in the same way. -/
def rendering : Combination → List Piece
  | part a => a.render
  | append left right => left.rendering ++ right.rendering
  | pushText c text => c.rendering ++ chars text
  | wrap c before after => chars before ++ c.rendering ++ chars after
  | join separator parts => (chars separator).intercalate (renderings parts)
  | inList expr values =>
    chars (expr ++ " IN (") ++ (chars ", ").intercalate (values.map fun v => [.value v])
      ++ chars ")"
  | likeAnyPrefix expr starts =>
    chars "(" ++ (chars " OR ").intercalate (starts.map fun start =>
        chars (expr ++ " LIKE ") ++ [.value (.text (startPattern start))]
          ++ chars " ESCAPE '\\'")
      ++ chars ")"

/-- What several combinations render to. -/
def renderings : List Combination → List (List Piece)
  | [] => []
  | c :: cs => c.rendering :: renderings cs

end

theorem fragments_eq_map (parts : List Combination) : fragments parts = parts.map fragment := by
  induction parts with
  | nil => rfl
  | cons c cs ih => rw [fragments, ih, List.map_cons]

theorem renderings_eq_map (parts : List Combination) :
    renderings parts = parts.map rendering := by
  induction parts with
  | nil => rfl
  | cons c cs ih => rw [renderings, ih, List.map_cons]

/-- Whether the fragments that a combination starts from are aligned and the
texts that it adds are plain. -/
inductive Sound : Combination → Prop where
  | part {a : Fragment} (aligned : a.Aligned) : Sound (.part a)
  | append {left right : Combination} (lefts : Sound left) (rights : Sound right) :
      Sound (.append left right)
  | pushText {c : Combination} {text : String} (sound : Sound c) (plain : isPlain text = true) :
      Sound (.pushText c text)
  | wrap {c : Combination} {before after : String} (sound : Sound c)
      (start : isPlain before = true) (stop : isPlain after = true) :
      Sound (.wrap c before after)
  | join {separator : String} {parts : List Combination} (plain : isPlain separator = true)
      (sound : ∀ c ∈ parts, Sound c) : Sound (.join separator parts)
  | inList {expr : String} (plain : isPlain expr = true) (values : List Value) :
      Sound (.inList expr values)
  | likeAnyPrefix {expr : String} (plain : isPlain expr = true) (starts : List String) :
      Sound (.likeAnyPrefix expr starts)

/-- Sound combinations are balanced. -/
theorem Sound.balanced {c : Combination} (sound : c.Sound) : c.fragment.Balanced := by
  induction sound with
  | part aligned => exact aligned_iff_balanced.mp aligned
  | append _ _ lefts rights => exact lefts.append rights
  | pushText _ plain ih => exact ih.pushText plain
  | wrap _ start stop ih => exact ih.wrap start stop
  | join plain _ ih =>
    rw [fragment, fragments_eq_map]
    exact balanced_join plain (List.forall_mem_map.mpr ih)
  | inList plain values => exact balanced_inList plain values
  | likeAnyPrefix plain starts => exact balanced_likeAnyPrefix plain starts

/-- Each part is rendered as it would be by itself. -/
theorem Sound.render_eq {c : Combination} (sound : c.Sound) :
    c.fragment.render = c.rendering := by
  induction sound with
  | part _ => rfl
  | append lefts _ ihLeft ihRight =>
    rw [fragment, render_append lefts.balanced, ihLeft, ihRight, rendering]
  | pushText sound _ ih => rw [fragment, render_pushText sound.balanced, ih, rendering]
  | wrap sound start _ ih => rw [fragment, render_wrap sound.balanced start, ih, rendering]
  | @join separator parts plain sound ih =>
    have balanced : ∀ a ∈ parts.map fragment, a.Balanced :=
      List.forall_mem_map.mpr fun c member => (sound c member).balanced
    rw [fragment, fragments_eq_map, render_join plain balanced, List.map_map, rendering,
      renderings_eq_map]
    congr 1
    exact List.map_congr_left ih
  | inList plain values => exact render_inList plain values
  | likeAnyPrefix plain starts => exact render_likeAnyPrefix plain starts

/-- **Parameters stay with their placeholders in every combination**: it
leaves no quote open, passes the check of its arity, and is rendered as its
parts are.  Appending is associative with the empty fragment as its neutral
element, and a list may be joined in two parts. -/
theorem combination_renders (c : Combination) (sound : c.Sound) :
    c.fragment.Aligned ∧ c.fragment.render = c.rendering
      ∧ (∀ a b d : Fragment, a ++ b ++ d = a ++ (b ++ d))
      ∧ (∀ a : Fragment, Fragment.empty ++ a = a ∧ a ++ Fragment.empty = a)
      ∧ ∀ (separator : String) (xs ys : List Fragment), xs ≠ [] → ys ≠ [] →
        Fragment.join separator (xs ++ ys)
          = Fragment.join separator xs ++ raw separator ++ Fragment.join separator ys :=
  ⟨aligned_iff_balanced.mpr sound.balanced, sound.render_eq, append_assoc,
    fun a => ⟨empty_append a, append_empty a⟩,
    fun separator _ _ left right => join_append separator left right⟩

/-- Conditions of every form, one of them with a question mark in a literal. -/
def mixedConditions : Combination :=
  .join " AND "
    [.wrap (.append (.part ⟨"size = ?", [.integer 4]⟩) (.inList " OR id" [.integer 1, .null]))
        "(" ")",
      .pushText (.likeAnyPrefix "path" ["/a", "/b"]) " ",
      .part ⟨"name = '?'", []⟩]

theorem mixedConditions_renders :
    mixedConditions.Sound ∧ mixedConditions.fragment.Aligned
      ∧ mixedConditions.fragment.render = mixedConditions.rendering := by
  have compared : Sound (.part ⟨"size = ?", [.integer 4]⟩) :=
    .part ⟨by decide, by decide⟩
  have literal : Sound (.part ⟨"name = '?'", []⟩) := .part ⟨by decide, by decide⟩
  have listed : Sound (.inList " OR id" [.integer 1, .null]) := .inList (by decide) _
  have started : Sound (.likeAnyPrefix "path" ["/a", "/b"]) := .likeAnyPrefix (by decide) _
  have sound : mixedConditions.Sound := by
    refine .join (by decide) ?_
    simp only [List.forall_mem_cons]
    exact ⟨.wrap (.append compared listed) (by decide) (by decide),
      .pushText started (by decide), literal, nofun⟩
  have holds := combination_renders mixedConditions sound
  exact ⟨sound, holds.1, holds.2.1⟩

end Combination

end MediaSearch.Sql
