/-
MediaSearch/Proofs/Sql/Text.lean

What the text of a query depends on.

The text of a fragment that is put together depends on the texts of its parts
only, and a value adds nothing to the text but its placeholder.  So two
queries that differ in their values have one text, and to show it is to
compare them part by part: there is one lemma for each kind of query.  Lists
of values matter by their lengths (`text_oneOf`, `text_startsWithAny`).
-/
import MediaSearch.Proofs.Sql.Fragment

namespace MediaSearch.Sql

namespace Fragment

/-! ### Fragments -/

@[simp] theorem text_wrap (a : Fragment) (before after : String) :
    (a.wrap before after).text = before ++ a.text ++ after := rfl

@[simp] theorem text_pushText (a : Fragment) (text : String) :
    (a.pushText text).text = a.text ++ text := rfl

theorem text_join (separator : String) (parts : List Fragment) :
    (join separator parts).text = separator.intercalate (parts.map text) := by
  match parts with
  | [] => rfl
  | [a] => rw [join, List.map_singleton, String.intercalate_singleton]
  | a :: b :: rest =>
    rw [join, text_append, text_append, text_join separator (b :: rest), text_raw]
    simp only [List.map_cons, String.intercalate_cons_cons]

theorem text_join_congr {separator : String} {parts others : List Fragment}
    (same : parts.map text = others.map text) :
    (join separator parts).text = (join separator others).text := by
  rw [text_join, text_join, same]

theorem text_clause_congr {keyword separator : String} {parts others : List Fragment}
    (same : parts.map text = others.map text) :
    (clauseFragment keyword separator parts).text
      = (clauseFragment keyword separator others).text := by
  cases parts with
  | nil =>
    obtain rfl := List.map_eq_nil_iff.mp same.symm
    rfl
  | cons a rest =>
    cases others with
    | nil => cases same
    | cons b more =>
      show (raw keyword ++ join separator (a :: rest)).text
        = (raw keyword ++ join separator (b :: more)).text
      rw [text_append, text_append, text_join_congr same]

end Fragment

open Fragment

/-! ### Conditions -/

/-- The text of each condition. -/
def conditionTexts (conditions : List Condition) : List String :=
  conditions.map (·.fragment.text)

theorem conditionTexts_append (left right : List Condition) :
    conditionTexts (left ++ right) = conditionTexts left ++ conditionTexts right :=
  List.map_append

theorem conditionTexts_cons {c d : Condition} {conditions others : List Condition}
    (first : c.fragment.text = d.fragment.text)
    (rest : conditionTexts conditions = conditionTexts others) :
    conditionTexts (c :: conditions) = conditionTexts (d :: others) :=
  congrArg₂ List.cons first rest

theorem text_fullText (target : Ref) (expression other : String) :
    (Condition.fullText target expression).fragment.text
      = (Condition.fullText target other).fragment.text := by
  rw [Condition.fragment, Condition.fragment]

/-- As many placeholders as values. -/
theorem text_oneOf (r : Ref) {values others : List Value} (same : values.length = others.length) :
    (Condition.oneOf r values).fragment.text = (Condition.oneOf r others).fragment.text := by
  rw [Condition.fragment, Condition.fragment, inList, inList, same]

/-- As many patterns as texts. -/
theorem text_startsWithAny (r : Ref) {starts others : List String}
    (same : starts.length = others.length) :
    (Condition.startsWithAny r starts).fragment.text
      = (Condition.startsWithAny r others).fragment.text := by
  -- the text of a pattern does not depend on the start it is made for
  have texts (starts : List String) : (starts.map fun start =>
      (⟨r.text ++ " LIKE ? ESCAPE '\\'", [.text (startPattern start)]⟩ : Fragment)).map text
        = List.replicate starts.length (r.text ++ " LIKE ? ESCAPE '\\'") := by
    rw [List.map_map, ← List.map_const']
    rfl
  rw [Condition.fragment, Condition.fragment, likeAnyPrefix, likeAnyPrefix, text_wrap, text_wrap,
    text_join, text_join, texts, texts, same]

theorem text_inQuery (r : Ref) {q other : Query} (same : q.fragment.text = other.fragment.text) :
    (Condition.inQuery r q).fragment.text = (Condition.inQuery r other).fragment.text := by
  rw [Condition.fragment, Condition.fragment, text_wrap, text_wrap, same]

theorem text_notInQuery (r : Ref) {q other : Query}
    (same : q.fragment.text = other.fragment.text) :
    (Condition.notInQuery r q).fragment.text = (Condition.notInQuery r other).fragment.text := by
  rw [Condition.fragment, Condition.fragment, text_wrap, text_wrap, same]

theorem text_equalsQuery (r : Ref) {q other : Query}
    (same : q.fragment.text = other.fragment.text) :
    (Condition.equalsQuery r q).fragment.text
      = (Condition.equalsQuery r other).fragment.text := by
  rw [Condition.fragment, Condition.fragment, text_wrap, text_wrap, same]

/-! ### Queries -/

theorem text_source_query (label : Option String) {q other : Query}
    (same : q.fragment.text = other.fragment.text) :
    (Source.query q label).fragment.text = (Source.query other label).fragment.text := by
  rw [Source.fragment, Source.fragment, text_wrap, text_wrap, same]

/-- A `SELECT` is worded by its parts, so values in it make no difference. -/
theorem text_select (distinct : Bool) (joins : List Join) (grouping : List Expr)
    {columns columns' : List Column} {source source' : Source}
    {conditions conditions' : List Condition} {having having' : Option (Expr × Value)}
    (columnsSame : columns.map (·.fragment.text) = columns'.map (·.fragment.text))
    (sourceSame : source.fragment.text = source'.fragment.text)
    (conditionsSame : conditionTexts conditions = conditionTexts conditions')
    (havingSame : (havingFragment having).text = (havingFragment having').text) :
    (Query.select ⟨distinct, columns, source, joins, conditions, grouping, having⟩).fragment.text
      = (Query.select
        ⟨distinct, columns', source', joins, conditions', grouping, having'⟩).fragment.text := by
  have selected : (selectFragment distinct columns).text
      = (selectFragment distinct columns').text := by
    have columnsSame : (columns.map Column.fragment).map text
        = (columns'.map Column.fragment).map text := by
      rwa [List.map_map, List.map_map]
    rw [selectFragment, selectFragment, text_append, text_append, text_append, text_append,
      text_join_congr columnsSame]
  have conditionsSame : (conditionFragments conditions).map text
      = (conditionFragments conditions').map text := by
    rw [conditionFragments_eq_map, conditionFragments_eq_map, List.map_map, List.map_map]
    exact conditionsSame
  simp only [Query.fragment, text_append, selected, sourceSame, havingSame,
    text_clause_congr conditionsSame]

theorem text_compound (operator : SetOperator) {parts others : List Query}
    (same : parts.map (·.fragment.text) = others.map (·.fragment.text)) :
    (Query.compound operator parts).fragment.text
      = (Query.compound operator others).fragment.text := by
  have same : (queryFragments parts).map text = (queryFragments others).map text := by
    rw [queryFragments_eq_map, queryFragments_eq_map, List.map_map, List.map_map]
    exact same
  rw [Query.fragment, Query.fragment, text_join_congr same]

/-- A query combined from two. -/
theorem text_pair (operator : SetOperator) {left left' right right' : Query}
    (leftSame : left.fragment.text = left'.fragment.text)
    (rightSame : right.fragment.text = right'.fragment.text) :
    (Query.compound operator [left, right]).fragment.text
      = (Query.compound operator [left', right']).fragment.text :=
  text_compound operator (congrArg₂ (fun s t => [s, t]) leftSame rightSame)

/-- The name and the text of each stage. -/
def stageTexts (stages : List (String × Query)) : List (String × String) :=
  stages.map fun stage => (stage.1, stage.2.fragment.text)

theorem text_withStages {stages others : List (String × Query)} {body other : Query}
    (stagesSame : stageTexts stages = stageTexts others)
    (bodySame : body.fragment.text = other.fragment.text) :
    (Query.withStages stages body).fragment.text
      = (Query.withStages others other).fragment.text := by
  have texts (stages : List (String × Query)) : (stageFragments stages).map text
      = (stageTexts stages).map fun stage => stage.1 ++ " AS (" ++ stage.2 ++ ")" := by
    rw [stageFragments_eq_map, stageTexts, List.map_map, List.map_map]
    rfl
  have stagesSame : (stageFragments stages).map text = (stageFragments others).map text := by
    rw [texts, texts, stagesSame]
  rw [Query.fragment, Query.fragment, text_append, text_append, text_wrap, text_wrap,
    text_join_congr stagesSame, bodySame]

/-- A page is worded alike whatever its limit and offset are. -/
theorem text_page (order : List (Expr × SortDirection)) (limit offset limit' offset' : Int64)
    {body other : Query} (same : body.fragment.text = other.fragment.text) :
    (body.page order limit offset).fragment.text
      = (other.page order limit' offset').fragment.text := by
  rw [Query.fragment, Query.fragment, text_append, text_append, text_append, text_append, same]

end MediaSearch.Sql
