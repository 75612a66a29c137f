/-
MediaSearch/Proofs/Sql/Arity.lean

The placeholders of a query are as many as its parameters.

A scanner counts the placeholders over a whole text, and a quote that stays
open would hide all that follow.  So what is shown of a fragment is more than
equal numbers: it leaves no quote open either (`Fragment.Balanced`).
Balanced fragments are closed under everything that puts fragments together,
so a query is balanced if the names in it have neither quotes nor question
marks (`Query.isNamed`).

Main result: `balanced_of_isNamed`.
-/
import MediaSearch.Proofs.Number.Decimal
import MediaSearch.Proofs.Sql.Fragment

namespace MediaSearch.Sql

namespace Fragment

/-! ### Texts -/

/-- The quote that is open after some characters. -/
def endQuote (quote : Option Char) (cs : List Char) : Option Char :=
  cs.foldl nextQuote quote

/-- What is counted in the second part depends on the quote that the first leaves open. -/
theorem countFrom_append (quote : Option Char) (cs rest : List Char) :
    countFrom quote (cs ++ rest) = countFrom quote cs + countFrom (endQuote quote cs) rest := by
  induction cs generalizing quote with
  | nil => rw [List.nil_append, countFrom, Nat.zero_add]; rfl
  | cons c cs ih =>
    rw [List.cons_append, countFrom, countFrom, ih, Nat.add_assoc]
    rfl

theorem endQuote_append (quote : Option Char) (cs rest : List Char) :
    endQuote quote (cs ++ rest) = endQuote (endQuote quote cs) rest :=
  List.foldl_append

/-- Whether a text has some placeholders and leaves no quote open. -/
structure Counts (text : String) (placeholders : Nat) : Prop where
  count : countFrom none text.toList = placeholders
  closed : endQuote none text.toList = none

theorem Counts.append {s t : String} {m n : Nat} (left : Counts s m) (right : Counts t n) :
    Counts (s ++ t) (m + n) where
  count := by
    rw [String.toList_append, countFrom_append, left.count, left.closed, right.count]
  closed := by
    rw [String.toList_append, endQuote_append, left.closed, right.closed]

/-- A text without placeholders that leaves no quote open. -/
def isPlain (text : String) : Bool :=
  countFrom none text.toList == 0 && endQuote none text.toList == none

theorem counts_of_isPlain {text : String} (plain : isPlain text = true) : Counts text 0 := by
  rw [isPlain, Bool.and_eq_true, beq_iff_eq, beq_iff_eq] at plain
  exact ⟨plain.1, plain.2⟩

theorem isPlain_of_counts {text : String} (counts : Counts text 0) : isPlain text = true := by
  rw [isPlain, counts.count, counts.closed]
  rfl

theorem isPlain_append {s t : String} (left : isPlain s = true) (right : isPlain t = true) :
    isPlain (s ++ t) = true :=
  isPlain_of_counts ((counts_of_isPlain left).append (counts_of_isPlain right))

/-- Digits are plain. -/
theorem isPlain_toString (n : Nat) : isPlain (toString n) = true := by
  -- no digit opens a quote, so the count starts over at each of them
  have digits (cs : List Char) (all : ∀ c ∈ cs, c.isDigit = true) :
      countFrom none cs = 0 ∧ endQuote none cs = none := by
    induction cs with
    | nil => exact ⟨rfl, rfl⟩
    | cons c cs ih =>
      have rest := ih fun d there => all d (List.mem_cons_of_mem c there)
      have digit := all c List.mem_cons_self
      have placeholder : c ≠ '?' := by
        rintro rfl
        exact absurd digit (by decide)
      have quote : nextQuote none c = none := by
        refine if_neg ?_
        rintro (rfl | rfl) <;> exact absurd digit (by decide)
      rw [countFrom, quote, if_neg (by simp [placeholder]), rest.1]
      exact ⟨rfl, by rw [endQuote, List.foldl_cons, quote]; exact rest.2⟩
  have chars := digits (toString n).toList fun c there =>
    Nat.isDigit_of_mem_toDigits (by decide) (by decide) (toList_toString_nat n ▸ there)
  exact isPlain_of_counts ⟨chars.1, chars.2⟩

/-! ### Balanced fragments -/

/-- Whether a fragment has as many placeholders as parameters and leaves no
quote open. -/
def Balanced (a : Fragment) : Prop :=
  Counts a.text a.params.length

theorem Balanced.checkArity {a : Fragment} (balanced : a.Balanced) : a.checkArity = .ok () :=
  if_pos balanced.count

theorem balanced_empty : empty.Balanced := ⟨by decide, by decide⟩

/-- Balanced fragments stay balanced when one is put after the other. -/
theorem Balanced.append {a b : Fragment} (left : a.Balanced) (right : b.Balanced) :
    (a ++ b).Balanced := by
  rw [Balanced, text_append, params_append, List.length_append]
  exact Counts.append left right

theorem balanced_raw {text : String} (plain : isPlain text = true) : (raw text).Balanced :=
  counts_of_isPlain plain

theorem Balanced.wrap {a : Fragment} (balanced : a.Balanced) {before after : String}
    (start : isPlain before = true) (stop : isPlain after = true) :
    (a.wrap before after).Balanced :=
  ((balanced_raw start).append balanced).append (balanced_raw stop)

theorem Balanced.pushText {a : Fragment} (balanced : a.Balanced) {text : String}
    (plain : isPlain text = true) : (a.pushText text).Balanced :=
  balanced.append (balanced_raw plain)

/-- Balanced fragments stay balanced when they are joined. -/
theorem balanced_join {separator : String} (plain : isPlain separator = true)
    {parts : List Fragment} (balanced : ∀ a ∈ parts, a.Balanced) :
    (join separator parts).Balanced := by
  match parts with
  | [] => exact balanced_empty
  | [a] => exact balanced a List.mem_cons_self
  | a :: b :: rest =>
    exact ((balanced a List.mem_cons_self).append (balanced_raw plain)).append
      (balanced_join plain fun c present => balanced c (List.mem_cons_of_mem a present))

/-- Each further placeholder comes after a comma. -/
theorem placeholders_succ (n : Nat) :
    placeholders (n + 2) = "?" ++ ", " ++ placeholders (n + 1) := by
  rw [placeholders, List.replicate_succ, List.replicate_succ, String.intercalate_cons_cons]
  rfl

/-- As many placeholders as are asked for. -/
theorem counts_placeholders (n : Nat) : Counts (placeholders n) n := by
  match n with
  | 0 => exact ⟨by decide, by decide⟩
  | 1 => exact ⟨by decide, by decide⟩
  | n + 2 =>
    have first : Counts ("?" ++ ", ") 1 := ⟨by decide, by decide⟩
    rw [placeholders_succ, Nat.add_comm (n + 1) 1]
    exact first.append (counts_placeholders (n + 1))

/-- A list has a placeholder for each of its values. -/
theorem balanced_inList {expr : String} (plain : isPlain expr = true) (values : List Value) :
    (inList expr values).Balanced := by
  have start : Counts (expr ++ " IN (") 0 :=
    counts_of_isPlain (isPlain_append plain (by decide))
  have stop : Counts ")" 0 := ⟨by decide, by decide⟩
  have all := (start.append (counts_placeholders values.length)).append stop
  rwa [Nat.zero_add, Nat.add_zero] at all

/-- Patterns have a placeholder each; the backslash that escapes stands in a
closed literal. -/
theorem balanced_likeAnyPrefix {expr : String} (plain : isPlain expr = true)
    (starts : List String) : (likeAnyPrefix expr starts).Balanced := by
  refine (balanced_join (by decide) fun a present => ?_).wrap (by decide) (by decide)
  obtain ⟨start, -, rfl⟩ := List.mem_map.mp present
  have pattern : Counts " LIKE ? ESCAPE '\\'" 1 := ⟨by decide, by decide⟩
  exact (counts_of_isPlain plain).append pattern

end Fragment

/-! ### Names -/

/-- Whether a reference has a plain name. -/
def Ref.isNamed (r : Ref) : Bool :=
  Fragment.isPlain r.text

/-- Whether the names in an expression are plain. -/
def Expr.isNamed : Expr → Bool
  | .ref r => r.isNamed
  | .number _ | .dash | .param _ | .countAll => true
  | .concat left right => left.isNamed && right.isNamed
  | .apply function left right => Fragment.isPlain function && left.isNamed && right.isNamed
  | .aggregate _ e => e.isNamed

/-- Whether a label, if there is one, is plain. -/
def labelIsNamed (label : Option String) : Bool :=
  label.all Fragment.isPlain

/-- Whether all names of a column are plain. -/
def Column.isNamed (c : Column) : Bool :=
  c.expr.isNamed && labelIsNamed c.label

/-- Whether all names of a join are plain. -/
def Join.isNamed (j : Join) : Bool :=
  Fragment.isPlain j.table && labelIsNamed j.label && j.left.isNamed && j.right.isNamed

mutual

/-- Whether the names in a condition are plain. -/
def Condition.isNamed : Condition → Bool
  | .compare left _ right => left.isNamed && right.isNamed
  | .isNull r | .fullText r _ | .oneOf r _ | .startsWithAny r _ => r.isNamed
  | .inQuery r q | .notInQuery r q | .equalsQuery r q => r.isNamed && q.isNamed

/-- Whether all names in a source are plain. -/
def Source.isNamed : Source → Bool
  | .named name label => Fragment.isPlain name && labelIsNamed label
  | .query q label => q.isNamed && labelIsNamed label

/-- Whether the names in a query are plain. -/
def Query.isNamed : Query → Bool
  | .select ⟨_, columns, source, joins, conditions, grouping, having⟩ =>
    columns.all Column.isNamed && source.isNamed && joins.all Join.isNamed
      && conditionsNamed conditions && grouping.all Expr.isNamed
      && having.all fun (e, _) => e.isNamed
  | .compound _ parts => partsNamed parts
  | .withStages stages body => stagesNamed stages && body.isNamed
  | .page body order _ _ => body.isNamed && order.all fun (e, _) => e.isNamed
  | .given _ => false

/-- Whether all names in conditions are plain. -/
def conditionsNamed : List Condition → Bool
  | [] => true
  | c :: cs => c.isNamed && conditionsNamed cs

/-- Whether all names in the parts of a compound are plain. -/
def partsNamed : List Query → Bool
  | [] => true
  | q :: qs => q.isNamed && partsNamed qs

/-- Whether the names of stages, and all names in them, are plain. -/
def stagesNamed : List (String × Query) → Bool
  | [] => true
  | (name, q) :: stages => Fragment.isPlain name && q.isNamed && stagesNamed stages

end

/-! ### Parts of queries -/

open Fragment

theorem balanced_placeholder (v : Value) : Balanced ⟨"?", [v]⟩ := by
  have one : Counts "?" 1 := ⟨by decide, by decide⟩
  exact one

theorem Expr.fragment_concat (left right : Expr) :
    (Expr.concat left right).fragment = left.fragment ++ raw " || " ++ right.fragment := by
  simp [Expr.fragment, Expr.text, Expr.params, raw, append_def]

theorem Expr.fragment_apply (function : String) (left right : Expr) :
    (Expr.apply function left right).fragment
      = (left.fragment ++ raw ", " ++ right.fragment).wrap (function ++ "(") ")" := by
  simp [Expr.fragment, Expr.text, Expr.params, raw, wrap, append_def, String.append_assoc]

theorem Expr.fragment_aggregate (function : Aggregate) (e : Expr) :
    ∃ before, isPlain before = true
      ∧ (Expr.aggregate function e).fragment = e.fragment.wrap before ")" := by
  cases function
  case min => exact ⟨"MIN(", by decide, by simp [Expr.fragment, Expr.text, Expr.params, raw, wrap,
    append_def, Aggregate.call]⟩
  case max => exact ⟨"MAX(", by decide, by simp [Expr.fragment, Expr.text, Expr.params, raw, wrap,
    append_def, Aggregate.call]⟩
  case avg => exact ⟨"AVG(", by decide, by simp [Expr.fragment, Expr.text, Expr.params, raw, wrap,
    append_def, Aggregate.call]⟩
  case countDistinct => exact ⟨"COUNT(DISTINCT ", by decide, by simp [Expr.fragment, Expr.text,
    Expr.params, raw, wrap, append_def, Aggregate.call]⟩

/-- An expression is balanced, since its values have placeholders of their own. -/
theorem balanced_expr {e : Expr} (named : e.isNamed = true) : e.fragment.Balanced := by
  induction e with
  | ref r => exact counts_of_isPlain named
  | number n => exact counts_of_isPlain (isPlain_toString n)
  | dash => exact ⟨by decide, by decide⟩
  | param v => exact balanced_placeholder v
  | concat left right ihLeft ihRight =>
    rw [Expr.isNamed, Bool.and_eq_true] at named
    rw [Expr.fragment_concat]
    exact ((ihLeft named.1).append (balanced_raw (by decide))).append (ihRight named.2)
  | apply function left right ihLeft ihRight =>
    rw [Expr.isNamed, Bool.and_eq_true, Bool.and_eq_true] at named
    obtain ⟨⟨plain, lefts⟩, rights⟩ := named
    rw [Expr.fragment_apply]
    exact (((ihLeft lefts).append (balanced_raw (by decide))).append (ihRight rights)).wrap
      (isPlain_append plain (by decide)) (by decide)
  | aggregate function e ih =>
    obtain ⟨before, plain, same⟩ := Expr.fragment_aggregate function e
    rw [same]
    exact (ih named).wrap plain (by decide)
  | countAll => exact ⟨by decide, by decide⟩

theorem isPlain_labelText {label : Option String} (named : labelIsNamed label = true) :
    isPlain (labelText label) = true := by
  cases label with
  | none => decide
  | some name => exact isPlain_append (by decide) named

theorem balanced_column {c : Column} (named : c.isNamed = true) : c.fragment.Balanced := by
  rw [Column.isNamed, Bool.and_eq_true] at named
  exact (balanced_expr named.1).pushText (isPlain_labelText named.2)

theorem balanced_join_fragment {j : Join} (named : j.isNamed = true) : j.fragment.Balanced := by
  rw [Join.isNamed, Bool.and_eq_true, Bool.and_eq_true, Bool.and_eq_true] at named
  obtain ⟨⟨⟨table, label⟩, left⟩, right⟩ := named
  have start : isPlain (" JOIN " ++ j.table ++ labelText j.label ++ " ON ") = true :=
    isPlain_append (isPlain_append (isPlain_append (by decide) table) (isPlain_labelText label))
      (by decide)
  exact (((balanced_raw start).append (balanced_expr left)).append
    (balanced_raw (by decide))).append (balanced_expr right)

/-- A clause is balanced, whether there is anything in it or not. -/
theorem balanced_clause {keyword separator : String} (word : isPlain keyword = true)
    (plain : isPlain separator = true) {parts : List Fragment}
    (balanced : ∀ a ∈ parts, a.Balanced) : (clauseFragment keyword separator parts).Balanced := by
  cases parts with
  | nil => exact balanced_empty
  | cons a rest => exact (balanced_raw word).append (balanced_join plain balanced)

theorem balanced_having {having : Option (Expr × Value)}
    (named : having.all (fun (e, _) => e.isNamed) = true) : (havingFragment having).Balanced := by
  cases having with
  | none => exact balanced_empty
  | some condition =>
    obtain ⟨e, v⟩ := condition
    have value : Balanced ⟨" = ?", [v]⟩ := by
      have one : Counts " = ?" 1 := ⟨by decide, by decide⟩
      exact one
    exact ((balanced_raw (by decide)).append (balanced_expr named)).append value

theorem balanced_order {order : List (Expr × SortDirection)}
    (named : order.all (fun (e, _) => e.isNamed) = true) : (orderFragment order).Balanced := by
  refine balanced_clause (by decide) (by decide) fun a present => ?_
  obtain ⟨⟨e, direction⟩, listed, rfl⟩ := List.mem_map.mp present
  refine (balanced_expr (List.all_eq_true.mp named _ listed)).pushText ?_
  cases direction <;> decide

/-! ### Queries -/

mutual

/-- A condition with plain names is balanced. -/
theorem balanced_condition (c : Condition) (named : c.isNamed = true) : c.fragment.Balanced := by
  match c with
  | .compare left operator right =>
    rw [Condition.isNamed, Bool.and_eq_true] at named
    have symbol : isPlain (" " ++ operator.symbol ++ " ") = true := by
      cases operator <;> decide
    exact ((balanced_expr named.1).append (balanced_raw symbol)).append (balanced_expr named.2)
  | .isNull r => exact balanced_raw (isPlain_append named (by decide))
  | .fullText target expression =>
    have search : Counts " MATCH ?" 1 := ⟨by decide, by decide⟩
    exact (counts_of_isPlain named).append search
  | .oneOf r values => exact balanced_inList named values
  | .startsWithAny r starts => exact balanced_likeAnyPrefix named starts
  -- a subquery brings placeholders and values of its own
  | .inQuery r q | .notInQuery r q | .equalsQuery r q =>
    rw [Condition.isNamed, Bool.and_eq_true] at named
    exact (balanced_of_isNamed q named.2).wrap (isPlain_append named.1 (by decide)) (by decide)

/-- A source with plain names is balanced. -/
theorem balanced_source (source : Source) (named : source.isNamed = true) :
    source.fragment.Balanced := by
  match source with
  | .named name label =>
    rw [Source.isNamed, Bool.and_eq_true] at named
    exact balanced_raw (isPlain_append named.1 (isPlain_labelText named.2))
  | .query q label =>
    rw [Source.isNamed, Bool.and_eq_true] at named
    exact (balanced_of_isNamed q named.1).wrap (by decide)
      (isPlain_append (by decide) (isPlain_labelText named.2))

/-- **A query whose names are plain is balanced.** -/
theorem balanced_of_isNamed (q : Query) (named : q.isNamed = true) : q.fragment.Balanced := by
  match q with
  | .select ⟨distinct, columns, source, joins, conditions, grouping, having⟩ =>
    simp only [Query.isNamed, Bool.and_eq_true] at named
    obtain ⟨⟨⟨⟨⟨columnsNamed, sourceNamed⟩, joinsNamed⟩, conditionsNamed⟩, groupingNamed⟩,
      havingNamed⟩ := named
    -- clause by clause, as the text of a `SELECT` is put together
    have select : (selectFragment distinct columns).Balanced := by
      have word : isPlain (if distinct then "SELECT DISTINCT " else "SELECT ") = true := by
        cases distinct <;> decide
      refine ((balanced_raw word).append (balanced_join (by decide) fun a present => ?_)).append
        (balanced_raw (by decide))
      obtain ⟨c, listed, rfl⟩ := List.mem_map.mp present
      exact balanced_column (List.all_eq_true.mp columnsNamed c listed)
    have joined : (join "" (joins.map Join.fragment)).Balanced := by
      refine balanced_join (by decide) fun a present => ?_
      obtain ⟨j, listed, rfl⟩ := List.mem_map.mp present
      exact balanced_join_fragment (List.all_eq_true.mp joinsNamed j listed)
    have grouped : (clauseFragment " GROUP BY " ", " (grouping.map Expr.fragment)).Balanced := by
      refine balanced_clause (by decide) (by decide) fun a present => ?_
      obtain ⟨e, listed, rfl⟩ := List.mem_map.mp present
      exact balanced_expr (List.all_eq_true.mp groupingNamed e listed)
    rw [Query.fragment]
    exact ((((select.append (balanced_source source sourceNamed)).append joined).append
      (balanced_clause (by decide) (by decide)
        (balanced_conditions conditions conditionsNamed))).append grouped).append
      (balanced_having havingNamed)
  | .compound operator parts =>
    have keyword : isPlain (" " ++ operator.keyword ++ " ") = true := by
      cases operator <;> decide
    exact balanced_join keyword (balanced_parts parts named)
  | .withStages stages body =>
    rw [Query.isNamed, Bool.and_eq_true] at named
    exact ((balanced_join (by decide) (balanced_stages stages named.1)).wrap (by decide)
      (by decide)).append (balanced_of_isNamed body named.2)
  | .page body order limit offset =>
    rw [Query.isNamed, Bool.and_eq_true] at named
    -- limit and offset are bound like all other values
    have window : Balanced ⟨" LIMIT ? OFFSET ?", [.integer limit, .integer offset]⟩ := by
      have two : Counts " LIMIT ? OFFSET ?" 2 := ⟨by decide, by decide⟩
      exact two
    exact ((balanced_of_isNamed body named.1).append (balanced_order named.2)).append window
  -- nothing is known about a query given as text
  | .given sql => cases named

theorem balanced_conditions (conditions : List Condition)
    (named : conditionsNamed conditions = true) :
    ∀ a ∈ conditionFragments conditions, a.Balanced := by
  match conditions with
  | [] => exact fun a present => absurd present List.not_mem_nil
  | c :: cs =>
    rw [conditionsNamed, Bool.and_eq_true] at named
    exact List.forall_mem_cons.mpr
      ⟨balanced_condition c named.1, balanced_conditions cs named.2⟩

theorem balanced_parts (parts : List Query) (named : partsNamed parts = true) :
    ∀ a ∈ queryFragments parts, a.Balanced := by
  match parts with
  | [] => exact fun a present => absurd present List.not_mem_nil
  | q :: qs =>
    rw [partsNamed, Bool.and_eq_true] at named
    exact List.forall_mem_cons.mpr ⟨balanced_of_isNamed q named.1, balanced_parts qs named.2⟩

/-- Stages with plain names are balanced. -/
theorem balanced_stages (stages : List (String × Query)) (named : stagesNamed stages = true) :
    ∀ a ∈ stageFragments stages, a.Balanced := by
  match stages with
  | [] => exact fun a present => absurd present List.not_mem_nil
  | (name, q) :: stages =>
    rw [stagesNamed, Bool.and_eq_true, Bool.and_eq_true] at named
    exact List.forall_mem_cons.mpr
      ⟨(balanced_of_isNamed q named.1.2).wrap (isPlain_append named.1.1 (by decide)) (by decide),
        balanced_stages stages named.2⟩

end

end MediaSearch.Sql
