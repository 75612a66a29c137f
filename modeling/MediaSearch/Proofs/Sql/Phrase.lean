/-
MediaSearch/Proofs/Sql/Phrase.lean

The text of a query reads the tables of the query.

A query is a tree, and `Query.reads` lists the tables in it.  Where every
name in the tree is a word (`Query.names`), the text of the query is a
phrase: the tables it names are those of the tree, in the same order, and it
closes the parentheses it opens.  Nothing else can name a table, since values
are never part of the text.

Main result: `phrase_query`.
-/
import MediaSearch.Proofs.Sql.Frame
import MediaSearch.Proofs.Sql.Words

namespace MediaSearch.Sql

open Fragment

/-! ### Names -/

/-- The names in an expression. -/
def Expr.names : Expr → List String
  | .ref r => [r.text]
  | .number _ | .dash | .param _ | .countAll => []
  | .concat left right => left.names ++ right.names
  | .apply function left right => function :: (left.names ++ right.names)
  | .aggregate _ e => e.names

/-- The names in a selected column. -/
def Column.names (c : Column) : List String :=
  c.expr.names ++ c.label.toList

/-- The names in a join. -/
def Join.names (j : Join) : List String :=
  j.table :: (j.label.toList ++ (j.left.names ++ j.right.names))

/-- The names in what a group must have. -/
def havingNames : Option (Expr × Value) → List String
  | some (e, _) => e.names
  | none => []

mutual

/-- The names in a condition. -/
def Condition.names : Condition → List String
  | .compare left _ right => left.names ++ right.names
  | .isNull r | .fullText r _ | .oneOf r _ | .startsWithAny r _ => [r.text]
  | .inQuery r q | .notInQuery r q | .equalsQuery r q => r.text :: q.names

/-- The names in a source. -/
def Source.names : Source → List String
  | .named name label => name :: label.toList
  | .query q label => q.names ++ label.toList

/-- The names in a query.  A query given as text is one name. -/
def Query.names : Query → List String
  | .select ⟨_, columns, source, joins, conditions, grouping, having⟩ =>
    columns.flatMap Column.names ++ source.names ++ joins.flatMap Join.names
      ++ conditionNames conditions ++ grouping.flatMap Expr.names ++ havingNames having
  | .compound _ parts => partNames parts
  | .withStages stages body => stageNames stages ++ body.names
  | .page body order _ _ => body.names ++ order.flatMap fun (e, _) => e.names
  | .given sql => [sql.text]

/-- The names in conditions. -/
def conditionNames : List Condition → List String
  | [] => []
  | c :: cs => c.names ++ conditionNames cs

/-- The names in the parts of a compound. -/
def partNames : List Query → List String
  | [] => []
  | q :: qs => q.names ++ partNames qs

/-- The names of stages, and those in them. -/
def stageNames : List (String × Query) → List String
  | [] => []
  | (name, q) :: stages => name :: (q.names ++ stageNames stages)

end

theorem conditionNames_eq_flatMap (conditions : List Condition) :
    conditionNames conditions = conditions.flatMap Condition.names := by
  induction conditions with
  | nil => rfl
  | cons c cs ih => rw [conditionNames, ih, List.flatMap_cons]

theorem partNames_eq_flatMap (parts : List Query) :
    partNames parts = parts.flatMap Query.names := by
  induction parts with
  | nil => rfl
  | cons q qs ih => rw [partNames, ih, List.flatMap_cons]

/-- Whether all of some names are words. -/
def AllWords (names : List String) : Prop :=
  ∀ name ∈ names, isWord name = true

instance (names : List String) : Decidable (AllWords names) :=
  inferInstanceAs (Decidable (∀ _ ∈ _, _))

@[simp] theorem allWords_nil : AllWords [] := nofun

@[simp] theorem allWords_cons {name : String} {names : List String} :
    AllWords (name :: names) ↔ isWord name = true ∧ AllWords names :=
  List.forall_mem_cons

@[simp] theorem allWords_append {names others : List String} :
    AllWords (names ++ others) ↔ AllWords names ∧ AllWords others :=
  List.forall_mem_append

@[simp] theorem allWords_flatMap {α : Type} {xs : List α} {f : α → List String} :
    AllWords (xs.flatMap f) ↔ ∀ x ∈ xs, AllWords (f x) := by
  constructor
  · intro words x present name listed
    exact words name (List.mem_flatMap.mpr ⟨x, present, listed⟩)
  · intro words name listed
    obtain ⟨x, present, within⟩ := List.mem_flatMap.mp listed
    exact words x present name within

/-! ### Parts of queries -/

section Parts

variable {α : Type} {p : Place} {depth : Nat} {separator : String}

/-- Parts with a text between any two. -/
theorem span_join {xs : List α} {f : α → Fragment} {g : α → List String}
    (empty : Span p depth "" [] .stop depth) (next : Span .stop depth separator [] p depth)
    (each : ∀ x ∈ xs, Span p depth (f x).text (g x) .stop depth) :
    Span p depth (join separator (xs.map f)).text (xs.flatMap g) .stop depth := by
  match xs with
  | [] => exact empty
  | [x] =>
    rw [List.flatMap_singleton]
    exact each x List.mem_cons_self
  | x :: y :: rest =>
    obtain ⟨first, others⟩ := List.forall_mem_cons.mp each
    exact (first.followed next).append (span_join empty next others)

theorem phrase_join {xs : List α} {f : α → Fragment} {g : α → List String}
    (next : isPiece .stop separator .word 0 = true) (each : ∀ x ∈ xs, Phrase (f x).text (g x)) :
    Phrase (join separator (xs.map f)).text (xs.flatMap g) := fun depth =>
  span_join (Span.nil .word depth).toStop (.piece next depth) fun x present => each x present depth

/-- Parts that read no tables. -/
theorem phrase_join_nil {xs : List α} {f : α → Fragment}
    (next : isPiece .stop separator .word 0 = true) (each : ∀ x ∈ xs, Phrase (f x).text []) :
    Phrase (join separator (xs.map f)).text [] := by
  have all := phrase_join next each
  rwa [List.flatMap_eq_nil_iff.mpr fun _ _ => rfl] at all

/-- A keyword and parts, or nothing. -/
theorem span_clause {keyword : String} {xs : List α} {f : α → Fragment} {g : α → List String}
    (first : isPiece .stop keyword .word 0 = true) (next : isPiece .stop separator .word 0 = true)
    (each : ∀ x ∈ xs, Phrase (f x).text (g x)) (depth : Nat) :
    Span .stop depth (clauseFragment keyword separator (xs.map f)).text (xs.flatMap g) .stop
      depth := by
  cases xs with
  | nil => exact .nil .stop depth
  | cons x rest => exact (Span.piece first depth).append (phrase_join next each depth)

theorem span_clause_nil {keyword : String} {xs : List α} {f : α → Fragment}
    (first : isPiece .stop keyword .word 0 = true) (next : isPiece .stop separator .word 0 = true)
    (each : ∀ x ∈ xs, Phrase (f x).text []) (depth : Nat) :
    Span .stop depth (clauseFragment keyword separator (xs.map f)).text [] .stop depth := by
  have all := span_clause first next each depth
  rwa [List.flatMap_eq_nil_iff.mpr fun _ _ => rfl] at all

end Parts

/-- A text in parentheses, and what comes before them. -/
theorem Phrase.enclose {text before : String} {tables : List String} (phrase : Phrase text tables)
    {p : Place} (opens : isPiece p before .word 1 = true) (depth : Nat) :
    Span p depth (before ++ text ++ ")") tables .stop depth :=
  ((Span.opening opens depth).append (phrase (depth + 1))).followed (.closing depth)

/-- A label names no table. -/
theorem span_label {label : Option String} (words : AllWords label.toList) (depth : Nat) :
    Span .stop depth (labelText label) [] .stop depth := by
  cases label with
  | none => exact .nil .stop depth
  | some name =>
    have last : isWord name = true := words name List.mem_cons_self
    exact (Span.piece (by decide) depth).append (.word last depth)

/-- An expression names no table. -/
theorem phrase_expr {e : Expr} (words : AllWords e.names) : Phrase e.text [] := by
  induction e with
  | ref r => exact phrase_word (words _ List.mem_cons_self)
  | number n => exact phrase_word (isWord_toString n)
  | dash => exact .piece (by decide)
  | param v =>
    have mark : isPiece .word "?" .stop 0 = true := by decide
    exact .piece mark
  | countAll => exact .piece (by decide)
  | concat left right ihLeft ihRight =>
    rw [Expr.names, allWords_append] at words
    intro depth
    exact ((ihLeft words.1 depth).append (.piece (by decide) depth)).append
      (ihRight words.2 depth)
  | apply function left right ihLeft ihRight =>
    rw [Expr.names, allWords_cons, allWords_append] at words
    obtain ⟨name, lefts, rights⟩ := words
    intro depth
    exact ((((Span.word name depth).append (.opening (by decide) depth)).append
      (ihLeft lefts (depth + 1))).append (.piece (by decide) (depth + 1))).append
      (ihRight rights (depth + 1)) |>.append (.closing depth)
  -- every aggregate opens one parenthesis and closes it
  | aggregate function e ih =>
    intro depth
    cases function
    case min => exact (ih words).enclose (by decide) depth
    case max => exact (ih words).enclose (by decide) depth
    case avg => exact (ih words).enclose (by decide) depth
    case countDistinct => exact (ih words).enclose (by decide) depth

theorem phrase_column {c : Column} (words : AllWords c.names) : Phrase c.fragment.text [] := by
  rw [Column.names, allWords_append] at words
  intro depth
  exact (phrase_expr words.1 depth).append (span_label words.2 depth)

/-- A join names the table that it joins. -/
theorem span_join_fragment {j : Join} (words : AllWords j.names) (depth : Nat) :
    Span .stop depth j.fragment.text [j.table] .stop depth := by
  rw [Join.names, allWords_cons, allWords_append, allWords_append] at words
  obtain ⟨table, label, left, right⟩ := words
  have named : Span .stop depth (" JOIN " ++ j.table ++ labelText j.label ++ " ON ") [j.table]
      .word depth :=
    ((Span.piece (by decide) depth).append (.table table depth)).followed (span_label label depth)
      |>.followed (.piece (by decide) depth)
  exact ((named.followed (phrase_expr left depth)).followed (.piece (by decide) depth)).followed
    (phrase_expr right depth)

theorem span_having {having : Option (Expr × Value)} (words : AllWords (havingNames having))
    (depth : Nat) : Span .stop depth (havingFragment having).text [] .stop depth := by
  cases having with
  | none => exact .nil .stop depth
  | some condition =>
    have value : isPiece .stop " = ?" .stop 0 = true := by decide
    exact ((Span.piece (by decide) depth).append (phrase_expr words depth)).append
      (.piece value depth)

theorem span_order {order : List (Expr × SortDirection)}
    (words : ∀ key ∈ order, AllWords key.1.names) (depth : Nat) :
    Span .stop depth (orderFragment order).text [] .stop depth := by
  refine span_clause_nil (by decide) (by decide) (fun key listed depth => ?_) depth
  obtain ⟨e, direction⟩ := key
  have sorted : Span .stop depth (" " ++ direction.keyword) [] .stop depth :=
    .piece (by cases direction <;> decide) depth
  exact (phrase_expr (words _ listed) depth).append sorted

theorem phrase_placeholders (n : Nat) : Phrase (placeholders n) [] := by
  match n with
  | 0 => exact fun depth => (Span.nil .word depth).toStop
  | 1 => exact .piece (by decide)
  | n + 2 =>
    have first : isPiece .word ("?" ++ ", ") .word 0 = true := by decide
    rw [placeholders_succ]
    intro depth
    exact (Span.piece first depth).append (phrase_placeholders (n + 1) depth)

/-- Patterns name no table, whatever they look for. -/
theorem phrase_likeAnyPrefix {expr : String} (word : isWord expr = true) (starts : List String) :
    Phrase (likeAnyPrefix expr starts).text [] := by
  have pattern : ∀ start ∈ starts, Phrase
      (Fragment.text ⟨expr ++ " LIKE ? ESCAPE '\\'", [.text (startPattern start)]⟩) [] :=
    fun start _ depth => (Span.word word depth).append (.piece (by decide) depth)
  exact (phrase_join_nil (by decide) pattern).enclose (by decide)

/-! ### Queries -/

theorem conditionReads_eq_flatMap (conditions : List Condition) :
    conditionReads conditions = conditions.flatMap Condition.reads := by
  induction conditions with
  | nil => rfl
  | cons c cs ih => rw [conditionReads, ih, List.flatMap_cons]

theorem partReads_eq_flatMap (parts : List Query) :
    partReads parts = parts.flatMap Query.reads := by
  induction parts with
  | nil => rfl
  | cons q qs ih => rw [partReads, ih, List.flatMap_cons]

theorem stageReads_eq_flatMap (stages : List (String × Query)) :
    stageReads stages = stages.flatMap fun stage => stage.2.reads := by
  induction stages with
  | nil => rfl
  | cons stage stages ih => rw [stageReads, ih, List.flatMap_cons]

mutual

/-- A condition names the tables of the query in it. -/
theorem phrase_condition (c : Condition) (words : AllWords c.names) :
    Phrase c.fragment.text c.reads := by
  match c with
  | .compare left operator right =>
    rw [Condition.names, allWords_append] at words
    have symbol : isPiece .stop (" " ++ operator.symbol ++ " ") .word 0 = true := by
      cases operator <;> decide
    intro depth
    exact ((phrase_expr words.1 depth).append (.piece symbol depth)).append
      (phrase_expr words.2 depth)
  | .isNull r | .fullText r _ =>
    intro depth
    exact (Span.word (words _ List.mem_cons_self) depth).append (.piece (by decide) depth)
  | .oneOf r values =>
    intro depth
    exact ((Span.word (words _ List.mem_cons_self) depth).append (.opening (by decide) depth)
      |>.append (phrase_placeholders values.length (depth + 1))).append (.closing depth)
  | .startsWithAny r starts => exact phrase_likeAnyPrefix (words _ List.mem_cons_self) starts
  | .inQuery r q | .notInQuery r q | .equalsQuery r q =>
    rw [Condition.names, allWords_cons] at words
    intro depth
    exact (((Span.word words.1 depth).append (.opening (by decide) depth)).append
      (phrase_query q words.2 (depth + 1))).followed (.closing depth)

/-- A source names the table after `FROM`, or those of the query in it. -/
theorem span_source (source : Source) (words : AllWords source.names) (depth : Nat) :
    Span .table depth source.fragment.text source.reads .stop depth := by
  match source with
  | .named name label =>
    rw [Source.names, allWords_cons] at words
    exact (Span.table words.1 depth).followed (span_label words.2 depth)
  | .query q label =>
    rw [Source.names, allWords_append] at words
    exact ((Span.opening (by decide) depth).append (phrase_query q words.1 (depth + 1))).followed
      ((Span.closing depth).append (span_label words.2 depth))

/-- **The text of a query names the tables the query reads**, and closes the
parentheses it opens. -/
theorem phrase_query (q : Query) (words : AllWords q.names) : Phrase q.fragment.text q.reads := by
  match q with
  | .select ⟨distinct, columns, source, joins, conditions, grouping, having⟩ =>
    simp only [Query.names, allWords_append, allWords_flatMap] at words
    obtain ⟨⟨⟨⟨⟨columnWords, sourceWords⟩, joinWords⟩, conditionWords⟩, groupingWords⟩,
      havingWords⟩ := words
    intro depth
    -- clause by clause, as the text of a `SELECT` is put together
    have select : Span .word depth (selectFragment distinct columns).text [] .table depth := by
      have first : isPiece .word (if distinct then "SELECT DISTINCT " else "SELECT ") .word 0
          = true := by
        cases distinct <;> decide
      exact ((Span.piece first depth).append (phrase_join_nil (by decide)
        (fun c listed => phrase_column (columnWords c listed)) depth)).append
        (.piece (by decide) depth)
    have joined : Span .stop depth (join "" (joins.map Join.fragment)).text
        (joins.map (·.table)) .stop depth := by
      have each : joins.map (·.table) = joins.flatMap fun j => [j.table] := List.map_eq_flatMap
      rw [each]
      exact span_join (.nil .stop depth) (.nil .stop depth) fun j listed =>
        span_join_fragment (joinWords j listed) depth
    have met := span_clause (by decide : isPiece .stop " WHERE " .word 0 = true)
      (by decide : isPiece .stop " AND " .word 0 = true)
      (phrase_conditions conditions conditionWords) depth
    have keys : ∀ e ∈ grouping, Phrase e.fragment.text [] := fun e listed =>
      phrase_expr (groupingWords e listed)
    have grouped := span_clause_nil (by decide : isPiece .stop " GROUP BY " .word 0 = true)
      (by decide : isPiece .stop ", " .word 0 = true) keys depth
    rw [Query.fragment, Query.reads, conditionFragments_eq_map, conditionReads_eq_flatMap]
    exact ((((select.append (span_source source sourceWords depth)).append joined).append
      met).followed grouped).followed (span_having havingWords depth)
  | .compound operator parts =>
    have keyword : isPiece .stop (" " ++ operator.keyword ++ " ") .word 0 = true := by
      cases operator <;> decide
    rw [Query.fragment, Query.reads, queryFragments_eq_map, partReads_eq_flatMap]
    exact phrase_join keyword (phrase_parts parts words)
  | .withStages stages body =>
    rw [Query.names, allWords_append] at words
    intro depth
    have listed := phrase_join (by decide : isPiece .stop ", " .word 0 = true)
      (phrase_stages stages words.1) depth
    rw [Query.fragment, Query.reads, stageFragments_eq_map, stageReads_eq_flatMap]
    exact (((Span.piece (by decide) depth).append listed).followed
      (.piece (by decide) depth)).append (phrase_query body words.2 depth)
  | .page body order limit offset =>
    rw [Query.names, allWords_append, allWords_flatMap] at words
    intro depth
    have window : isPiece .stop " LIMIT ? OFFSET ?" .stop 0 = true := by decide
    exact ((phrase_query body words.1 depth).followed (span_order words.2 depth)).followed
      (.piece window depth)
  | .given sql => exact phrase_word (words _ List.mem_cons_self)

theorem phrase_conditions (conditions : List Condition)
    (words : AllWords (conditionNames conditions)) :
    ∀ c ∈ conditions, Phrase c.fragment.text c.reads := by
  match conditions with
  | [] => exact nofun
  | c :: cs =>
    rw [conditionNames, allWords_append] at words
    exact List.forall_mem_cons.mpr ⟨phrase_condition c words.1, phrase_conditions cs words.2⟩

theorem phrase_parts (parts : List Query) (words : AllWords (partNames parts)) :
    ∀ q ∈ parts, Phrase q.fragment.text q.reads := by
  match parts with
  | [] => exact nofun
  | q :: qs =>
    rw [partNames, allWords_append] at words
    exact List.forall_mem_cons.mpr ⟨phrase_query q words.1, phrase_parts qs words.2⟩

/-- A stage names the tables of its query between its own parentheses. -/
theorem phrase_stages (stages : List (String × Query)) (words : AllWords (stageNames stages)) :
    ∀ stage ∈ stages,
      Phrase (stage.2.fragment.wrap (stage.1 ++ " AS (") ")").text stage.2.reads := by
  match stages with
  | [] => exact nofun
  | (name, q) :: stages =>
    rw [stageNames, allWords_cons, allWords_append] at words
    obtain ⟨first, body, rest⟩ := words
    refine List.forall_mem_cons.mpr ⟨fun depth => ?_, phrase_stages stages rest⟩
    exact (((Span.word first depth).append (.opening (by decide) depth)).append
      (phrase_query q body (depth + 1))).followed (.closing depth)

end

/-! ### Queries on some tables -/

/-- Whether all of some names are words, and all tables that are read are
among some. -/
structure Within (tables names reads : List String) : Prop where
  words : AllWords names
  reads : reads ⊆ tables

instance (tables names reads : List String) : Decidable (Within tables names reads) :=
  decidable_of_iff (AllWords names ∧ reads ⊆ tables)
    ⟨fun ⟨words, within⟩ => ⟨words, within⟩, fun within => ⟨within.words, within.reads⟩⟩

namespace Within

variable {tables more names reads : List String}

theorem mono (within : Within tables names reads) (among : tables ⊆ more) :
    Within more names reads :=
  ⟨within.words, List.Subset.trans within.reads among⟩

/-- The text of a query reads what the query reads. -/
theorem tablesIn_eq {q : Query} (within : Within tables q.names q.reads) :
    tablesIn q.fragment.text = q.reads :=
  (phrase_query q within.words).tablesIn_eq

/-- A `SELECT` keeps to the tables that its parts keep to. -/
theorem select {clauses : Select Condition Source}
    (columns : ∀ c ∈ clauses.columns, AllWords c.names)
    (source : Within tables clauses.source.names clauses.source.reads)
    (joins : ∀ j ∈ clauses.joins, Within tables j.names [j.table])
    (conditions : ∀ c ∈ clauses.conditions, Within tables c.names c.reads)
    (grouping : ∀ e ∈ clauses.grouping, AllWords e.names)
    (having : AllWords (havingNames clauses.having)) :
    Within tables (Query.select clauses).names (Query.select clauses).reads where
  words := by
    have met : AllWords (conditionNames clauses.conditions) := by
      rw [conditionNames_eq_flatMap, allWords_flatMap]
      exact fun c present => (conditions c present).words
    simp only [Query.names, allWords_append, allWords_flatMap]
    exact ⟨⟨⟨⟨⟨columns, source.words⟩, fun j listed => (joins j listed).words⟩, met⟩, grouping⟩,
      having⟩
  reads := by
    have joined : clauses.joins.map (·.table) ⊆ tables := by
      intro name present
      obtain ⟨j, listed, rfl⟩ := List.mem_map.mp present
      exact (joins j listed).reads List.mem_cons_self
    have met := conditionReads_subset fun c present => (conditions c present).reads
    rw [Query.reads, List.append_subset, List.append_subset]
    exact ⟨⟨source.reads, joined⟩, met⟩

/-- Parts that read within tables do so together. -/
theorem parts {parts : List Query} (each : ∀ q ∈ parts, Within tables q.names q.reads) :
    Within tables (partNames parts) (partReads parts) where
  words := by
    rw [partNames_eq_flatMap, allWords_flatMap]
    exact fun q present => (each q present).words
  reads := by
    rw [partReads_eq_flatMap]
    intro name read
    obtain ⟨q, present, within⟩ := List.mem_flatMap.mp read
    exact (each q present).reads within

theorem compound {parts : List Query} (each : ∀ q ∈ parts, Within tables q.names q.reads)
    (operator : SetOperator) :
    Within tables (Query.compound operator parts).names (Query.compound operator parts).reads := by
  rw [Query.names, Query.reads]
  exact .parts each

end Within

end MediaSearch.Sql
