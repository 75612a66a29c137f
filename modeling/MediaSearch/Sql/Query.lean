/-
MediaSearch/Sql/Query.lean

Queries as trees, and the fragment each of them is written as.

A `Query` is what a search sends to the store before it becomes text.
Values never stand in the text: wherever a tree holds a `Value`, a pattern
or a list of values, its fragment has placeholders and binds them
(`Query.fragment`).
-/
import MediaSearch.Sql.Fragment

namespace MediaSearch.Sql

/-- What becomes of the values of a group. -/
inductive Aggregate where
  | min
  | max
  | avg
  | countDistinct
  deriving DecidableEq

/-- A column by name, or a full-text table as a whole. -/
structure Ref where
  table : Option String
  name : String
  deriving DecidableEq

/-- `table.name`. -/
def Ref.of (table name : String) : Ref := ⟨some table, name⟩

/-- A name by itself. -/
def Ref.bare (name : String) : Ref := ⟨none, name⟩

/-- A scalar expression. -/
inductive Expr where
  | ref (r : Ref)
  | number (n : Nat)
  /-- A dash as a literal. -/
  | dash
  | param (v : Value)
  /-- `left || right`. -/
  | concat (left right : Expr)
  /-- A function of the store applied to two arguments. -/
  | apply (function : String) (left right : Expr)
  | aggregate (function : Aggregate) (e : Expr)
  | countAll
  deriving DecidableEq

/-- How two values are compared. -/
inductive Comparison where
  | eq
  | ne
  | le
  | ge
  deriving DecidableEq

/-- How the rows of two queries are combined. -/
inductive SetOperator where
  | intersect
  | except
  | union
  | unionAll
  deriving DecidableEq

/-- Whether rows with less come first or last. -/
inductive SortDirection where
  | ascending
  | descending
  deriving DecidableEq

/-- A selected expression and the name it gets. -/
structure Column where
  expr : Expr
  label : Option String
  deriving DecidableEq

/-- A table or stage joined on equality of two expressions. -/
structure Join where
  table : String
  label : Option String
  left : Expr
  right : Expr
  deriving DecidableEq

/-- The clauses of a `SELECT`, over conditions and sources. -/
structure Select (κ σ : Type) where
  distinct : Bool := false
  columns : List Column
  source : σ
  joins : List Join := []
  /-- Conditions on rows, all of which must hold. -/
  conditions : List κ := []
  grouping : List Expr := []
  /-- An expression over a group and the value it must have. -/
  having : Option (Expr × Value) := none

mutual

/-- A condition on a row. -/
inductive Condition where
  | compare (left : Expr) (operator : Comparison) (right : Expr)
  | isNull (r : Ref)
  /-- `target MATCH ?`, in the store's full-text language. -/
  | fullText (target : Ref) (expression : String)
  | oneOf (r : Ref) (values : List Value)
  | startsWithAny (r : Ref) (starts : List String)
  | inQuery (r : Ref) (q : Query)
  | notInQuery (r : Ref) (q : Query)
  /-- Equality with the only value of a query. -/
  | equalsQuery (r : Ref) (q : Query)

/-- What a `SELECT` reads. -/
inductive Source where
  /-- A table or a stage. -/
  | named (name : String) (label : Option String)
  | query (q : Query) (label : Option String)

/-- A query, which gives rows. -/
inductive Query where
  | select (clauses : Select Condition Source)
  /-- The results of several queries combined from left to right. -/
  | compound (operator : SetOperator) (parts : List Query)
  /-- A query that can read the named stages. -/
  | withStages (stages : List (String × Query)) (body : Query)
  /-- A part of the sorted results of a query. -/
  | page (body : Query) (order : List (Expr × SortDirection)) (limit offset : Int64)
  /-- A query given as text. -/
  | given (sql : Fragment)

end

/-! ### Text of the parts -/

/-- An aggregate applied to the text of its argument. -/
def Aggregate.call (function : Aggregate) (argument : String) : String :=
  match function with
  | .min => "MIN(" ++ argument ++ ")"
  | .max => "MAX(" ++ argument ++ ")"
  | .avg => "AVG(" ++ argument ++ ")"
  | .countDistinct => "COUNT(DISTINCT " ++ argument ++ ")"

/-- The symbol of a comparison. -/
def Comparison.symbol : Comparison → String
  | .eq => "="
  | .ne => "!="
  | .le => "<="
  | .ge => ">="

/-- The keyword between two queries. -/
def SetOperator.keyword : SetOperator → String
  | .intersect => "INTERSECT"
  | .except => "EXCEPT"
  | .union => "UNION"
  | .unionAll => "UNION ALL"

/-- The keyword after what is sorted by. -/
def SortDirection.keyword : SortDirection → String
  | .ascending => "ASC"
  | .descending => "DESC"

/-- A name, with that of its table before it if there is one. -/
def Ref.text (r : Ref) : String :=
  match r.table with
  | some table => table ++ "." ++ r.name
  | none => r.name

/-- The text of an expression, a placeholder standing for each value. -/
def Expr.text : Expr → String
  | .ref r => r.text
  | .number n => toString n
  | .dash => "'-'"
  | .param _ => "?"
  | .concat left right => left.text ++ " || " ++ right.text
  | .apply function left right => function ++ "(" ++ left.text ++ ", " ++ right.text ++ ")"
  | .aggregate function e => function.call e.text
  | .countAll => "COUNT(*)"

/-- The values of an expression, from left to right. -/
def Expr.params : Expr → List Value
  | .param v => [v]
  | .concat left right | .apply _ left right => left.params ++ right.params
  | .aggregate _ e => e.params
  | .ref _ | .number _ | .dash | .countAll => []

/-- The text of an expression with its values. -/
def Expr.fragment (e : Expr) : Fragment :=
  ⟨e.text, e.params⟩

/-- ` AS label`, if there is one. -/
def labelText : Option String → String
  | some label => " AS " ++ label
  | none => ""

/-- A selected expression, and its name. -/
def Column.fragment (c : Column) : Fragment :=
  c.expr.fragment.pushText (labelText c.label)

/-- A join with a blank before it. -/
def Join.fragment (j : Join) : Fragment :=
  Fragment.raw (" JOIN " ++ j.table ++ labelText j.label ++ " ON ")
    ++ j.left.fragment ++ Fragment.raw " = " ++ j.right.fragment

/-- A keyword and fragments, or nothing if there are none. -/
def clauseFragment (keyword separator : String) : List Fragment → Fragment
  | [] => .empty
  | parts => Fragment.raw keyword ++ Fragment.join separator parts

/-- The `HAVING` of a group, if there is one. -/
def havingFragment : Option (Expr × Value) → Fragment
  | some (e, v) => Fragment.raw " HAVING " ++ e.fragment ++ ⟨" = ?", [v]⟩
  | none => .empty

/-- `SELECT …` up to the source. -/
def selectFragment (distinct : Bool) (columns : List Column) : Fragment :=
  Fragment.raw (if distinct then "SELECT DISTINCT " else "SELECT ")
    ++ Fragment.join ", " (columns.map Column.fragment) ++ Fragment.raw " FROM "

/-- The `ORDER BY` of a page, if it is sorted. -/
def orderFragment (order : List (Expr × SortDirection)) : Fragment :=
  clauseFragment " ORDER BY " ", "
    (order.map fun (e, direction) => e.fragment.pushText (" " ++ direction.keyword))

/-! ### Text of queries -/

mutual

/-- A condition as it stands after `WHERE`. -/
def Condition.fragment : Condition → Fragment
  | .compare left operator right =>
    left.fragment ++ Fragment.raw (" " ++ operator.symbol ++ " ") ++ right.fragment
  | .isNull r => Fragment.raw (r.text ++ " IS NULL")
  | .fullText target expression => ⟨target.text ++ " MATCH ?", [.text expression]⟩
  | .oneOf r values => Fragment.inList r.text values
  | .startsWithAny r starts => Fragment.likeAnyPrefix r.text starts
  | .inQuery r q => q.fragment.wrap (r.text ++ " IN (") ")"
  | .notInQuery r q => q.fragment.wrap (r.text ++ " NOT IN (") ")"
  | .equalsQuery r q => q.fragment.wrap (r.text ++ " = (") ")"

/-- A source as it stands after `FROM`. -/
def Source.fragment : Source → Fragment
  | .named name label => Fragment.raw (name ++ labelText label)
  | .query q label => q.fragment.wrap "(" (")" ++ labelText label)

/-- The statement a query is sent as. -/
def Query.fragment : Query → Fragment
  | .select ⟨distinct, columns, source, joins, conditions, grouping, having⟩ =>
    selectFragment distinct columns ++ source.fragment
      ++ Fragment.join "" (joins.map Join.fragment)
      ++ clauseFragment " WHERE " " AND " (conditionFragments conditions)
      ++ clauseFragment " GROUP BY " ", " (grouping.map Expr.fragment)
      ++ havingFragment having
  | .compound operator parts =>
    Fragment.join (" " ++ operator.keyword ++ " ") (queryFragments parts)
  | .withStages stages body =>
    (Fragment.join ", " (stageFragments stages)).wrap "WITH " " " ++ body.fragment
  | .page body order limit offset =>
    body.fragment ++ orderFragment order
      ++ ⟨" LIMIT ? OFFSET ?", [.integer limit, .integer offset]⟩
  | .given sql => sql

/-- The fragments of conditions. -/
def conditionFragments : List Condition → List Fragment
  | [] => []
  | c :: cs => c.fragment :: conditionFragments cs

/-- The fragments of queries. -/
def queryFragments : List Query → List Fragment
  | [] => []
  | q :: qs => q.fragment :: queryFragments qs

/-- `name AS (…)` for each stage. -/
def stageFragments : List (String × Query) → List Fragment
  | [] => []
  | (name, q) :: stages => q.fragment.wrap (name ++ " AS (") ")" :: stageFragments stages

end

/-- The stages of a query that reads them, without what reads them. -/
def withFragment (stages : List (String × Query)) : Fragment :=
  (Fragment.join ", " (stageFragments stages)).wrap "WITH " " "

end MediaSearch.Sql
