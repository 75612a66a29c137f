/-
MediaSearch/Proofs/Sql/Meaning.lean

What a query yields.

A query reads tables by name and yields a relation: names of columns, and
rows.  Its clauses act in the usual order.  The source and the joins pair
rows up from left to right; the conditions keep those pairs of which all are
true (an unknown answer is not); the groups of a `SELECT` that groups or
aggregates, and each pair otherwise, give one row; `HAVING` keeps groups;
`DISTINCT` and the set operators compare rows by the keys of their values.
Stages are evaluated in their order, each of them seeing the ones before it
in front of the tables.

What a store computes by functions of its own is a parameter, the `Engine`:
full-text matches and their ranks, distances, averages, and how numbers that
are not whole and blobs read as text.  A full-text index is a table; while a
`SELECT` matches it against an expression, each of its entries has a column
`rank` as well.

Names are looked up among the row's tables only: no query of this library
refers to the row of a query around it.  A name that is not there reads as
null.
-/
import MediaSearch.Proofs.Sql.Grouping
import MediaSearch.Proofs.Sql.Like
import MediaSearch.Proofs.Sql.Value

namespace MediaSearch.Sql

/-! ### Relations -/

/-- Named columns and rows with a cell for each. -/
structure Relation where
  columns : List String
  rows : List (List Value)
  deriving DecidableEq

/-- Relations by name; of several with one name the first counts. -/
abbrev Tables := List (String × Relation)

/-- The relation with a name. -/
def Tables.relation (tables : Tables) (name : String) : Relation :=
  (tables.lookup name).getD ⟨[], []⟩

/-- The cells of a row by column. -/
abbrev Cells := List (String × Value)

/-- What a row is made of: the cells of each table it was joined from. -/
abbrev Scope := List (String × Cells)

/-- The value in a column; a column that is not there has none. -/
def Cells.value (cells : Cells) (column : String) : Value :=
  (cells.lookup column).getD .null

/-- The cells of one of the tables. -/
def Scope.cells (scope : Scope) (table : String) : Cells :=
  (scope.lookup table).getD []

/-- The value a name has in a row. -/
def Scope.value (scope : Scope) (r : Ref) : Value :=
  match r.table with
  | some table => (scope.cells table).value r.name
  | none => (scope.findSome? fun entry => entry.2.lookup r.name).getD .null

@[simp] theorem Cells.value_cons (name : String) (v : Value) (cells : Cells) (column : String) :
    Cells.value ((name, v) :: cells) column = if column = name then v else cells.value column := by
  by_cases same : column = name
  · simp [Cells.value, same]
  · have other : (column == name) = false := by simpa using same
    simp [Cells.value, List.lookup_cons, same, other]

@[simp] theorem Scope.cells_cons (name : String) (cells : Cells) (scope : Scope)
    (table : String) :
    Scope.cells ((name, cells) :: scope) table
      = if table = name then cells else scope.cells table := by
  by_cases same : table = name
  · simp [Scope.cells, same]
  · have other : (table == name) = false := by simpa using same
    simp [Scope.cells, List.lookup_cons, same, other]

@[simp] theorem Scope.value_of (scope : Scope) (table name : String) :
    scope.value (.of table name) = (scope.cells table).value name := rfl

@[simp] theorem Scope.value_bare (label : String) (cells : Cells) (name : String) :
    Scope.value [(label, cells)] (.bare name) = cells.value name := by
  unfold Scope.value Cells.value
  cases found : cells.lookup name <;> simp [Ref.bare, found]

/-- The rows of a relation under the name a query gives it. -/
def Relation.scopes (r : Relation) (label : String) : List Scope :=
  r.rows.map fun row => [(label, r.columns.zip row)]

/-- The value in the first column of a row. -/
def firstValue (row : List Value) : Value :=
  row.headD .null

/-! ### Engines -/

/-- What a store computes by functions of its own. -/
structure Engine where
  /-- The rank of an entry of an index that an expression matches, in one
  column or in any; nothing if it does not match. -/
  fullText : (index : String) → (column : Option String) → (expression : String) →
    (entry : Cells) → Option Value
  /-- A function of two arguments, such as a distance. -/
  apply : (function : String) → Value → Value → Value
  /-- The average of values that are not null. -/
  average : List Value → Value
  realText : Binary64 → String
  blobText : List UInt8 → String
  /-- What a query given as text yields. -/
  given : Fragment → Relation

namespace Engine

/-- An engine that finds nothing. -/
def idle : Engine where
  fullText := fun _ _ _ _ => none
  apply := fun _ _ _ => .null
  average := fun _ => .null
  realText := fun _ => ""
  blobText := fun _ => ""
  given := fun _ => ⟨[], []⟩

/-- A value read as text; null has none. -/
def text? (engine : Engine) : Value → Option String
  | .null => none
  | .boolean b => some (if b then "1" else "0")
  | .integer n => some (toString n)
  | .real x => some (engine.realText x)
  | .text s => some s
  | .blob bytes => some (engine.blobText bytes)

/-- `left || right`. -/
def concat (engine : Engine) (left right : Value) : Value :=
  match engine.text? left, engine.text? right with
  | some s, some t => .text (s ++ t)
  | _, _ => .null

/-- The first of the least values, null if there are none. -/
def least : List Value → Value
  | [] => .null
  | v :: vs => vs.foldl (fun a b => if b.key.compare a.key = .lt then b else a) v

/-- The first of the greatest values, null if there are none. -/
def greatest : List Value → Value
  | [] => .null
  | v :: vs => vs.foldl (fun a b => if b.key.compare a.key = .gt then b else a) v

/-- An aggregate of values, those that are null left out. -/
def aggregate (engine : Engine) (function : Aggregate) (values : List Value) : Value :=
  let present := values.filter fun v => v.key ≠ .null
  match function with
  | .min => least present
  | .max => greatest present
  | .avg => if present.isEmpty then .null else engine.average present
  | .countDistinct => .integer (.ofNat (distinctBy Value.key present).length)

/-- Whether a value starts with a text, as `LIKE` sees it. -/
def startsWith? (engine : Engine) (v : Value) (start : String) : Option Bool :=
  (engine.text? v).map fun s => like sameFolded (startPattern start).toList s.toList

end Engine

/-! ### Expressions -/

/-- The value of an expression over a group of rows; a name has its value in
the first of them. -/
def Expr.value (engine : Engine) (group : List Scope) : Expr → Value
  | .ref r => (group.headD []).value r
  | .number n => .integer (.ofNat n)
  | .dash => .text "-"
  | .param v => v
  | .concat left right => engine.concat (left.value engine group) (right.value engine group)
  | .apply function left right =>
    engine.apply function (left.value engine group) (right.value engine group)
  | .aggregate function e =>
    engine.aggregate function (group.map fun scope => e.value engine [scope])
  | .countAll => .integer (.ofNat group.length)

/-- Whether an expression is about a group. -/
def Expr.isAggregate : Expr → Bool
  | .aggregate _ _ | .countAll => true
  | .concat left right | .apply _ left right => left.isAggregate || right.isAggregate
  | .ref _ | .number _ | .dash | .param _ => false

/-- The name of a selected column. -/
def Column.name (c : Column) : String :=
  c.label.getD <| match c.expr with
    | .ref r => r.name
    | e => e.text

/-! ### Full-text matches -/

/-- The index a full-text condition is about. -/
def Ref.index (target : Ref) : String :=
  target.table.getD target.name

/-- The column of the index, if the condition is about one. -/
def Ref.indexColumn (target : Ref) : Option String :=
  target.table.map fun _ => target.name

/-- The rank of an entry that a full-text condition finds. -/
def Engine.rank? (engine : Engine) (target : Ref) (expression : String) (entry : Cells) :
    Option Value :=
  engine.fullText target.index target.indexColumn expression entry

/-- The column `rank` of an entry, if there is a full-text condition on its
index. -/
def rankCells (engine : Engine) (index : String) (entry : Cells) : List Condition → Cells
  | [] => []
  | .fullText target expression :: conditions =>
    if target.index = index then
      ((engine.rank? target expression entry).map ("rank", ·)).toList
    else rankCells engine index entry conditions
  | _ :: conditions => rankCells engine index entry conditions

/-- A row with the ranks of its full-text entries. -/
def rankedScope (engine : Engine) (conditions : List Condition) (scope : Scope) : Scope :=
  scope.map fun (name, cells) => (name, cells ++ rankCells engine name cells conditions)

/-! ### Clauses -/

/-- Rows with all rows of a table for which the condition of the join holds. -/
def joinRows (engine : Engine) (tables : Tables) (scopes : List Scope) (j : Join) :
    List Scope :=
  scopes.flatMap fun scope =>
    (((tables.relation j.table).scopes (j.label.getD j.table)).map (scope ++ ·)).filter
      fun joined =>
        Comparison.eq.truth (j.left.value engine [joined]) (j.right.value engine [joined])
          = some true

/-- The rows that each give one row of the result, as groups. -/
def selectGroups (engine : Engine) (columns : List Column) (grouping : List Expr)
    (scopes : List Scope) : List (List Scope) :=
  if grouping.isEmpty then
    if columns.any (·.expr.isAggregate) then [scopes] else scopes.map fun scope => [scope]
  else groupBy (fun scope => grouping.map fun e => (e.value engine [scope]).key) scopes

/-- Whether a group meets the condition on groups. -/
def meetsHaving (engine : Engine) (having : Option (Expr × Value)) (group : List Scope) : Bool :=
  having.all fun (e, v) => Comparison.eq.truth (e.value engine group) v = some true

/-- The rows of a `SELECT`, each with the row it was made from. -/
def selectRows (engine : Engine) (distinct : Bool) (columns : List Column)
    (grouping : List Expr) (having : Option (Expr × Value)) (scopes : List Scope) :
    List (Scope × List Value) :=
  let groups := (selectGroups engine columns grouping scopes).filter (meetsHaving engine having)
  let rows := groups.map fun group =>
    (group.headD [], columns.map fun c => c.expr.value engine group)
  if distinct then distinctBy (fun row => row.2.map Value.key) rows else rows

/-- The rows of two queries combined. -/
def SetOperator.combine (operator : SetOperator) (left right : List (List Value)) :
    List (List Value) :=
  let keys := List.map Value.key
  match operator with
  | .intersect => distinctBy keys (left.filter fun row => keys row ∈ right.map keys)
  | .except => distinctBy keys (left.filter fun row => keys row ∉ right.map keys)
  | .union => distinctBy keys (left ++ right)
  | .unionAll => left ++ right

/-- The rows of several queries combined from left to right. -/
def SetOperator.combineAll (operator : SetOperator) : List (List (List Value)) →
    List (List Value)
  | [] => []
  | part :: parts => parts.foldl operator.combine part

/-- Whether a row may stand before another.  The names of the result's
columns go before those of the tables. -/
def sortsBefore (engine : Engine) (columns : List String) :
    List (Expr × SortDirection) → (a b : Scope × List Value) → Bool
  | [], _, _ => true
  | (e, direction) :: order, a, b =>
    let key (row : Scope × List Value) : Key :=
      (e.value engine [("", columns.zip row.2) :: row.1]).key
    match (key a).compare (key b) with
    | .lt => direction = .ascending
    | .gt => direction = .descending
    | .eq => sortsBefore engine columns order a b

/-- The rows of a page; a negative limit takes all. -/
def pageRows {α : Type} (limit offset : Int64) (rows : List α) : List α :=
  let rest := rows.drop offset.toNatClampNeg
  if limit < 0 then rest else rest.take limit.toNatClampNeg

/-! ### Queries -/

/-- The names of the columns of a query. -/
def Query.columns (engine : Engine) : Query → List String
  | .select ⟨_, columns, _, _, _, _, _⟩ => columns.map Column.name
  | .compound _ [] => []
  | .compound _ (q :: _) => q.columns engine
  | .withStages _ body | .page body _ _ _ => body.columns engine
  | .given sql => (engine.given sql).columns

/-- The name a source has in its query. -/
def Source.name : Source → String
  | .named name label => label.getD name
  | .query _ label => label.getD ""

mutual

/-- The answer of a condition on a row. -/
def Condition.truth (engine : Engine) (tables : Tables) (scope : Scope) :
    Condition → Option Bool
  | .compare left operator right =>
    operator.truth (left.value engine [scope]) (right.value engine [scope])
  | .isNull r => some (scope.value r = .null)
  | .fullText target expression =>
    (scope.lookup target.index).map fun entry => (engine.rank? target expression entry).isSome
  | .oneOf r values => (scope.value r).isAmong values
  | .startsWithAny r starts => anyTrue (starts.map (engine.startsWith? (scope.value r)))
  | .inQuery r q =>
    (scope.value r).isAmong ((q.rows engine tables).map fun row => firstValue row.2)
  | .notInQuery r q =>
    ((scope.value r).isAmong ((q.rows engine tables).map fun row => firstValue row.2)).map not
  | .equalsQuery r q =>
    Comparison.eq.truth (scope.value r)
      (firstValue (((q.rows engine tables).map (·.2)).headD []))

/-- The relation of a source. -/
def Source.relation (engine : Engine) (tables : Tables) : Source → Relation
  | .named name _ => tables.relation name
  | .query q _ => ⟨q.columns engine, (q.rows engine tables).map (·.2)⟩

/-- The rows of a query, each with the row it was made from if it is that of
a `SELECT`. -/
def Query.rows (engine : Engine) (tables : Tables) : Query → List (Scope × List Value)
  | .select ⟨distinct, columns, source, joins, conditions, grouping, having⟩ =>
    let joined := joins.foldl (joinRows engine tables)
      ((source.relation engine tables).scopes source.name)
    let kept := joined.filter fun scope => allTrue engine tables scope conditions
    selectRows engine distinct columns grouping having
      (kept.map (rankedScope engine conditions))
  | .compound operator parts =>
    (operator.combineAll (partRows engine tables parts)).map fun row => ([], row)
  | .withStages stages body => body.rows engine (stageTables engine tables stages)
  | .page body order limit offset =>
    pageRows limit offset
      ((body.rows engine tables).mergeSort (sortsBefore engine (body.columns engine) order))
  | .given sql => (engine.given sql).rows.map fun row => ([], row)

/-- Whether all conditions are true of a row. -/
def allTrue (engine : Engine) (tables : Tables) (scope : Scope) : List Condition → Bool
  | [] => true
  | c :: cs => c.truth engine tables scope = some true && allTrue engine tables scope cs

/-- The rows of each part of a compound. -/
def partRows (engine : Engine) (tables : Tables) : List Query → List (List (List Value))
  | [] => []
  | q :: qs => (q.rows engine tables).map (·.2) :: partRows engine tables qs

/-- The tables with the relations of stages in front of them. -/
def stageTables (engine : Engine) (tables : Tables) : List (String × Query) → Tables
  | [] => tables
  | (name, q) :: stages =>
    stageTables engine
      ((name, ⟨q.columns engine, (q.rows engine tables).map (·.2)⟩) :: tables) stages

end

/-- The relation a query yields. -/
def Query.relation (engine : Engine) (tables : Tables) (q : Query) : Relation :=
  ⟨q.columns engine, (q.rows engine tables).map (·.2)⟩

end MediaSearch.Sql
