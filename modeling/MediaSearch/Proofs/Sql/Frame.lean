/-
MediaSearch/Proofs/Sql/Frame.lean

A query depends on nothing but the tables it names.

`Query.reads` lists the names of the tables that a query reads, those of its
own stages included.  Where two families of tables agree on these names, the
query yields the same rows (`rows_agree`), whatever else the families hold.
So a query means the same wherever it stands among the stages of a chain, as
long as no stage hides what it reads.
-/
import MediaSearch.Proofs.Sql.Meaning

namespace MediaSearch.Sql

/-! ### Names -/

mutual

/-- The tables a condition reads. -/
def Condition.reads : Condition → List String
  | .compare _ _ _ | .isNull _ | .fullText _ _ | .oneOf _ _ | .startsWithAny _ _ => []
  | .inQuery _ q | .notInQuery _ q | .equalsQuery _ q => q.reads

/-- The tables a source reads. -/
def Source.reads : Source → List String
  | .named name _ => [name]
  | .query q _ => q.reads

/-- The tables a query reads. -/
def Query.reads : Query → List String
  | .select ⟨_, _, source, joins, conditions, _, _⟩ =>
    source.reads ++ joins.map (·.table) ++ conditionReads conditions
  | .compound _ parts => partReads parts
  | .withStages stages body => stageReads stages ++ body.reads
  | .page body _ _ _ => body.reads
  | .given _ => []

/-- The tables that conditions read. -/
def conditionReads : List Condition → List String
  | [] => []
  | c :: cs => c.reads ++ conditionReads cs

/-- The tables that the parts of a compound read. -/
def partReads : List Query → List String
  | [] => []
  | q :: qs => q.reads ++ partReads qs

/-- The tables that stages read, those before them included. -/
def stageReads : List (String × Query) → List String
  | [] => []
  | (_, q) :: stages => q.reads ++ stageReads stages

end

theorem conditionReads_subset {conditions : List Condition} {names : List String}
    (reads : ∀ c ∈ conditions, c.reads ⊆ names) : conditionReads conditions ⊆ names := by
  induction conditions with
  | nil => exact List.nil_subset names
  | cons c cs ih =>
    rw [conditionReads, List.append_subset]
    exact ⟨reads c List.mem_cons_self,
      ih fun d present => reads d (List.mem_cons_of_mem c present)⟩

/-! ### Agreement -/

/-- Whether tables are the same under some names. -/
def Tables.Agree (names : List String) (tables others : Tables) : Prop :=
  ∀ name ∈ names, tables.relation name = others.relation name

/-- The first table of a name is the one that is read. -/
theorem Tables.relation_cons (name other : String) (r : Relation) (tables : Tables) :
    Tables.relation ((name, r) :: tables) other
      = if other = name then r else tables.relation other := by
  by_cases same : other = name
  · simp [Tables.relation, same]
  · have different : (other == name) = false := by simpa using same
    simp [Tables.relation, List.lookup_cons, same, different]

/-- Tables that agree go on to agree when both get the same one. -/
theorem Tables.Agree.cons {names : List String} {tables others : Tables}
    (agree : tables.Agree names others) (name : String) (r : Relation) :
    Tables.Agree names ((name, r) :: tables) ((name, r) :: others) := by
  intro other present
  rw [relation_cons, relation_cons, agree other present]

variable {engine : Engine} {names : List String}

theorem joinRows_agree {tables others : Tables} (agree : tables.Agree names others)
    {j : Join} (reads : j.table ∈ names)
    (scopes : List Scope) : joinRows engine tables scopes j = joinRows engine others scopes j := by
  rw [joinRows, joinRows, agree j.table reads]

theorem foldl_joinRows_agree {tables others : Tables} (agree : tables.Agree names others)
    {joins : List Join}
    (reads : joins.map (·.table) ⊆ names) (scopes : List Scope) :
    joins.foldl (joinRows engine tables) scopes = joins.foldl (joinRows engine others) scopes := by
  induction joins generalizing scopes with
  | nil => rfl
  | cons j joins ih =>
    rw [List.map_cons, List.cons_subset] at reads
    rw [List.foldl_cons, List.foldl_cons, joinRows_agree agree reads.1, ih reads.2]

/-! ### Queries -/

mutual

/-- A condition has the same answer over tables that agree on what it reads. -/
theorem truth_agree {tables others : Tables} (agree : tables.Agree names others)
    (scope : Scope) (c : Condition)
    (reads : c.reads ⊆ names) : c.truth engine tables scope = c.truth engine others scope := by
  match c with
  | .compare _ _ _ | .isNull _ | .fullText _ _ | .oneOf _ _ | .startsWithAny _ _ =>
    simp only [Condition.truth]
  | .inQuery r q | .notInQuery r q | .equalsQuery r q =>
    have rows := rows_agree agree q reads
    simp only [Condition.truth, rows]

/-- A source gives the same rows over tables that agree on what it reads. -/
theorem relation_agree {tables others : Tables} (agree : tables.Agree names others)
    (source : Source)
    (reads : source.reads ⊆ names) :
    source.relation engine tables = source.relation engine others := by
  match source with
  | .named name _ => exact agree name (reads List.mem_cons_self)
  | .query q _ => rw [Source.relation, Source.relation, rows_agree agree q reads]

/-- **The rows of a query depend on the tables it names alone.** -/
theorem rows_agree {tables others : Tables} (agree : tables.Agree names others)
    (q : Query) (reads : q.reads ⊆ names) :
    q.rows engine tables = q.rows engine others := by
  match q with
  | .select ⟨distinct, columns, source, joins, conditions, grouping, having⟩ =>
    rw [Query.reads, List.append_subset, List.append_subset] at reads
    obtain ⟨⟨sourceReads, joinReads⟩, conditionReads⟩ := reads
    rw [Query.rows, Query.rows, relation_agree agree source sourceReads,
      foldl_joinRows_agree agree joinReads]
    simp only [allTrue_agree agree _ conditions conditionReads]
  | .compound operator parts =>
    rw [Query.rows, Query.rows, partRows_agree agree parts reads]
  -- the stages hide the same names on both sides
  | .withStages stages body =>
    rw [Query.reads, List.append_subset] at reads
    rw [Query.rows, Query.rows,
      rows_agree (stageTables_agree agree stages reads.1) body reads.2]
  | .page body order limit offset =>
    rw [Query.rows, Query.rows, rows_agree agree body reads]
  | .given sql => rfl

theorem allTrue_agree {tables others : Tables} (agree : tables.Agree names others) (scope : Scope)
    (conditions : List Condition) (reads : conditionReads conditions ⊆ names) :
    allTrue engine tables scope conditions = allTrue engine others scope conditions := by
  match conditions with
  | [] => rfl
  | c :: cs =>
    rw [conditionReads, List.append_subset] at reads
    rw [allTrue, allTrue, truth_agree agree scope c reads.1, allTrue_agree agree scope cs reads.2]

theorem partRows_agree {tables others : Tables} (agree : tables.Agree names others)
    (parts : List Query)
    (reads : partReads parts ⊆ names) :
    partRows engine tables parts = partRows engine others parts := by
  match parts with
  | [] => rfl
  | q :: qs =>
    rw [partReads, List.append_subset] at reads
    rw [partRows, partRows, rows_agree agree q reads.1, partRows_agree agree qs reads.2]

/-- Stages go on to agree, since each has the same rows in both. -/
theorem stageTables_agree {tables others : Tables} (agree : tables.Agree names others)
    (stages : List (String × Query)) (reads : stageReads stages ⊆ names) :
    (stageTables engine tables stages).Agree names (stageTables engine others stages) := by
  match stages with
  | [] => exact agree
  | (name, q) :: stages =>
    rw [stageReads, List.append_subset] at reads
    rw [stageTables, stageTables, rows_agree agree q reads.1]
    exact stageTables_agree (agree.cons name _) stages reads.2

end

end MediaSearch.Sql
