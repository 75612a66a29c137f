/-
MediaSearch/Proofs/Sql/Fragment.lean

Texts and parameters of composed fragments.

Every way to put fragments together puts their texts together and their
parameters together, in the same order.  So the parameters of a query are
those of its parts, one after the other, and each part has its own among
them (`params_condition_sublist`, `params_part_sublist`).
-/
import MediaSearch.Sql.Query
import Mathlib.Data.List.Basic

namespace MediaSearch.Sql

namespace Fragment

@[simp] theorem text_append (a b : Fragment) : (a ++ b).text = a.text ++ b.text := rfl

@[simp] theorem params_append (a b : Fragment) : (a ++ b).params = a.params ++ b.params := rfl

@[simp] theorem text_raw (text : String) : (raw text).text = text := rfl

@[simp] theorem params_raw (text : String) : (raw text).params = [] := rfl

@[simp] theorem params_wrap (a : Fragment) (before after : String) :
    (a.wrap before after).params = a.params := by
  simp [wrap]

/-- Joining keeps all parameters in their order; separators have none. -/
theorem params_join (separator : String) (parts : List Fragment) :
    (join separator parts).params = parts.flatMap (·.params) := by
  match parts with
  | [] => rfl
  | [a] => simp [join]
  | a :: b :: rest => simp [join, params_join separator (b :: rest)]

/-- Whether a store can number the values of a statement, with 32 bits. -/
def Bindable (a : Fragment) : Prop :=
  a.params.length < UInt32.size

instance (a : Fragment) : Decidable a.Bindable := Nat.decLt _ _

/-- A fragment with fewer parameters than one that can be bound can be bound. -/
theorem Bindable.of_sublist {a b : Fragment} (bindable : a.Bindable)
    (among : b.params.Sublist a.params) : b.Bindable :=
  Nat.lt_of_le_of_lt among.length_le bindable

end Fragment

/-! ### Lists of fragments -/

theorem conditionFragments_eq_map (conditions : List Condition) :
    conditionFragments conditions = conditions.map Condition.fragment := by
  induction conditions with
  | nil => rfl
  | cons c cs ih => rw [conditionFragments, ih, List.map_cons]

theorem queryFragments_eq_map (parts : List Query) :
    queryFragments parts = parts.map Query.fragment := by
  induction parts with
  | nil => rfl
  | cons q qs ih => rw [queryFragments, ih, List.map_cons]

theorem stageFragments_eq_map (stages : List (String × Query)) :
    stageFragments stages
      = stages.map fun stage => stage.2.fragment.wrap (stage.1 ++ " AS (") ")" := by
  induction stages with
  | nil => rfl
  | cons stage stages ih => rw [stageFragments, ih, List.map_cons]

theorem params_clauseFragment (keyword separator : String) (parts : List Fragment) :
    (clauseFragment keyword separator parts).params = parts.flatMap (·.params) := by
  cases parts with
  | nil => rfl
  | cons a rest => simp [clauseFragment, Fragment.params_join]

/-! ### Parameters of parts -/

/-- The parameters of a condition are among those of the query. -/
theorem params_condition_sublist {clauses : Select Condition Source} {c : Condition}
    (present : c ∈ clauses.conditions) :
    c.fragment.params.Sublist (Query.select clauses).fragment.params := by
  have among : c.fragment.params.Sublist
      (clauseFragment " WHERE " " AND " (conditionFragments clauses.conditions)).params := by
    rw [params_clauseFragment, conditionFragments_eq_map, List.flatMap_map]
    exact List.sublist_flatten_of_mem (List.mem_map_of_mem present)
  obtain ⟨distinct, columns, source, joins, conditions, grouping, having⟩ := clauses
  simp only [Query.fragment, Fragment.params_append, List.append_assoc]
  refine among.trans ?_
  exact ((List.sublist_append_left _ _).trans (List.sublist_append_right _ _)).trans
    ((List.sublist_append_right _ _).trans (List.sublist_append_right _ _))

/-- The parameters of a part are among those of the compound. -/
theorem params_part_sublist {operator : SetOperator} {parts : List Query} {q : Query}
    (present : q ∈ parts) :
    q.fragment.params.Sublist (Query.compound operator parts).fragment.params := by
  rw [Query.fragment, Fragment.params_join, queryFragments_eq_map, List.flatMap_map]
  exact List.sublist_flatten_of_mem (List.mem_map_of_mem present)

/-- The parameters of a source are among those of the query. -/
theorem params_source_sublist (clauses : Select Condition Source) :
    clauses.source.fragment.params.Sublist (Query.select clauses).fragment.params := by
  obtain ⟨distinct, columns, source, joins, conditions, grouping, having⟩ := clauses
  simp only [Query.fragment, Fragment.params_append, List.append_assoc]
  exact (List.sublist_append_left _ _).trans (List.sublist_append_right _ _)

end MediaSearch.Sql
