/-
MediaSearch/Proofs/Chain/ReadBack.lean

The stages of a chain can be read off its text.

A reader that knows neither filters nor queries takes the name of a stage up
to the first space, its text up to the parenthesis that closes the one before
it, and as many values as there are placeholders in the text (`readStage`).
It finds what was written (`readStage_append`), since the query of a stage
closes what it opens and has as many placeholders as values; and since stages
are separated by commas, it finds all of them, in order (`readStages_join`).

Main result: `build_readBack`.
-/
import MediaSearch.Proofs.Chain.Words
import MediaSearch.Proofs.Compile.Named

namespace MediaSearch.Chain

open Sql Fragment Library

/-! ### The reader -/

/-- Reads `name AS (…)` from the start of a text, and the values of the
placeholders in it. -/
def readStage (cs : List Char) (values : List Value) :
    Option ((String × Fragment) × List Char × List Value) :=
  match cs.dropWhile (· != ' ') with
  | ' ' :: 'A' :: 'S' :: ' ' :: '(' :: rest =>
    (upToClosing none 0 rest).map fun (body, rest) =>
      ((String.ofList (cs.takeWhile (· != ' ')),
          ⟨String.ofList body, values.take (countFrom none body)⟩),
        rest, values.drop (countFrom none body))
  | _ => none

/-- Reading up to a closing parenthesis leaves less to read. -/
theorem length_upToClosing {quote : Option Char} {depth : Nat} {cs body rest : List Char}
    (read : upToClosing quote depth cs = some (body, rest)) : rest.length < cs.length := by
  induction cs generalizing quote depth body with
  | nil => cases read
  | cons c cs ih =>
    rw [upToClosing] at read
    split at read
    · obtain ⟨-, rfl⟩ := Prod.mk.inj (Option.some.inj read)
      exact Nat.lt_succ_self _
    · obtain ⟨⟨inner, after⟩, later, same⟩ := Option.map_eq_some_iff.mp read
      obtain ⟨-, rfl⟩ := Prod.mk.inj same
      exact Nat.lt_succ_of_lt (ih later)

/-- A stage takes some text. -/
theorem length_readStage {cs rest : List Char} {values more : List Value}
    {stage : String × Fragment} (read : readStage cs values = some (stage, rest, more)) :
    rest.length < cs.length := by
  unfold readStage at read
  split at read
  case h_2 => cases read
  case h_1 after found =>
    obtain ⟨⟨body, rest'⟩, closed, same⟩ := Option.map_eq_some_iff.mp read
    obtain ⟨-, same⟩ := Prod.mk.inj same
    obtain ⟨rfl, -⟩ := Prod.mk.inj same
    -- the name and the opening parenthesis are taken away before the body
    have shorter := length_upToClosing closed
    have whole := (List.dropWhile_suffix (l := cs) (· != ' ')).length_le
    rw [found] at whole
    simp only [List.length_cons] at whole
    omega

/-- Reads stages with commas between them from the start of a text. -/
def readStages (cs : List Char) (values : List Value) :
    Option (List (String × Fragment) × List Char × List Value) :=
  match _read : readStage cs values with
  | none => none
  | some (stage, ',' :: ' ' :: rest, more) =>
    (readStages rest more).map fun (stages, rest) => (stage :: stages, rest)
  | some (stage, rest, more) => some ([stage], rest, more)
termination_by cs.length
decreasing_by
  have shorter := length_readStage _read
  simp only [List.length_cons] at shorter
  omega

/-- Reads `WITH …` from the start of a text: the stages, and what comes after
them. -/
def readWith (a : Fragment) : Option (List (String × Fragment) × Fragment) :=
  match a.text.toList with
  | 'W' :: 'I' :: 'T' :: 'H' :: ' ' :: cs =>
    match readStages cs a.params with
    | some (stages, ' ' :: rest, more) => some (stages, ⟨String.ofList rest, more⟩)
    | _ => none
  | _ => none

section Readers

variable {cs rest : List Char} {values more : List Value} {stage : String × Fragment}

/-- A stage before a comma is followed by another one. -/
theorem readStages_more (read : readStage cs values = some (stage, ',' :: ' ' :: rest, more)) :
    readStages cs values
      = (readStages rest more).map fun (stages, rest) => (stage :: stages, rest) := by
  rw [readStages]
  split <;> simp_all

/-- A stage that no comma follows is the last. -/
theorem readStages_last (read : readStage cs values = some (stage, rest, more))
    (last : ∀ rest', rest ≠ ',' :: ' ' :: rest') :
    readStages cs values = some ([stage], rest, more) := by
  rw [readStages]
  split
  · next failed =>
    rw [read] at failed
    cases failed
  · next found =>
    rw [read] at found
    cases found
    exact absurd rfl (last _)
  · next found =>
    rw [read] at found
    cases found
    rfl

end Readers

/-! ### Stages -/

/-- Stages whose text can be told from what comes after it. -/
structure Readable (stage : String × Query) : Prop where
  worded : Worded stage
  balanced : stage.2.fragment.Balanced

/-- `name AS (…)`. -/
def written (stage : String × Query) : Fragment :=
  stage.2.fragment.wrap (stage.1 ++ " AS (") ")"

theorem spaceless_of_isWord {name : String} (word : isWord name = true) :
    ∀ c ∈ name.toList, (c != ' ') = true := by
  rw [isWord, Bool.and_eq_true, Bool.and_eq_true, List.all_eq_true] at word
  intro c present
  rw [bne_iff_ne]
  rintro rfl
  exact absurd (word.1.2 ' ' present) (by decide)

/-- **A stage is read as it was written**, whatever comes after it. -/
theorem readStage_append {stage : String × Query} (readable : Readable stage)
    (rest : List Char) (more : List Value) :
    readStage ((written stage).text.toList ++ rest) ((written stage).params ++ more)
      = some ((stage.1, stage.2.fragment), rest, more) := by
  obtain ⟨name, q⟩ := stage
  obtain ⟨⟨word, words⟩, balanced⟩ := readable
  have text : (written (name, q)).text.toList ++ rest
      = name.toList ++ (' ' :: 'A' :: 'S' :: ' ' :: '('
        :: (q.fragment.text.toList ++ ')' :: rest)) := by
    simp [written, wrap, String.toList_append]
  have closed := (phrase_query q words).upToClosing_append rest
  have count : countFrom none q.fragment.text.toList = q.fragment.params.length := balanced.count
  have spaceless := spaceless_of_isWord word
  rw [text, readStage, List.dropWhile_append_of_pos spaceless,
    List.takeWhile_append_of_pos spaceless]
  simp [closed, count, written, wrap, raw]

/-- **Stages with commas between them are read one after the other.** -/
theorem readStages_join {stages : List (String × Query)} (some : stages ≠ [])
    (readable : ∀ stage ∈ stages, Readable stage) {rest : List Char}
    (last : ∀ rest', rest ≠ ',' :: ' ' :: rest') (more : List Value) :
    readStages ((join ", " (stages.map written)).text.toList ++ rest)
        ((join ", " (stages.map written)).params ++ more)
      = .some (stages.map fun stage => (stage.1, stage.2.fragment), rest, more) := by
  match stages with
  | [] => exact absurd rfl some
  | [stage] =>
    exact readStages_last (readStage_append (readable stage List.mem_cons_self) rest more) last
  | stage :: next :: later =>
    obtain ⟨first, others⟩ := List.forall_mem_cons.mp readable
    have rests := readStages_join (List.cons_ne_nil next later) others last more
    let tail := join ", " ((next :: later).map written)
    have read := readStage_append first (',' :: ' ' :: (tail.text.toList ++ rest))
      (tail.params ++ more)
    have whole : join ", " ((stage :: next :: later).map written)
        = written stage ++ raw ", " ++ tail := rfl
    have text : (written stage ++ raw ", " ++ tail).text.toList ++ rest
        = (written stage).text.toList ++ (',' :: ' ' :: (tail.text.toList ++ rest)) := by
      simp [String.toList_append]
    have params : (written stage ++ raw ", " ++ tail).params ++ more
        = (written stage).params ++ (tail.params ++ more) := by
      simp
    rw [whole, text, params, readStages_more read, rests]
    rfl

/-- The stages of a query are read from its start. -/
theorem readWith_append {stages : List (String × Query)} (some : stages ≠ [])
    (readable : ∀ stage ∈ stages, Readable stage) (rest : Fragment) :
    readWith (withFragment stages ++ rest)
      = .some (stages.map fun stage => (stage.1, stage.2.fragment), rest) := by
  have space : ∀ rest', ' ' :: rest.text.toList ≠ ',' :: ' ' :: rest' := by simp
  have read := readStages_join some readable space rest.params
  have text : (withFragment stages ++ rest).text.toList
      = 'W' :: 'I' :: 'T' :: 'H' :: ' '
        :: ((join ", " (stages.map written)).text.toList ++ ' ' :: rest.text.toList) := by
    simp [withFragment, stageFragments_eq_map, wrap, String.toList_append]
    rfl
  have params : (withFragment stages ++ rest).params
      = (join ", " (stages.map written)).params ++ rest.params := by
    simp [withFragment, stageFragments_eq_map]
    rfl
  rw [readWith, text, params]
  simp only [read, String.ofList_toList]

/-! ### Chains -/

theorem stages_build_ne_nil (tags : Option Query) (kept excluded : List Filter) :
    (build tags kept excluded).stages ≠ [] := by
  rw [build_eq]
  cases tags <;> simp [start]

theorem isNamed_of_mem {stages : List (String × Query)} (named : stagesNamed stages = true) :
    ∀ stage ∈ stages, stage.2.isNamed = true := by
  induction stages with
  | nil => exact nofun
  | cons stage stages ih =>
    rw [stagesNamed, Bool.and_eq_true, Bool.and_eq_true] at named
    exact List.forall_mem_cons.mpr ⟨named.1.2, ih named.2⟩

/-- All stages of a chain can be read back. -/
theorem readable_build (f : TagFilter) (least : Option Binary64) (kept excluded : List Filter) :
    ∀ stage ∈ (build (f.query? least) kept excluded).stages, Readable stage := by
  intro stage present
  have worded := words_build (f.query?_words least) kept excluded stage present
  have plain : ∀ q, f.query? least = some q → q.isNamed = true := fun _ =>
    TagFilter.query?_isNamed
  have named := named_build plain kept excluded
  exact ⟨worded, balanced_of_isNamed _ (isNamed_of_mem named.stages stage present)⟩

/-! ### The statement that counts -/

theorem text_countRows (q : Query) :
    (countRows q).fragment.text
      = "SELECT COUNT(*) AS total FROM (" ++ q.fragment.text ++ ")" := by
  have start : (selectFragment false [⟨.countAll, some "total"⟩]).text ++ "("
      = "SELECT COUNT(*) AS total FROM (" := by decide
  rw [← start]
  simp [countRows, Query.fragment, Source.fragment, wrap, join, clauseFragment, conditionFragments,
    havingFragment, labelText, String.append_assoc, empty]

/-- **The stages of a chain are read off its text**, for the query of every
tag filter and all filters: names, texts and values, in order, and whatever
comes after them.  The parenthesis that the statement which counts opens
around the body of a search is closed by its last character. -/
theorem build_readBack (f : TagFilter) (least : Option Binary64) (kept excluded : List Filter) :
    (∀ rest : Fragment, readWith ((build (f.query? least) kept excluded).withClause ++ rest)
      = some ((build (f.query? least) kept excluded).stages.map
          fun (name, q) => (name, q.fragment), rest))
      ∧ ∀ (settings : Settings) (request : Request), ∃ compiled,
        settings.compile request = .ok compiled
          ∧ let inner := (settings.chain request.criteria).body.fragment.text
            compiled.count.fragment.text = "SELECT COUNT(*) AS total FROM (" ++ inner ++ ")"
              ∧ upToClosing none 0 (inner.toList ++ [')']) = some (inner.toList, []) := by
  constructor
  · exact readWith_append (stages_build_ne_nil _ kept excluded)
      (readable_build f least kept excluded)
  · intro settings request
    refine ⟨_, settings.compile_eq_ok request, text_countRows _, ?_⟩
    have words := words_body (request.criteria.tags.query?_words settings.minTagConfidence)
      request.criteria.filters.toList request.criteria.exclude
    exact (phrase_query _ words).upToClosing_append []

end MediaSearch.Chain
