/-
MediaSearch/Proofs/Chain/Words.lean

Words are all the names in a chain.

The names of stages are a letter, digits and the name of a kind, all of which
are letters to a reader of text.  So the queries of all stages are phrases,
whatever filters a chain is built from, and so is the body of a search, which
reads the stages that rank by their names.

Main results: `words_build`, `words_body`.
-/
import MediaSearch.Compile
import MediaSearch.Proofs.Chain.Layout
import MediaSearch.Proofs.Tags.Words

namespace MediaSearch.Chain

open Sql Library

/-! ### Names of stages -/

/-- The name of a kind has neither digits nor spaces. -/
theorem letters_kindName (kind : FilterKind) : kind.name.toList.all isLetter = true := by
  cases kind <;> decide

/-- The name of a kept stage is one word. -/
theorem isWord_keptStage (i : Nat) (kind : FilterKind) : isWord (keptStage i kind) = true := by
  have mark : isLetter 'p' = true ∧ isLetter '_' = true := by decide
  apply isWord_of_head (toList_keptStage i kind) _ (by decide)
  simp [mark, letters_toDigits, letters_kindName]

/-- The name of an excluded stage is one word. -/
theorem isWord_excludedStage (i : Nat) (kind : FilterKind) :
    isWord (excludedStage i kind) = true := by
  have mark : isLetter 'n' = true ∧ isLetter '_' = true := by decide
  apply isWord_of_head (toList_excludedStage i kind) _ (by decide)
  simp [mark, letters_toDigits, letters_kindName]

theorem isWord_rootStage : isWord rootStage = true := by decide

theorem isWord_lastStage (i : Nat) (filters : List Filter) :
    isWord (lastStage i rootStage filters) = true := by
  rcases lastStage_cases i rootStage filters with root | ⟨j, kind, own⟩
  · rw [root]
    exact isWord_rootStage
  · rw [own]
    exact isWord_keptStage j kind

/-! ### Stages -/

/-- Whether words are the name of a stage and all names in its query. -/
def Worded (stage : String × Query) : Prop :=
  isWord stage.1 = true ∧ AllWords stage.2.names

instance (stage : String × Query) : Decidable (Worded stage) :=
  inferInstanceAs (Decidable (_ ∧ _))

/-- The stages of kept filters are worded, if the one they start from has a
word for its name. -/
theorem worded_keptStages (i : Nat) {upstream : String} (word : isWord upstream = true)
    (filters : List Filter) : ∀ stage ∈ keptStages i upstream filters, Worded stage := by
  induction filters generalizing i upstream with
  | nil => exact nofun
  | cons f filters ih =>
    have own := isWord_keptStage i f.kind
    have first : Worded (keptStage i f.kind, f.clause upstream) :=
      ⟨own, (f.clause_within word).words⟩
    exact List.forall_mem_cons.mpr ⟨first, ih (i + 1) own⟩

theorem worded_excludedStages (i : Nat) (filters : List Filter) :
    ∀ stage ∈ excludedStages i filters, Worded stage := by
  induction filters generalizing i with
  | nil => exact nofun
  | cons f filters ih =>
    have first : Worded (excludedStage i f.kind, f.clause rootStage) :=
      ⟨isWord_excludedStage i f.kind, (f.clause_within isWord_rootStage).words⟩
    exact List.forall_mem_cons.mpr ⟨first, ih (i + 1)⟩

theorem allWords_excludedStages (i : Nat) (filters : List Filter) :
    AllWords ((excludedStages i filters).map (·.1)) := by
  intro name present
  obtain ⟨stage, listed, rfl⟩ := List.mem_map.mp present
  exact (worded_excludedStages i filters stage listed).1

/-- The files and items of a source. -/
theorem within_idsOf {tables : List String} {source : Source}
    (within : Within tables source.names source.reads) :
    Within tables (idsOf source).names (idsOf source).reads := by
  have columns : ∀ c ∈ [Column.mk (.ref (.bare "file_id")) none,
      Column.mk (.ref (.bare "item_id")) none], AllWords c.names := by decide
  exact Within.select columns within nofun nofun nofun allWords_nil

theorem within_named {tables : List String} {name : String} (word : isWord name = true)
    (among : name ∈ tables) :
    Within tables (Source.named name none).names (Source.named name none).reads where
  words := List.forall_mem_singleton.mpr word
  reads := List.cons_subset.mpr ⟨among, List.nil_subset _⟩

/-- What is left reads what it is taken from and the other stages. -/
theorem within_without {result : String} {others : List String}
    (words : AllWords (result :: others)) :
    Within (result :: others) (without result others).names (without result others).reads := by
  rw [allWords_cons] at words
  have each : ∀ q ∈ others.map fun name => idsOf (.named name none),
      Within (result :: others) q.names q.reads := by
    refine List.forall_mem_map.mpr fun name present => within_idsOf ?_
    exact within_named (words.2 name present) (List.mem_cons_of_mem result present)
  -- the excluded stages are united first, and what is left is one subtraction
  have union := Within.compound each .union
  have minuend := within_named words.1 (List.mem_cons_self (l := others))
  refine Within.compound (List.forall_mem_cons.mpr
    ⟨within_idsOf minuend, List.forall_mem_singleton.mpr (within_idsOf ?_)⟩) _
  exact ⟨allWords_append.mpr ⟨union.words, allWords_nil⟩, union.reads⟩

/-- The stage `remaining` is worded like those it subtracts. -/
theorem worded_closingStages {result : String} (word : isWord result = true)
    (filters : List Filter) : ∀ stage ∈ closingStages result filters, Worded stage := by
  cases filters with
  | nil => exact nofun
  | cons f filters =>
    have others := allWords_excludedStages 0 (f :: filters)
    have own : isWord remainingStage = true := by decide
    have last : Worded (remainingStage,
        without result ((excludedStages 0 (f :: filters)).map (·.1))) :=
      ⟨own, (within_without (allWords_cons.mpr ⟨word, others⟩)).words⟩
    exact List.forall_mem_append.mpr
      ⟨worded_excludedStages 0 _, List.forall_mem_singleton.mpr last⟩

/-! ### Chains -/

section Build

variable {tags : Option Query} (words : ∀ q ∈ tags, AllWords q.names)
include words

theorem worded_start : ∀ stage ∈ (start tags).stages, Worded stage := by
  cases tags with
  | none => decide
  | some q =>
    have own : isWord tagStage = true := by decide
    have first : Worded (tagStage, q) := ⟨own, words q rfl⟩
    have root : Worded (rootStage, rootQuery true) := by decide
    exact List.forall_mem_cons.mpr ⟨first, List.forall_mem_singleton.mpr root⟩

/-- **Words are all the names in the stages of a chain.** -/
theorem words_build (kept excluded : List Filter) :
    ∀ stage ∈ (build tags kept excluded).stages, Worded stage := by
  rw [build_eq, List.forall_mem_append, List.forall_mem_append]
  exact ⟨⟨worded_start words, worded_keptStages 0 isWord_rootStage _⟩,
    worded_closingStages (isWord_lastStage 0 _) _⟩

end Build

/-! ### Bodies of searches -/

theorem allWords_stageNames {stages : List (String × Query)}
    (worded : ∀ stage ∈ stages, Worded stage) : AllWords (stageNames stages) := by
  induction stages with
  | nil => exact allWords_nil
  | cons stage stages ih =>
    rw [List.forall_mem_cons] at worded
    rw [stageNames, allWords_cons, allWords_append]
    exact ⟨worded.1.1, worded.1.2, ih worded.2⟩

theorem isWord_of_mem_keptRanks (i : Nat) (filters : List Filter) :
    ∀ r ∈ keptRanks i filters, isWord r.stage = true := by
  induction filters generalizing i with
  | nil => exact nofun
  | cons f filters ih =>
    rw [keptRanks, List.forall_mem_append, List.forall_mem_map]
    exact ⟨fun _ _ => isWord_keptStage i f.kind, ih (i + 1)⟩

section Ranks

variable (result : String) {r : RankedStage} (stage : isWord r.stage = true)
include stage

theorem words_rankedResultColumn : AllWords (rankedResultColumn result r).names := by
  have column : r.rank.column.toList.all isLetter = true ∧ isWord r.rank.column = true := by
    cases r.rank <;> decide
  have read : isWord (if r.stage = result then "result" else r.stage) = true := by
    split
    · decide
    · exact stage
  apply allWords_append.mpr
  exact ⟨List.forall_mem_singleton.mpr (isWord_dotted read column.1),
    List.forall_mem_singleton.mpr column.2⟩

theorem words_rankJoin : ∀ j ∈ rankJoin result r, AllWords j.names := by
  unfold rankJoin
  split
  · exact List.forall_mem_nil _
  · have left : isWord (r.stage ++ "." ++ "file_id") = true := isWord_dotted stage (by decide)
    have right : AllWords ["result.file_id"] := by decide
    exact List.forall_mem_singleton.mpr
      (allWords_cons.mpr ⟨stage, allWords_cons.mpr ⟨left, right⟩⟩)

end Ranks

/-- **Words are all the names in the body of a search.** -/
theorem words_body {tags : Option Query} (words : ∀ q ∈ tags, AllWords q.names)
    (kept excluded : List Filter) : AllWords (build tags kept excluded).body.names := by
  have stages := allWords_stageNames (words_build words kept excluded)
  have result : isWord (build tags kept excluded).result = true := by
    rw [build_eq]
    dsimp only
    split
    · exact isWord_lastStage 0 _
    · decide
  have ranked : ∀ r ∈ (build tags kept excluded).ranks, isWord r.stage = true := by
    rw [build_eq]
    exact isWord_of_mem_keptRanks 0 _
  have own : ∀ c ∈ resultColumns, AllWords c.names := by decide
  have fixed : ∀ j ∈ [Join.mk "files" none (.ref (.of "files" "id"))
        (.ref (.of "result" "file_id")),
      Join.mk "items" none (.ref (.of "items" "id")) (.ref (.of "result" "item_id"))],
      AllWords j.names := by decide
  have columns := fun r present => words_rankedResultColumn (build tags kept excluded).result
    (ranked r present)
  have joins := fun r present => words_rankJoin (build tags kept excluded).result
    (ranked r present)
  simp only [body, Query.names, allWords_append, allWords_flatMap, List.forall_mem_append,
    List.forall_mem_map, List.forall_mem_flatMap]
  exact ⟨stages, ⟨⟨⟨⟨⟨own, columns⟩, allWords_cons.mpr ⟨result, by decide⟩⟩, fixed, joins⟩,
    allWords_nil⟩, List.forall_mem_nil _⟩, allWords_nil⟩

end MediaSearch.Chain
