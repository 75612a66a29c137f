/-
MediaSearch/Proofs/Compile/Shape.lean

What the text of a statement depends on.

The shape of a request says how many tags and which filters it has, and what
it is ordered by, but none of the tags, names, paths, searches, vectors and
bounds it asks for (`Settings.shape`).  Requests of one shape are compiled to
statements of one text, whatever their values are; the values are parameters.

Main result: `texts_of_shape`.
-/
import MediaSearch.Proofs.Compile.Named
import MediaSearch.Proofs.Filter.Shape

namespace MediaSearch

open Sql

/-! ### Tag queries -/

/-- A tag filter without its values. -/
structure TagShape where
  requireAll : Nat
  requireAny : Nat
  rejectAny : Nat
  rejectAll : Nat
  /-- The number of setters that are not blank. -/
  setters : Nat
  /-- The number of namespaces that are not blank. -/
  namespaces : Nat
  everySetter : Bool
  /-- Whether the least confidence, of the filter or else of the settings,
  is positive. -/
  restricted : Bool
  deriving DecidableEq

/-- The shape of a tag filter: how long its lists are, and whether the least
confidence, its own or that of the settings, leaves anything out. -/
def TagFilter.shape (f : TagFilter) (minConfidence : Option Binary64) : TagShape where
  requireAll := f.requireAll.length
  requireAny := f.requireAny.length
  rejectAny := f.rejectAny.length
  rejectAll := f.rejectAll.length
  setters := Filter.entries f.setters
  namespaces := Filter.entries f.namespaces
  everySetter := f.everySetter
  restricted := (f.minConfidence <|> minConfidence).any (·.isPositive)

namespace TagScope

/-- Scopes with restrictions of the same kinds. -/
structure Alike (scope other : TagScope) : Prop where
  setters : scope.setters.length = other.setters.length
  namespaces : scope.namespaces.length = other.namespaces.length
  minConfidence : scope.minConfidence.isSome = other.minConfidence.isSome
  everySetter : scope.everySetter = other.everySetter

/-- Filters of one shape have scopes that are alike. -/
theorem alike_of_shape {f g : TagFilter} {least least' : Option Binary64}
    (same : f.shape least = g.shape least') : (of f least).Alike (of g least') where
  setters := congrArg TagShape.setters same
  namespaces := congrArg TagShape.namespaces same
  minConfidence := by
    have restricted := congrArg TagShape.restricted same
    show ((f.minConfidence <|> least).filter (·.isPositive)).isSome
      = ((g.minConfidence <|> least').filter (·.isPositive)).isSome
    rw [Option.isSome_filter, Option.isSome_filter]
    exact restricted
  everySetter := by
    have every : f.everySetter = g.everySetter := congrArg TagShape.everySetter same
    have setters : (Text.nonBlank f.setters).length = (Text.nonBlank g.setters).length :=
      congrArg TagShape.setters same
    show (f.everySetter && !(Text.nonBlank f.setters).isEmpty)
      = (g.everySetter && !(Text.nonBlank g.setters).isEmpty)
    rw [every, isEmpty_eq_of_length_eq setters]

variable {scope other : TagScope} {names names' : List String} {excluded excluded' : Option Query}

/-- Conditions are worded by the number of tags, setters and namespaces. -/
theorem texts_conditions (alike : scope.Alike other) (same : names.length = names'.length) :
    conditionTexts (scope.conditions names) = conditionTexts (other.conditions names') := by
  have values : (names.map Value.text).length = (names'.map Value.text).length := by
    rw [List.length_map, List.length_map, same]
  have confidence := isSome_map_eq Value.real alike.minConfidence
  unfold conditions
  simp only [conditionTexts_append, conditionTexts_cons (text_oneOf _ values) rfl,
    Library.texts_atLeast _ confidence, Library.texts_setBy _ alike.setters,
    Library.texts_startsWithOneOf _ alike.namespaces]

theorem texts_notIn (r : Ref)
    (same : excluded.map (·.fragment.text) = excluded'.map (·.fragment.text)) :
    conditionTexts (excluded.toList.map (.notInQuery r))
      = conditionTexts (excluded'.toList.map (.notInQuery r)) := by
  cases excluded with
  | none =>
    obtain rfl := Option.map_eq_none_iff.mp same.symm
    rfl
  | some q =>
    obtain ⟨q', rfl, text⟩ := Option.map_eq_some_iff.mp same.symm
    exact conditionTexts_cons (text_notInQuery r text.symm) rfl

theorem text_matching (alike : scope.Alike other) (same : names.length = names'.length) :
    (scope.matching names).fragment.text = (other.matching names').fragment.text :=
  text_select false _ [] rfl rfl (texts_conditions alike same) rfl

theorem texts_restricted (alike : scope.Alike other) (same : names.length = names'.length)
    (excludedSame : excluded.map (·.fragment.text) = excluded'.map (·.fragment.text)) :
    conditionTexts (scope.conditions names ++ notAmong excluded)
      = conditionTexts (other.conditions names' ++ notAmong excluded') := by
  rw [conditionTexts_append, conditionTexts_append, texts_conditions alike same]
  exact congrArg _ (texts_notIn itemId excludedSame)

/-- A query for any of some tags is worded by their number. -/
theorem text_withAny (alike : scope.Alike other) (same : names.length = names'.length)
    (excludedSame : excluded.map (·.fragment.text) = excluded'.map (·.fragment.text)) :
    (scope.withAny names excluded).fragment.text
      = (other.withAny names' excluded').fragment.text :=
  text_select false _ _ rfl rfl (texts_restricted alike same excludedSame) rfl

/-- A query for all of some tags is worded by their number, which it also counts. -/
theorem text_withAll (alike : scope.Alike other) (same : names.length = names'.length)
    (excludedSame : excluded.map (·.fragment.text) = excluded'.map (·.fragment.text)) :
    (scope.withAll names excluded).fragment.text
      = (other.withAll names' excluded').fragment.text := by
  -- what is counted is fixed by the restrictions, and how often is a parameter
  have counted : (scope.quota names).1 = (other.quota names').1 := by
    unfold quota
    rw [alike.everySetter]
    split <;> rfl
  refine text_select false _ _ rfl rfl (texts_restricted alike same excludedSame) ?_
  show (havingFragment (some (.aggregate .countDistinct (scope.quota names).1, _))).text
    = (havingFragment (some (.aggregate .countDistinct (other.quota names').1, _))).text
  rw [counted]
  rfl

end TagScope

theorem text_allItems {excluded excluded' : Option Query}
    (same : excluded.map (·.fragment.text) = excluded'.map (·.fragment.text)) :
    (allItems excluded).fragment.text = (allItems excluded').fragment.text :=
  text_select false [] [] rfl rfl (TagScope.texts_notIn _ same) rfl

namespace TagFilter

/-- Whether a query is wrapped as the left side of a set operation. -/
def isWrapped : Query → Bool
  | .compound _ _ => true
  | _ => false

/-- What the operand made of a query depends on. -/
def form (q : Query) : String × Bool :=
  (q.fragment.text, isWrapped q)

theorem operand_of_not_wrapped {q : Query} (plain : isWrapped q = false) : operand q = q := by
  cases q with
  | compound operator parts => cases plain
  | _ => rfl

theorem operand_of_wrapped {q : Query} (wrapped : isWrapped q = true) :
    operand q = .select
      { columns := [⟨.ref (.bare "item_id"), none⟩], source := .query q none } := by
  cases q with
  | compound operator parts => rfl
  | _ => cases wrapped

/-- What a compound is made of is worded alike if it has the same form. -/
theorem text_operand {q other : Query} (same : form q = form other) :
    (operand q).fragment.text = (operand other).fragment.text := by
  obtain ⟨text, wrapped⟩ := Prod.mk.inj same
  cases kind : isWrapped q with
  | false => rwa [operand_of_not_wrapped kind, operand_of_not_wrapped (wrapped ▸ kind)]
  | true =>
    rw [operand_of_wrapped kind, operand_of_wrapped (wrapped ▸ kind)]
    exact text_select false [] [] rfl (text_source_query none text) rfl rfl

variable {f g : TagFilter} {least least' : Option Binary64}

theorem form_allItems {excluded excluded' : Option Query}
    (same : excluded.map (·.fragment.text) = excluded'.map (·.fragment.text)) :
    (excluded.map fun q => allItems (some q)).map form
      = (excluded'.map fun q => allItems (some q)).map form := by
  cases excluded with
  | none =>
    obtain rfl := Option.map_eq_none_iff.mp same.symm
    rfl
  | some q =>
    obtain ⟨q', rfl, text⟩ := Option.map_eq_some_iff.mp same.symm
    exact congrArg some (Prod.ext (text_allItems (congrArg some text.symm)) rfl)

/-- What is required has a form that the shape determines. -/
theorem form_positive? (same : f.shape least = g.shape least') :
    (f.positive? (.of f least)).map form = (g.positive? (.of g least')).map form := by
  have alike := TagScope.alike_of_shape same
  have rejectAny : f.rejectAny.length = g.rejectAny.length := congrArg TagShape.rejectAny same
  -- the excluded list comes first, since both other lists leave it out
  have rejected : (f.rejected (.of f least)).map (·.fragment.text)
      = (g.rejected (.of g least')).map (·.fragment.text) := by
    unfold TagFilter.rejected
    rw [isEmpty_eq_of_length_eq rejectAny]
    -- which lists are given is the same for both filters
    split
    · rfl
    · exact congrArg some (TagScope.text_matching alike rejectAny)
  have requireAll : f.requireAll.length = g.requireAll.length := congrArg TagShape.requireAll same
  have requireAny : f.requireAny.length = g.requireAny.length := congrArg TagShape.requireAny same
  have withAll := TagScope.text_withAll alike requireAll rejected
  have withAny := TagScope.text_withAny alike requireAny rejected
  rw [positive?_eq, positive?_eq]
  simp only [← List.length_eq_zero_iff, requireAll, requireAny]
  split
  · split
    · exact form_allItems rejected
    · exact congrArg some (Prod.ext withAny rfl)
  · split
    · exact congrArg some (Prod.ext withAll rfl)
    · exact congrArg some (Prod.ext
        (text_pair .intersect withAll (TagScope.text_withAny alike requireAny rfl)) rfl)

/-- What is subtracted from is worded by the shape. -/
theorem text_minuend (same : f.shape least = g.shape least') :
    (f.minuend least).fragment.text = (g.minuend least').fragment.text := by
  have positive := form_positive? same
  unfold minuend
  -- there is a first query on both sides or on none
  generalize f.positive? (.of f least) = first at positive
  generalize g.positive? (.of g least') = second at positive
  cases first with
  | none =>
    obtain rfl := Option.map_eq_none_iff.mp positive.symm
    rfl
  | some q =>
    obtain ⟨other, rfl, form⟩ := Option.map_eq_some_iff.mp positive.symm
    exact text_operand form.symm

/-- The tag query is worded by the shape of the filter, and missing by it. -/
theorem text_query? (same : f.shape least = g.shape least') :
    (f.query? least).map (·.fragment.text) = (g.query? least').map (·.fragment.text) := by
  have rejectAll : f.rejectAll.length = g.rejectAll.length := congrArg TagShape.rejectAll same
  have subtracted := TagScope.text_withAll (TagScope.alike_of_shape same) rejectAll
    (rfl : (none : Option Query).map (·.fragment.text)
      = (none : Option Query).map (·.fragment.text))
  rw [query?_eq, query?_eq]
  simp only [← List.length_eq_zero_iff, rejectAll]
  split
  · have positive := congrArg (Option.map Prod.fst) (form_positive? same)
    rwa [Option.map_map, Option.map_map] at positive
  · exact congrArg some (text_pair .except (text_minuend same) subtracted)

end TagFilter

/-! ### Chains -/

namespace Chain

/-- Chains that differ only in values. -/
structure Alike (chain other : Chain) : Prop where
  stages : stageTexts chain.stages = stageTexts other.stages
  result : chain.result = other.result
  ranks : chain.ranks = other.ranks
  active : chain.active = other.active

theorem alike_start {tags tags' : Option Query}
    (same : tags.map (·.fragment.text) = tags'.map (·.fragment.text)) :
    (start tags).Alike (start tags') := by
  cases tags with
  | none =>
    obtain rfl := Option.map_eq_none_iff.mp same.symm
    exact ⟨rfl, rfl, rfl, rfl⟩
  | some q =>
    obtain ⟨q', rfl, text⟩ := Option.map_eq_some_iff.mp same.symm
    have stage : (tagStage, q.fragment.text) = (tagStage, q'.fragment.text) := by rw [text]
    exact ⟨congrArg (· :: _) stage, rfl, rfl, rfl⟩

/-- Filters of one shape keep chains alike. -/
theorem Alike.keep {chain other : Chain} (alike : chain.Alike other) {f g : Filter}
    (same : f.shape = g.shape) : (chain.keep f).Alike (other.keep g) := by
  have kind := Filter.kind_eq_of_shape same
  have text := Filter.text_clause other.result same
  unfold Chain.keep
  rw [alike.active, alike.result, alike.ranks, kind]
  refine ⟨?_, rfl, rfl, rfl⟩
  rw [stageTexts, stageTexts, List.map_append, List.map_append, List.map_singleton,
    List.map_singleton, text]
  exact congrArg (· ++ _) alike.stages

theorem Alike.foldl_keep {chain other : Chain} (alike : chain.Alike other)
    {filters filters' : List Filter} (same : filters.map Filter.shape = filters'.map Filter.shape) :
    (filters.foldl Chain.keep chain).Alike (filters'.foldl Chain.keep other) := by
  induction filters generalizing chain other filters' with
  | nil =>
    obtain rfl := List.map_eq_nil_iff.mp same.symm
    exact alike
  | cons f filters ih =>
    obtain ⟨g, rest, rfl, first, others⟩ := List.map_eq_cons_iff.mp same.symm
    exact ih (alike.keep first.symm) others.symm

theorem stageTexts_excludedStages (i : Nat) {filters filters' : List Filter}
    (same : filters.map Filter.shape = filters'.map Filter.shape) :
    stageTexts (excludedStages i filters) = stageTexts (excludedStages i filters') := by
  induction filters generalizing i filters' with
  | nil =>
    obtain rfl := List.map_eq_nil_iff.mp same.symm
    rfl
  | cons f filters ih =>
    -- the other list begins with a filter of the same shape
    obtain ⟨g, rest, rfl, first, others⟩ := List.map_eq_cons_iff.mp same.symm
    have stage : (excludedStage i f.kind, (f.clause rootStage).fragment.text)
        = (excludedStage i g.kind, (g.clause rootStage).fragment.text) := by
      rw [Filter.kind_eq_of_shape first, Filter.text_clause rootStage first]
    exact congrArg₂ List.cons stage (ih (i + 1) others.symm)

theorem map_fst_stageTexts (stages : List (String × Query)) :
    (stageTexts stages).map (·.1) = stages.map (·.1) := by
  rw [stageTexts, List.map_map]
  rfl

/-- Excluded filters of one shape keep chains alike. -/
theorem Alike.exclude {chain other : Chain} (alike : chain.Alike other)
    {filters filters' : List Filter} (same : filters.map Filter.shape = filters'.map Filter.shape) :
    (chain.exclude filters).Alike (other.exclude filters') := by
  -- only the texts and names of the excluded stages matter
  have texts := stageTexts_excludedStages 0 same
  unfold Chain.exclude
  generalize excludedStages 0 filters = excluded at texts
  generalize excludedStages 0 filters' = excluded' at texts
  have names : excluded.map (·.1) = excluded'.map (·.1) := by
    rw [← map_fst_stageTexts, texts, map_fst_stageTexts]
  cases excluded with
  | nil =>
    obtain rfl := List.map_eq_nil_iff.mp texts.symm
    exact alike
  | cons first rest =>
    obtain ⟨first', rest', rfl, -, -⟩ := List.map_eq_cons_iff.mp texts.symm
    refine ⟨?_, rfl, alike.ranks, alike.active⟩
    show stageTexts (_ ++ _ ++ [(_, without chain.result ((first :: rest).map (·.1)))])
      = stageTexts (_ ++ _ ++ [(_, without other.result ((first' :: rest').map (·.1)))])
    rw [alike.result, names]
    unfold stageTexts at texts ⊢
    rw [List.map_append, List.map_append, List.map_append, List.map_append, texts]
    exact congrArg (· ++ _ ++ _) alike.stages

/-- The shapes of the valid ones among some filters. -/
def shapes (filters : List Filter) : List FilterShape :=
  (filters.filter Filter.isValid).map Filter.shape

/-- **Chains of filters of one shape are alike.** -/
theorem alike_build {tags tags' : Option Query} {kept kept' excluded excluded' : List Filter}
    (tagsSame : tags.map (·.fragment.text) = tags'.map (·.fragment.text))
    (keptSame : shapes kept = shapes kept') (excludedSame : shapes excluded = shapes excluded') :
    (build tags kept excluded).Alike (build tags' kept' excluded') :=
  ((alike_start tagsSame).foldl_keep keptSame).exclude excludedSame

/-- Chains that are alike are read by queries with one text. -/
theorem Alike.text_body {chain other : Chain} (alike : chain.Alike other) :
    chain.body.fragment.text = other.body.fragment.text := by
  unfold body
  rw [alike.result, alike.ranks]
  exact text_withStages alike.stages rfl

end Chain

/-! ### Statements -/

theorem text_countRows {q other : Query} (same : q.fragment.text = other.fragment.text) :
    (countRows q).fragment.text = (countRows other).fragment.text :=
  text_select false [] [] rfl (text_source_query none same) rfl rfl

/-- A request without its values. -/
structure RequestShape where
  tags : TagShape
  /-- The valid filters asked for, in the order of their kinds. -/
  kept : List FilterShape
  /-- The valid filters that are excluded, in their order. -/
  excluded : List FilterShape
  orderBy : Option OrderBy
  direction : Option SortDirection
  deriving DecidableEq

/-- The shape of a request. Nothing of the page is part of it, and of the tags
only how many there are. -/
def Settings.shape (settings : Settings) (request : Request) : RequestShape where
  tags := request.criteria.tags.shape settings.minTagConfidence
  kept := Chain.shapes request.criteria.filters.toList
  excluded := Chain.shapes request.criteria.exclude
  orderBy := request.paging.orderBy
  direction := request.paging.direction

/-- A rule without its values. -/
structure RuleShape where
  positive : List FilterShape
  negative : List FilterShape
  deriving DecidableEq

/-- The shape of a rule. -/
def ItemRule.shape (rule : ItemRule) : RuleShape :=
  ⟨Chain.shapes rule.positive, Chain.shapes rule.negative⟩

/-- Requests of one shape are sent as statements with one text. -/
theorem Settings.texts_statements {settings settings' : Settings} {request request' : Request}
    (same : settings.shape request = settings'.shape request') :
    (settings.statements request).count.fragment.text
        = (settings'.statements request').count.fragment.text
      ∧ (settings.statements request).fetch.fragment.text
        = (settings'.statements request').fetch.fragment.text := by
  have tags := TagFilter.text_query? (congrArg RequestShape.tags same)
  have alike : (settings.chain request.criteria).Alike (settings'.chain request'.criteria) :=
    Chain.alike_build tags (congrArg RequestShape.kept same)
      (congrArg RequestShape.excluded same)
  have orderBy : request.paging.orderBy = request'.paging.orderBy :=
    congrArg RequestShape.orderBy same
  have direction : request.paging.direction = request'.paging.direction :=
    congrArg RequestShape.direction same
  unfold statements
  dsimp only
  rw [orderBy, direction, alike.active]
  exact ⟨text_countRows alike.text_body, text_page _ _ _ _ _ alike.text_body⟩

/-- Rules of one shape are sent as statements with one text. -/
theorem ItemRule.text_query {rule other : ItemRule} (same : rule.shape = other.shape) :
    rule.query.fragment.text = other.query.fragment.text := by
  obtain ⟨positive, negative⟩ := RuleShape.mk.inj same
  have alike : (Chain.build none rule.positive rule.negative).Alike
      (Chain.build none other.positive other.negative) := Chain.alike_build rfl positive negative
  unfold query
  dsimp only
  rw [alike.result]
  exact text_withStages alike.stages rfl

/-- **Statements of requests of one shape have one text**, and so have those
of rules of one shape: no value is ever part of a text. -/
theorem texts_of_shape (settings settings' : Settings) :
    (∀ request request' : Request, settings.shape request = settings'.shape request' →
      ∃ compiled compiled', settings.compile request = .ok compiled
        ∧ settings'.compile request' = .ok compiled'
        ∧ compiled.count.fragment.text = compiled'.count.fragment.text
        ∧ compiled.fetch.fragment.text = compiled'.fetch.fragment.text)
    ∧ ∀ rule rule' : ItemRule, rule.shape = rule'.shape →
      ∃ statement statement', rule.compile = .ok statement ∧ rule'.compile = .ok statement'
        ∧ statement.text = statement'.text := by
  constructor
  · intro request request' same
    obtain ⟨count, fetch⟩ := Settings.texts_statements same
    exact ⟨_, _, settings.compile_eq_ok request, settings'.compile_eq_ok request', count, fetch⟩
  · intro rule rule' same
    exact ⟨_, _, rule.compile_eq_ok, rule'.compile_eq_ok, ItemRule.text_query same⟩

/-- A search for the bookmarks of a user that have a tag, in one group. -/
def bookmarked (tag group user expression : String) : Request where
  criteria :=
    { tags := { requireAll := [tag] }
      filters := { bookmarks := some { namespaces := [group, ""], user } }
      exclude := [.pathText { expression }] }

/-- A rule for the paths that a search finds. -/
def found (expression : String) : ItemRule where
  positive := [.pathText { expression }]

/-- Quotes, placeholders and statements in values stay out of the text. -/
theorem texts_of_shape_quoted :
    let mild := bookmarked "cat" "pets" "ann" "dog"
    let wild := bookmarked "'); DROP TABLE files; --" "a\"b?" "?, ?" "' OR '1'='1"
    let settings : Settings := { defaultPageSize := 25 }
    (Settings.shape {} mild = settings.shape wild
      ∧ ∃ compiled compiled', Settings.compile {} mild = .ok compiled
        ∧ settings.compile wild = .ok compiled'
        ∧ compiled.count.fragment.text = compiled'.count.fragment.text
        ∧ compiled.fetch.fragment.text = compiled'.fetch.fragment.text)
    ∧ (found "cat").shape = (found "' ? \"").shape
      ∧ ∃ statement statement', (found "cat").compile = .ok statement
        ∧ (found "' ? \"").compile = .ok statement' ∧ statement.text = statement'.text := by
  intro mild wild settings
  have requests : Settings.shape {} mild = settings.shape wild := by decide +kernel
  have rules : (found "cat").shape = (found "' ? \"").shape := by decide +kernel
  exact ⟨⟨requests, (texts_of_shape {} settings).1 mild wild requests⟩,
    rules, (texts_of_shape {} settings).2 _ _ rules⟩

end MediaSearch
