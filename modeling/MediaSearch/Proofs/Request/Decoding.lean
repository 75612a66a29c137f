/-
MediaSearch/Proofs/Request/Decoding.lean

Decoding undoes every spelling of requests, filters, rules and settings.

Each record is a tuple of its fields, and so it is lawful as soon as the codec
of each field undoes the spellings of its values (`Columns.lawful`).  From
there the property passes up to requests, rules and settings.

Main result: `Request.codecs_roundTrip`.
-/
import MediaSearch.Proofs.Json.Columns
import MediaSearch.Proofs.Request.Spelling

namespace MediaSearch

open Json Codec

/-! ### Choices -/

theorem strings_undoes : strings.Undoes (.list .string) :=
  string_undoes.list

theorem DistanceFunction.undoes : DistanceFunction.codec.Undoes (.choice name) :=
  choice_undoes fun function => by cases function <;> rfl

theorem DistanceAggregation.undoes : DistanceAggregation.codec.Undoes (.choice name) :=
  choice_undoes fun aggregation => by cases aggregation <;> rfl

theorem OrderBy.undoes : OrderBy.codec.Undoes (.choice name) :=
  choice_undoes fun order => by
    cases order with
    | rank r => cases r <;> rfl
    | _ => rfl

theorem directionCodec_undoes : directionCodec.Undoes (.choice directionName) :=
  choice_undoes fun direction => by cases direction <;> rfl

theorem optional_u64_undoes : (option u64).Undoes (.option .u64) :=
  u64_undoes.option fun _ _ => u64_null

theorem optional_f64_undoes : (option f64).Undoes (.option (.number .double)) :=
  f64_undoes.option fun _ _ => number_null

/-! ### Tag filters and the contents of filters -/

/-- A tag filter as the tuple of its fields. -/
def TagFilter.tuple : TagFilter ≃ List String × List String × List String × List String × Bool ×
    List String × List String × Option Binary64 × Unit where
  toFun f := (f.requireAll, f.requireAny, f.rejectAny, f.rejectAll, f.everySetter, f.setters,
    f.namespaces, f.minConfidence, ())
  invFun := fun (requireAll, requireAny, rejectAny, rejectAll, everySetter, setters, namespaces,
    minConfidence, _) =>
    { requireAll, requireAny, rejectAny, rejectAll, everySetter, setters, namespaces,
      minConfidence }
  left_inv _ := rfl
  right_inv _ := rfl

theorem TagFilter.lawful : TagFilter.record.Lawful TagFilter.fieldSpellings :=
  Columns.lawful tuple (.more strings_undoes <| .more strings_undoes <| .more strings_undoes <|
    .more strings_undoes <| .more bool_undoes <| .more strings_undoes <| .more strings_undoes <|
    .more optional_f64_undoes .none) (by decide)

/-- A filter of files as the tuple of its fields. -/
def FileFilter.tuple : FileFilter ≃ List String × List String × Option UInt64 × Option UInt64 ×
    Bool × Unit where
  toFun f := (f.mimeTypes, f.pathPrefixes, f.minSize, f.maxSize, f.availableOnly, ())
  invFun := fun (mimeTypes, pathPrefixes, minSize, maxSize, availableOnly, _) =>
    { mimeTypes, pathPrefixes, minSize, maxSize, availableOnly }
  left_inv _ := rfl
  right_inv _ := rfl

theorem FileFilter.lawful : FileFilter.record.Lawful FileFilter.fieldSpellings :=
  Columns.lawful tuple (.more strings_undoes <| .more strings_undoes <|
    .more optional_u64_undoes <| .more optional_u64_undoes <| .more bool_undoes .none) (by decide)

/-- A filter of the texts of paths as the tuple of its fields. -/
def PathTextFilter.tuple : PathTextFilter ≃ String × Bool × Unit where
  toFun f := (f.expression, f.filenameOnly, ())
  invFun := fun (expression, filenameOnly, _) => { expression, filenameOnly }
  left_inv _ := rfl
  right_inv _ := rfl

theorem PathTextFilter.lawful : PathTextFilter.record.Lawful PathTextFilter.fieldSpellings :=
  Columns.lawful tuple (.more string_undoes <| .more bool_undoes .none) (by decide)

/-- A filter of extracted texts as the tuple of its fields. -/
def ExtractedTextFilter.tuple : ExtractedTextFilter ≃ String × List String × List String ×
    Option Binary64 × Option Binary64 × Unit where
  toFun f := (f.expression, f.setters, f.languages, f.minConfidence, f.minLanguageConfidence, ())
  invFun := fun (expression, setters, languages, minConfidence, minLanguageConfidence, _) =>
    { expression, setters, languages, minConfidence, minLanguageConfidence }
  left_inv _ := rfl
  right_inv _ := rfl

theorem ExtractedTextFilter.lawful :
    ExtractedTextFilter.record.Lawful ExtractedTextFilter.fieldSpellings :=
  Columns.lawful tuple (.more string_undoes <| .more strings_undoes <| .more strings_undoes <|
    .more optional_f64_undoes <| .more optional_f64_undoes .none) (by decide)

/-- A filter by the embeddings of texts as the tuple of its fields. -/
def TextEmbeddingFilter.tuple : TextEmbeddingFilter ≃ List Binary32 × String × DistanceFunction ×
    DistanceAggregation × List String × List String × Option Binary64 × Unit where
  toFun f := (f.embedding, f.model, f.function, f.aggregation, f.sourceSetters, f.sourceLanguages,
    f.sourceMinConfidence, ())
  invFun := fun (embedding, model, function, aggregation, sourceSetters, sourceLanguages,
    sourceMinConfidence, _) =>
    { embedding, model, function, aggregation, sourceSetters, sourceLanguages,
      sourceMinConfidence }
  left_inv _ := rfl
  right_inv _ := rfl

theorem TextEmbeddingFilter.lawful :
    TextEmbeddingFilter.record.Lawful TextEmbeddingFilter.fieldSpellings :=
  Columns.lawful tuple (.more f32_undoes.list <| .more string_undoes <|
    .more DistanceFunction.undoes <| .more DistanceAggregation.undoes <| .more strings_undoes <|
    .more strings_undoes <| .more optional_f64_undoes .none) (by decide)

/-- A filter by the embeddings of images as the tuple of its fields. -/
def ImageEmbeddingFilter.tuple : ImageEmbeddingFilter ≃ List Binary32 × String ×
    DistanceFunction × DistanceAggregation × Unit where
  toFun f := (f.embedding, f.model, f.function, f.aggregation, ())
  invFun := fun (embedding, model, function, aggregation, _) =>
    { embedding, model, function, aggregation }
  left_inv _ := rfl
  right_inv _ := rfl

theorem ImageEmbeddingFilter.lawful :
    ImageEmbeddingFilter.record.Lawful ImageEmbeddingFilter.fieldSpellings :=
  Columns.lawful tuple (.more f32_undoes.list <| .more string_undoes <|
    .more DistanceFunction.undoes <| .more DistanceAggregation.undoes .none) (by decide)

/-- A filter by the distance from an item as the tuple of its fields. -/
def SimilarityFilter.tuple : SimilarityFilter ≃ String × String × DistanceFunction ×
    DistanceAggregation × Unit where
  toFun f := (f.target, f.model, f.function, f.aggregation, ())
  invFun := fun (target, model, function, aggregation, _) =>
    { target, model, function, aggregation }
  left_inv _ := rfl
  right_inv _ := rfl

theorem SimilarityFilter.lawful : SimilarityFilter.record.Lawful SimilarityFilter.fieldSpellings :=
  Columns.lawful tuple (.more string_undoes <| .more string_undoes <|
    .more DistanceFunction.undoes <| .more DistanceAggregation.undoes .none) (by decide)

/-- A filter of bookmarks as the tuple of its fields. -/
def BookmarkFilter.tuple : BookmarkFilter ≃ List String × String × Bool × Unit where
  toFun f := (f.namespaces, f.user, f.includeWildcard, ())
  invFun := fun (namespaces, user, includeWildcard, _) => { namespaces, user, includeWildcard }
  left_inv _ := rfl
  right_inv _ := rfl

theorem BookmarkFilter.lawful : BookmarkFilter.record.Lawful BookmarkFilter.fieldSpellings :=
  Columns.lawful tuple (.more strings_undoes <| .more string_undoes <|
    .more bool_undoes .none) (by decide)

/-- A filter of texts of either kind as the tuple of its fields. -/
def AnyTextFilter.tuple : AnyTextFilter ≃ String × Bool × Bool × List String × Unit where
  toFun f := (f.expression, f.includePath, f.includeExtractedText, f.textSetters, ())
  invFun := fun (expression, includePath, includeExtractedText, textSetters, _) =>
    { expression, includePath, includeExtractedText, textSetters }
  left_inv _ := rfl
  right_inv _ := rfl

theorem AnyTextFilter.lawful : AnyTextFilter.record.Lawful AnyTextFilter.fieldSpellings :=
  Columns.lawful tuple (.more string_undoes <| .more bool_undoes <| .more bool_undoes <|
    .more strings_undoes .none) (by decide)

/-! ### Filters of any kind -/

namespace Filter

/-- That a filter is made of a record of its kind. -/
structure MadeOf {ρ : Type} (record : Record ρ) (specs : List (FieldSpelling ρ)) (r : ρ)
    (f : Filter) : Prop where
  lawful : record.Lawful specs
  decode : ∀ {j : Json}, record.decode .stored j = .ok r → decodeBody f.kind j = .ok f
  members : f.members = record.members r
  spells : contents.spells .stored f = (Spelling.record specs).spells .stored r
  finite : contents.finite f = (Spelling.record specs).finite r
  shallow : (specs.map (·.levels)).foldr max 0 ≤ 1
  untagged : ∀ field ∈ record.fields, field.name ≠ "kind"

/-- Every filter is made of the record of its kind. -/
theorem exists_madeOf (f : Filter) :
    ∃ (ρ : Type) (record : Record ρ) (specs : List (FieldSpelling ρ)) (r : ρ),
      f.MadeOf record specs r := by
  cases f with
  | files f =>
    exact ⟨_, _, _, f, FileFilter.lawful, congrArg (Except.map files), rfl, rfl, rfl, by decide,
      by decide⟩
  | pathText f =>
    exact ⟨_, _, _, f, PathTextFilter.lawful, congrArg (Except.map pathText), rfl, rfl, rfl,
      by decide, by decide⟩
  | extractedText f =>
    exact ⟨_, _, _, f, ExtractedTextFilter.lawful, congrArg (Except.map extractedText), rfl, rfl,
      rfl, by decide, by decide⟩
  | extractedTextEmbeddings f =>
    exact ⟨_, _, _, f, TextEmbeddingFilter.lawful, congrArg (Except.map extractedTextEmbeddings),
      rfl, rfl, rfl, by decide, by decide⟩
  | imageEmbeddings f =>
    exact ⟨_, _, _, f, ImageEmbeddingFilter.lawful, congrArg (Except.map imageEmbeddings), rfl,
      rfl, rfl, by decide, by decide⟩
  | itemSimilarity f =>
    exact ⟨_, _, _, f, SimilarityFilter.lawful, congrArg (Except.map itemSimilarity), rfl, rfl,
      rfl, by decide, by decide⟩
  | bookmarks f =>
    exact ⟨_, _, _, f, BookmarkFilter.lawful, congrArg (Except.map bookmarks), rfl, rfl, rfl,
      by decide, by decide⟩
  | anyText f =>
    exact ⟨_, _, _, f, AnyTextFilter.lawful, congrArg (Except.map anyText), rfl, rfl, rfl,
      by decide, by decide⟩

/-- Filters are told apart by their kinds, and each is read as the record of its kind. -/
theorem lawful : tagged.Lawful (·.kind.name) kind contents where
  named f := by cases f <;> rfl
  reads {f j} spelled := by
    obtain ⟨ρ, record, specs, r, made⟩ := f.exists_madeOf
    rw [made.spells] at spelled
    exact made.decode (made.lawful.decode_spelled spelled)
  tagged _ := rfl
  writes {f} finite := by
    obtain ⟨ρ, record, specs, r, made⟩ := f.exists_madeOf
    rw [made.finite] at finite
    show contents.spells .stored f (ofFields f.members)
    rw [made.spells, made.members]
    exact made.lawful.undoes.writes trivial finite
  untagged f := by
    obtain ⟨ρ, record, specs, r, made⟩ := f.exists_madeOf
    show ∀ member ∈ f.members, member.1 ≠ "kind"
    rw [made.members, Record.members, List.forall_mem_map]
    exact made.untagged
  room {origin} room := by
    obtain ⟨inside, enter, room⟩ := Origin.enter_of_hasRoom room
    refine ⟨inside, enter, fun {f} finite => ?_⟩
    obtain ⟨ρ, record, specs, r, made⟩ := f.exists_madeOf
    rw [made.finite] at finite
    show ∀ member ∈ f.members, inside.keeps member.2 = true
    rw [made.members]
    exact made.lawful.keeps_members (room.mono made.shallow) finite

end Filter

/-! ### Requests, rules and settings -/

/-- A set of filters as the tuple of those that it may have. -/
def FilterSet.tuple : FilterSet ≃ Option FileFilter × Option PathTextFilter ×
    Option ExtractedTextFilter × Option TextEmbeddingFilter × Option ImageEmbeddingFilter ×
    Option SimilarityFilter × Option BookmarkFilter × Option AnyTextFilter × Unit where
  toFun f := (f.files, f.pathText, f.extractedText, f.extractedTextEmbeddings, f.imageEmbeddings,
    f.itemSimilarity, f.bookmarks, f.anyText, ())
  invFun := fun (files, pathText, extractedText, extractedTextEmbeddings, imageEmbeddings,
    itemSimilarity, bookmarks, anyText, _) =>
    { files, pathText, extractedText, extractedTextEmbeddings, imageEmbeddings, itemSimilarity,
      bookmarks, anyText }
  left_inv _ := rfl
  right_inv _ := rfl

theorem FilterSet.lawful : FilterSet.record.Lawful FilterSet.fieldSpellings :=
  Columns.lawful tuple (.more FileFilter.lawful.option <| .more PathTextFilter.lawful.option <|
    .more ExtractedTextFilter.lawful.option <| .more TextEmbeddingFilter.lawful.option <|
    .more ImageEmbeddingFilter.lawful.option <| .more SimilarityFilter.lawful.option <|
    .more BookmarkFilter.lawful.option <| .more AnyTextFilter.lawful.option .none) (by decide)

/-- The criteria of a request as the tuple of their fields. -/
def Criteria.tuple : Criteria ≃ TagFilter × FilterSet × List Filter × Unit where
  toFun f := (f.tags, f.filters, f.exclude, ())
  invFun := fun (tags, filters, exclude, _) => { tags, filters, exclude }
  left_inv _ := rfl
  right_inv _ := rfl

theorem Criteria.lawful : Criteria.record.Lawful Criteria.fieldSpellings :=
  Columns.lawful tuple (.more TagFilter.lawful.undoes <| .more FilterSet.lawful.undoes <|
    .more Filter.lawful.undoes.list .none) (by decide)

/-- An order with a page as the tuple of its fields. -/
def Paging.tuple : Paging ≃ Option OrderBy × Option Sql.SortDirection × Int64 × Option UInt64 ×
    Unit where
  toFun f := (f.orderBy, f.direction, f.page, f.pageSize, ())
  invFun := fun (orderBy, direction, page, pageSize, _) => { orderBy, direction, page, pageSize }
  left_inv _ := rfl
  right_inv _ := rfl

theorem Paging.lawful : Paging.record.Lawful Paging.fieldSpellings :=
  Columns.lawful tuple (.more (OrderBy.undoes.option fun _ _ => choice_null) <|
    .more (directionCodec_undoes.option fun _ _ => choice_null) <| .more i64_undoes <|
    .more optional_u64_undoes .none) (by decide)

/-- A request as the tuple of its fields. -/
def Request.tuple : Request ≃ Criteria × Paging × Bool × Option Bool × Unit where
  toFun f := (f.criteria, f.paging, f.count, f.checkPath, ())
  invFun := fun (criteria, paging, count, checkPath, _) => { criteria, paging, count, checkPath }
  left_inv _ := rfl
  right_inv _ := rfl

theorem Request.lawful : Request.record.Lawful Request.fieldSpellings :=
  Columns.lawful tuple (.more Criteria.lawful.undoes <| .more Paging.lawful.undoes <|
    .more bool_undoes <| .more (bool_undoes.option fun _ _ => bool_null) .none) (by decide)

/-- A rule as the pair of its lists. -/
def ItemRule.tuple : ItemRule ≃ List Filter × List Filter × Unit where
  toFun f := (f.positive, f.negative, ())
  invFun := fun (positive, negative, _) => { positive, negative }
  left_inv _ := rfl
  right_inv _ := rfl

theorem ItemRule.lawful : ItemRule.record.Lawful ItemRule.fieldSpellings :=
  Columns.lawful tuple (.more Filter.lawful.undoes.list <|
    .more Filter.lawful.undoes.list .none) (by decide)

/-- Settings for logging as the tuple of their fields. -/
def LoggingSettings.tuple : LoggingSettings ≃ String × Bool × String × Unit where
  toFun f := (f.level, f.toFile, f.directory, ())
  invFun := fun (level, toFile, directory, _) => { level, toFile, directory }
  left_inv _ := rfl
  right_inv _ := rfl

theorem LoggingSettings.lawful : LoggingSettings.record.Lawful LoggingSettings.fieldSpellings :=
  Columns.lawful tuple (.more string_undoes <| .more bool_undoes <|
    .more string_undoes .none) (by decide)

/-- Settings as the tuple of their fields. -/
def Settings.tuple : Settings ≃ UInt64 × UInt64 × Option Binary64 × Bool × LoggingSettings ×
    Unit where
  toFun f := (f.defaultPageSize, f.unboundedPageSize, f.minTagConfidence, f.checkPath, f.logging,
    ())
  invFun := fun (defaultPageSize, unboundedPageSize, minTagConfidence, checkPath, logging, _) =>
    { defaultPageSize, unboundedPageSize, minTagConfidence, checkPath, logging }
  left_inv _ := rfl
  right_inv _ := rfl

theorem Settings.lawful : Settings.record.Lawful Settings.fieldSpellings :=
  Columns.lawful tuple (.more u64_undoes <| .more u64_undoes <| .more optional_f64_undoes <|
    .more bool_undoes <| .more LoggingSettings.lawful.undoes .none) (by decide)

/-- **Every spelling of a request is read as the request**: whatever spells a
request, a part of one, a filter, a rule or settings is decoded to it, from a
text or from a value read before; and the object of all its fields spells a
value whose floats are finite. -/
theorem Request.codecs_roundTrip :
    Request.codec.RoundTrips Request.spelling
      ∧ Criteria.record.codec.RoundTrips Criteria.spelling
      ∧ FilterSet.record.codec.RoundTrips FilterSet.spelling
      ∧ Paging.record.codec.RoundTrips Paging.spelling
      ∧ TagFilter.codec.RoundTrips TagFilter.spelling
      ∧ Filter.codec.RoundTrips Filter.spelling
      ∧ ItemRule.codec.RoundTrips ItemRule.spelling
      ∧ Settings.codec.RoundTrips Settings.spelling :=
  ⟨Request.lawful.undoes.roundTrips (by decide), Criteria.lawful.undoes.roundTrips (by decide),
    FilterSet.lawful.undoes.roundTrips (by decide), Paging.lawful.undoes.roundTrips (by decide),
    TagFilter.lawful.undoes.roundTrips (by decide), Filter.lawful.undoes.roundTrips (by decide),
    ItemRule.lawful.undoes.roundTrips (by decide), Settings.lawful.undoes.roundTrips (by decide)⟩

-- an array of objects and arrays, with an unknown member and without most defaults
example :
    Request.codec.decode (.text 0)
      (.array
        [.array
          [.object [(.name "unknown", .null), (.name "pos_match_any", .array [.text "cat"])],
            .object [(.name "files", .array [.array [], .array [], .int 5])]],
          .object [(.name "page", .int 2)]])
      = .ok
        { criteria :=
            { tags := { requireAny := ["cat"] }
              filters := { files := some { minSize := some 5 } } }
          paging := { page := 2 } } :=
  rfl

end MediaSearch
