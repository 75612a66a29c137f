/-
MediaSearch/Proofs/Filter/Meaning.lean

What each filter matches, and which rank it gives.

What a filter matches is said of a file, its item and the rows of the library
that belong to them, without any query: `Accepts` asks for a row, or for two
that belong together, and `rankValues` is made of all such rows.  Nothing
else is looked at, neither other files nor the filters before.
-/
import MediaSearch.Proofs.Library.Restriction

namespace MediaSearch

open Sql

/-! ### Full-text entries -/

namespace Library

/-- The rank of the entry of a file in the index of paths, if the expression
matches it. -/
def pathRank? (lib : Library) (engine : Engine) (column : Option String) (expression : String)
    (file : Int64) : Option Value :=
  (lib.pathEntries.find? (·.rowid = file)).bind fun entry =>
    engine.fullText "files_path_fts" column expression entry.cells

/-- Whether the expression matches the entry of a text. -/
def TextMatches (lib : Library) (engine : Engine) (expression : String) (text : ExtractedText) :
    Prop :=
  ∃ entry ∈ lib.textEntries, entry.rowid = text.id
    ∧ (engine.fullText "extracted_text_fts" none expression entry.cells).isSome = true

/-- The ranks of those of some texts that the expression matches. -/
def textRanks (lib : Library) (engine : Engine) (expression : String)
    (among : ExtractedText → Prop) [DecidablePred among] : List Value :=
  (pairsWith (fun text entry => among text ∧ entry.rowid = text.id) lib.texts
    lib.textEntries).filterMap fun pair =>
      engine.fullText "extracted_text_fts" none expression pair.2.cells

/-- There is a rank if there is a text to rank. -/
theorem textRanks_ne_nil_iff {lib : Library} {engine : Engine} {expression : String}
    {among : ExtractedText → Prop} [DecidablePred among] :
    lib.textRanks engine expression among ≠ []
      ↔ ∃ text ∈ lib.texts, among text ∧ lib.TextMatches engine expression text := by
  constructor
  · intro some
    obtain ⟨rank, member⟩ := List.exists_mem_of_ne_nil _ some
    -- a rank belongs to a text and to its entry in the index
    obtain ⟨⟨text, entry⟩, pair, found⟩ := List.mem_filterMap.mp member
    obtain ⟨textThere, entryThere, together⟩ := mem_pairsWith.mp pair
    obtain ⟨meets, key⟩ := of_decide_eq_true together
    exact ⟨text, textThere, meets, entry, entryThere, key, Option.isSome_of_eq_some found⟩
  · rintro ⟨text, textThere, meets, entry, entryThere, key, found⟩
    obtain ⟨rank, ranked⟩ := Option.isSome_iff_exists.mp found
    have pair : (text, entry) ∈ pairsWith
        (fun (text : ExtractedText) (entry : TextEntry) => among text ∧ entry.rowid = text.id)
        lib.texts lib.textEntries :=
      mem_pairsWith.mpr ⟨textThere, entryThere, decide_eq_true ⟨meets, key⟩⟩
    exact List.ne_nil_of_mem (List.mem_filterMap.mpr ⟨(text, entry), pair, ranked⟩)

end Library

/-! ### What filters match -/

/-- Whether a filter allows a file with its item. -/
def FileFilter.Allows (f : FileFilter) (file : Library.File) (item : Library.Item) : Prop :=
  Library.StartsWithOneOf (Text.nonBlank f.mimeTypes) item.mimeType
    ∧ Library.StartsWithOneOf (Text.nonBlank f.pathPrefixes) (some file.path)
    ∧ Library.SizeAtLeast f.minSize item.size
    ∧ Library.SizeAtMost f.maxSize item.size
    ∧ (f.availableOnly = true → file.available = 1)

/-- Whether a filter looks at a text of an item. -/
def ExtractedTextFilter.LooksAt (f : ExtractedTextFilter) (lib : Library) (item : Int64)
    (text : Library.ExtractedText) : Prop :=
  text.itemId = item
    ∧ lib.TextMeets f.setters f.languages f.minConfidence f.minLanguageConfidence text

/-- Whether a filter compares an embedding of an item that was made of a
text. -/
def TextEmbeddingFilter.Compares (f : TextEmbeddingFilter) (lib : Library) (item : Int64)
    (embedding : Library.Embedding) (text : Library.ExtractedText) : Prop :=
  embedding.itemId = item
    ∧ embedding.textId = some text.id
    ∧ lib.SetBy (Text.trim f.model) embedding.setterId
    ∧ lib.TextMeets f.sourceSetters f.sourceLanguages f.sourceMinConfidence none text

/-- Whether a filter compares an embedding of an item. -/
def ImageEmbeddingFilter.Compares (f : ImageEmbeddingFilter) (lib : Library) (item : Int64)
    (embedding : Library.Embedding) : Prop :=
  embedding.itemId = item
    ∧ embedding.textId = none
    ∧ lib.SetBy (Text.trim f.model) embedding.setterId

/-- The item that a filter is given the hash of. -/
def SimilarityFilter.target? (f : SimilarityFilter) (lib : Library) : Option Library.Item :=
  lib.items.find? (·.sha256 = Text.lower (Text.trim f.target))

/-- Whether a filter compares an embedding of an item with one of the item it
is given the hash of. -/
def SimilarityFilter.Compares (f : SimilarityFilter) (lib : Library) (item : Int64)
    (candidate target : Library.Embedding) : Prop :=
  candidate.itemId = item
    ∧ target.setterId = candidate.setterId
    ∧ lib.SetBy (Text.trim f.model) candidate.setterId
    ∧ item ≠ target.itemId
    ∧ ∃ other ∈ f.target? lib, target.itemId = other.id

/-- Whether a bookmark of an item counts. -/
def BookmarkFilter.Counts (f : BookmarkFilter) (item : Int64) (bookmark : Library.Bookmark) :
    Prop :=
  bookmark.itemId = item
    ∧ (bookmark.user = Text.trim f.user
      ∨ f.includeWildcard = true ∧ bookmark.user = Filter.wildcardUser)
    ∧ Library.IsOneOf (Text.nonBlank f.namespaces) (some bookmark.space)

/-- Whether a filter looks at a text of an item. -/
def AnyTextFilter.LooksAt (f : AnyTextFilter) (lib : Library) (item : Int64)
    (text : Library.ExtractedText) : Prop :=
  text.itemId = item ∧ lib.SetByOneOf (Text.nonBlank f.textSetters) text.setterId

instance (f : ExtractedTextFilter) (lib : Library) (item : Int64) :
    DecidablePred (f.LooksAt lib item) :=
  fun _ => inferInstanceAs (Decidable (_ ∧ _))

instance (f : AnyTextFilter) (lib : Library) (item : Int64) :
    DecidablePred (f.LooksAt lib item) :=
  fun _ => inferInstanceAs (Decidable (_ ∧ _))

instance (f : TextEmbeddingFilter) (lib : Library) (item : Int64) :
    DecidableRel (f.Compares lib item) :=
  fun _ _ => inferInstanceAs (Decidable (_ ∧ _ ∧ _ ∧ _))

instance (f : ImageEmbeddingFilter) (lib : Library) (item : Int64) :
    DecidablePred (f.Compares lib item) :=
  fun _ => inferInstanceAs (Decidable (_ ∧ _ ∧ _))

instance (f : SimilarityFilter) (lib : Library) (item : Int64) :
    DecidableRel (f.Compares lib item) :=
  fun _ _ => inferInstanceAs (Decidable (_ ∧ _ ∧ _ ∧ _ ∧ ∃ other ∈ f.target? lib, _))

instance (f : BookmarkFilter) (item : Int64) : DecidablePred (f.Counts item) :=
  fun _ => inferInstanceAs (Decidable (_ ∧ (_ ∨ _ ∧ _) ∧ _))

namespace Filter

/-- The function that a distance is measured with. -/
def distanceName : DistanceFunction → String
  | .l2 => "vec_distance_l2"
  | .cosine => "vec_distance_cosine"

/-- The aggregate that makes one distance of those of the embeddings of an item. -/
def distanceAggregate : DistanceAggregation → Aggregate
  | .min => .min
  | .max => .max
  | .avg => .avg

/-- Whether a filter matches a file with its item. -/
def Accepts (engine : Engine) (lib : Library) (ids : Int64 × Int64) : Filter → Prop
  | files f => ∃ file ∈ lib.files, ∃ item ∈ lib.items,
      file.id = ids.1 ∧ item.id = ids.2 ∧ f.Allows file item
  | pathText f =>
    (lib.pathRank? engine (if f.filenameOnly then some "filename" else none) f.expression
      ids.1).isSome = true
  | extractedText f => ∃ text ∈ lib.texts,
      f.LooksAt lib ids.2 text ∧ lib.TextMatches engine f.expression text
  | extractedTextEmbeddings f => ∃ embedding ∈ lib.embeddings, ∃ text ∈ lib.texts,
      f.Compares lib ids.2 embedding text
  | imageEmbeddings f => ∃ embedding ∈ lib.embeddings, f.Compares lib ids.2 embedding
  | itemSimilarity f => ∃ candidate ∈ lib.embeddings, ∃ target ∈ lib.embeddings,
      f.Compares lib ids.2 candidate target
  | bookmarks f => ∃ bookmark ∈ lib.bookmarks, f.Counts ids.2 bookmark
  | anyText f =>
    (f.includePath = true ∧ (lib.pathRank? engine none f.expression ids.1).isSome = true)
      ∨ f.includeExtractedText = true ∧ ∃ text ∈ lib.texts,
        f.LooksAt lib ids.2 text ∧ lib.TextMatches engine f.expression text

/-- The rank that a filter gives a file with its item, if it matches and
gives one at all. -/
def rankValues (engine : Engine) (lib : Library) (ids : Int64 × Int64) : Filter → List Value
  | files _ => []
  | pathText f =>
    (lib.pathRank? engine (if f.filenameOnly then some "filename" else none) f.expression
      ids.1).toList
  | extractedText f =>
    [engine.aggregate .min (lib.textRanks engine f.expression (f.LooksAt lib ids.2))]
  | extractedTextEmbeddings f =>
    [engine.aggregate (distanceAggregate f.aggregation)
      ((pairsWith (fun embedding text => f.Compares lib ids.2 embedding text) lib.embeddings
        lib.texts).map fun pair =>
          engine.apply (distanceName f.function) (.blob pair.1.embedding)
            (.blob (vectorBytes f.embedding)))]
  | imageEmbeddings f =>
    [engine.aggregate (distanceAggregate f.aggregation)
      ((lib.embeddings.filter fun embedding => f.Compares lib ids.2 embedding).map
        fun embedding => engine.apply (distanceName f.function) (.blob embedding.embedding)
          (.blob (vectorBytes f.embedding)))]
  | itemSimilarity f =>
    [engine.aggregate (distanceAggregate f.aggregation)
      ((pairsWith (fun candidate target => f.Compares lib ids.2 candidate target)
        lib.embeddings lib.embeddings).map fun pair =>
          engine.apply (distanceName f.function) (.blob pair.1.embedding)
            (.blob pair.2.embedding))]
  | bookmarks f =>
    [engine.aggregate .max ((lib.bookmarks.filter fun bookmark => f.Counts ids.2 bookmark).map
      fun bookmark => .text bookmark.timeAdded)]
  | anyText f =>
    [engine.aggregate .min
      ((if f.includePath then (lib.pathRank? engine none f.expression ids.1).toList else [])
        ++ if f.includeExtractedText then
            lib.textRanks engine f.expression (f.LooksAt lib ids.2)
          else [])]

end Filter

end MediaSearch
