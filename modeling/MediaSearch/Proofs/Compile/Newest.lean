/-
MediaSearch/Proofs/Compile/Newest.lean

Results in the order of their times.

A search that is ordered by the time of modification sorts the texts in
which the library keeps these times, while its results have the instants
that the texts stand for.  Each row of the fetch statement shows a file of
the library (`Chain.mem_rows_body`), so its results are those of files in
the order of their texts.  They are in the order of their instants exactly
if no two texts on the page are in another order than their instants; texts
that are spelled alike never are, but an offset can put a later text before
a later instant (`Settings.abroad`).

Main result: `Settings.compile_newest`.
-/
import Mathlib.Data.List.Pairwise
import MediaSearch.Proofs.Compile.Body
import MediaSearch.Proofs.Compile.Ordered
import MediaSearch.Proofs.Compile.Total
import MediaSearch.Proofs.Instant.Reading
import MediaSearch.Proofs.Search.Stream
import MediaSearch.Proofs.Sql.Sorting

namespace MediaSearch

open Sql

/-! ### Rows of the body -/

/-- The row of a body that shows a file and its item. -/
structure ShowsFile (row : Scope × List Value) (file : Library.File) (item : Library.Item) :
    Prop where
  cells : ∃ ranks, row.2 = [.text file.path, .text item.sha256, .text file.lastModified,
    Library.optional .text item.mimeType] ++ ranks
  modified : row.1.value (.of "files" "last_modified") = .text file.lastModified

namespace Chain

variable {engine : Engine} {lib : Library}

/-- The tables of a library can be seen after all stages of a chain. -/
theorem shows_tables_build (tags : Option Query) (kept excluded : List Filter) :
    lib.Shows ((build tags kept excluded).tables engine lib) := by
  intro entry present
  have table : entry.1 ∈ Library.tableNames :=
    lib.map_fst_tables ▸ List.mem_map_of_mem present
  rw [tables, relation_stageTables (table_notMem_stages tags kept excluded table)]
  exact lib.shows_tables entry present

/-- The rows that a body joins. -/
def joined (chain : Chain) (engine : Engine) (lib : Library) : List Scope :=
  chain.clauses.joins.foldl (joinRows engine (chain.tables engine lib))
    (((chain.tables engine lib).relation chain.result).scopes "result")

/-- A row of the query for each joined row, with the values of its columns. -/
theorem rows_body_eq (chain : Chain) :
    chain.body.rows engine lib.tables = (chain.joined engine lib).map fun scope =>
      (scope, chain.clauses.columns.map fun c => c.expr.value engine [scope]) :=
  rows_select_joins chain.single_body id (List.map_id _).symm

/-- A joined row has the cells of a file and of an item behind those of the
last stage, whatever else is joined. -/
theorem mem_joined {chain : Chain} (shown : lib.Shows (chain.tables engine lib)) {scope : Scope}
    (present : scope ∈ chain.joined engine lib) :
    ∃ own, ∃ file ∈ lib.files, ∃ item ∈ lib.items, ∃ rest, scope
      = ("result", own)
        :: ("files", ["id", "item_id", "path", "last_modified", "available"].zip file.row)
        :: ("items", ["id", "sha256", "mime_type", "size"].zip item.row) :: rest := by
  unfold joined clauses at present
  -- ranks are joined last, so every row starts with what is joined before them
  rw [List.foldl_append] at present
  obtain ⟨base, first, rest, rfl⟩ := Filter.Parts.mem_foldl_joinRows present
  simp only [List.foldl_cons, List.foldl_nil, joinRows, Option.getD_none, shown.files, shown.items,
    Relation.scopes, List.map_map, List.mem_flatMap, List.mem_filter, List.mem_map] at first
  obtain ⟨_, ⟨_, ⟨row, -, rfl⟩, ⟨file, known, rfl⟩, -⟩, ⟨item, known', rfl⟩, -⟩ := first
  exact ⟨_, file, known, item, known', rest, rfl⟩

/-- Every row of a body shows a file of the library. -/
theorem mem_rows_body {chain : Chain} (shown : lib.Shows (chain.tables engine lib))
    {row : Scope × List Value} (present : row ∈ chain.body.rows engine lib.tables) :
    ∃ file ∈ lib.files, ∃ item ∈ lib.items, ShowsFile row file item := by
  rw [rows_body_eq] at present
  obtain ⟨scope, among, rfl⟩ := List.mem_map.mp present
  obtain ⟨own, file, known, item, known', rest, rfl⟩ := mem_joined shown among
  refine ⟨file, known, item, known', ?_, ?_⟩
  · rw [clauses, List.map_append]
    refine ⟨_, congrArg (· ++ _) ?_⟩
    simp [resultColumns, Expr.value, Library.File.row, Library.Item.row]
  · simp [Library.File.row]

/-- The columns of results, whichever ranks come after them. -/
theorem columns_body (chain : Chain) (engine : Engine) : ∃ ranks, chain.body.columns engine
    = ["path", "sha256", "last_modified", "mime_type"] ++ ranks := by
  rw [body_eq, Query.columns, Query.columns]
  exact ⟨_, rfl⟩

end Chain

/-! ### Results of a page -/

/-- A row is that of a file whose time is kept as a text, and is decoded to a
result: what the text says is paired with what the result has. -/
structure Library.ListedAs (lib : Library) (row : Row) (listed : String × FileResult) : Prop where
  stored : ∃ file ∈ lib.files, file.path = listed.2.path ∧ file.lastModified = listed.1
  text : row.text? "last_modified" = some listed.1
  decoded : FileResult.ofRow row = .ok listed.2

/-- The instant of a result is that of the text. -/
theorem Library.ListedAs.parse {lib : Library} {row : Row} {listed : String × FileResult}
    (is : lib.ListedAs row listed) : Instant.parse listed.1 = .ok listed.2.lastModified := by
  obtain ⟨text, cell, parsed⟩ := (Row.ofRow_eq_ok_iff.mp is.decoded).modified
  obtain rfl := Option.some.inj (cell.symm.trans is.text)
  exact parsed

/-- A row that shows a file is listed as the result that it is read as. -/
theorem exists_listedAs {lib : Library} {row : Scope × List Value} {file : Library.File}
    {item : Library.Item} {columns ranks : List String} {i : Instant}
    (shows' : ShowsFile row file item) (known : file ∈ lib.files)
    (names : columns = ["path", "sha256", "last_modified", "mime_type"] ++ ranks)
    (parsed : Instant.parse file.lastModified = .ok i) :
    lib.ListedAs (columns.zip row.2)
      (file.lastModified, ⟨file.path, item.sha256, i, item.mimeType⟩) := by
  obtain ⟨rest, cells⟩ := shows'.cells
  have row : columns.zip row.2 = [("path", .text file.path), ("sha256", .text item.sha256),
      ("last_modified", .text file.lastModified),
      ("mime_type", Library.optional .text item.mimeType)] ++ ranks.zip rest := by
    rw [names, cells]
    rfl
  rw [row]
  refine ⟨⟨file, known, rfl, rfl⟩, rfl, Row.ofRow_of_holds ⟨⟨_, rfl, parsed⟩, rfl, rfl, ?_⟩⟩
  cases item.mimeType <;> rfl

/-! ### Texts and instants of a page -/

/-- Whether no text of a page stands for a later instant than a greater one. -/
def TimesAgree (page : List (String × FileResult)) : Prop :=
  ∀ p ∈ page, ∀ q ∈ page, p.1 < q.1 → p.2.lastModified ≤ q.2.lastModified

section Page

variable {page : List (String × FileResult)} {direction : SortDirection}

/-- **A page that is sorted by its texts is sorted by its instants if and only
if the two orders agree on it**, in either direction. -/
theorem pairwise_lastModified_iff (parsed : ∀ p ∈ page, Instant.parse p.1 = .ok p.2.lastModified)
    (texts : (page.map (·.1)).Pairwise direction.Before) :
    (page.map (·.2.lastModified)).Pairwise direction.Before ↔ TimesAgree page := by
  rw [List.pairwise_map] at texts ⊢
  constructor
  · intro instants
    -- what holds of two results in one order or the other holds of any two
    let agree (p q : String × FileResult) : Prop :=
      (p.1 < q.1 → p.2.lastModified ≤ q.2.lastModified)
        ∧ (q.1 < p.1 → q.2.lastModified ≤ p.2.lastModified)
    have pairs : page.Pairwise agree := by
      refine (texts.and instants).imp fun {p q} ⟨text, instant⟩ => ?_
      cases direction with
      | ascending => exact ⟨fun _ => instant, fun after => absurd after (not_lt_of_ge text)⟩
      | descending => exact ⟨fun before => absurd before (not_lt_of_ge text), fun _ => instant⟩
    have symmetric : Std.Symm agree := ⟨fun _ _ both => ⟨both.2, both.1⟩⟩
    have own : ∀ p ∈ page, agree p p := fun p _ => ⟨fun _ => le_refl _, fun _ => le_refl _⟩
    intro p present q present' before
    exact (pairs.forall_of_forall own present present').1 before
  · intro agree
    refine texts.imp_of_mem fun {p q} present present' text => ?_
    have step {p q : String × FileResult} (present : p ∈ page) (present' : q ∈ page)
        (before : p.1 ≤ q.1) : p.2.lastModified ≤ q.2.lastModified := by
      rcases lt_or_eq_of_le before with before | same
      · exact agree p present q present' before
      · have instants := (parsed p present).symm.trans (same ▸ parsed q present')
        exact le_of_eq (Except.ok.inj instants)
    cases direction with
    | ascending => exact step present present' text
    | descending => exact step present' present text

/-- A text of a page is there with the instant that it stands for. -/
theorem exists_shown (parsed : ∀ p ∈ page, Instant.parse p.1 = .ok p.2.lastModified)
    {text : String} {i : Instant} (shown : some text ∈ page.map fun p => some p.1)
    (reads : Instant.parse text = .ok i) :
    ∃ p ∈ page, p.1 = text ∧ p.2.lastModified = i := by
  obtain ⟨p, present, same⟩ := List.mem_map.mp shown
  obtain rfl := Option.some.inj same
  exact ⟨p, present, rfl, Except.ok.inj ((parsed p present).symm.trans reads)⟩

/-- Where all times are spelled alike, texts are in the order of instants. -/
theorem timesAgree_of_spelledAlike
    (parsed : ∀ p ∈ page, Instant.parse p.1 = .ok p.2.lastModified)
    (alike : ∀ p ∈ page, ∀ q ∈ page, Instant.SpelledAlike p.1 q.1) : TimesAgree page := by
  intro p present q present' before
  exact Instant.parse_le_of_le (parsed p present) (parsed q present') (alike p present q present')
    (le_of_lt before)

end Page

/-! ### Pages of a search -/

theorem exists_forall₂ {α β : Type} {R : α → β → Prop} {as : List α}
    (all : ∀ a ∈ as, ∃ b, R a b) : ∃ bs, List.Forall₂ R as bs := by
  induction as with
  | nil => exact ⟨[], .nil⟩
  | cons a as ih =>
    obtain ⟨b, first⟩ := all a List.mem_cons_self
    obtain ⟨bs, rest⟩ := ih fun c present => all c (List.mem_cons_of_mem a present)
    exact ⟨b :: bs, .cons first rest⟩

theorem exists_partner {α β : Type} {R : α → β → Prop} {as : List α} {bs : List β}
    (partners : List.Forall₂ R as bs) {b : β} (present : b ∈ bs) : ∃ a ∈ as, R a b := by
  induction partners with
  | nil => cases present
  | @cons a c as bs first rest ih =>
    rcases List.mem_cons.mp present with rfl | later
    · exact ⟨a, List.mem_cons_self, first⟩
    · obtain ⟨d, among, related⟩ := ih later
      exact ⟨d, List.mem_cons_of_mem a among, related⟩

/-- The times of a page are what its texts stand for. -/
theorem Library.ListedAs.parse_page {lib : Library} {rows : List Row}
    {page : List (String × FileResult)} (listed : List.Forall₂ lib.ListedAs rows page) :
    ∀ p ∈ page, Instant.parse p.1 = .ok p.2.lastModified := by
  intro p present
  obtain ⟨row, -, is⟩ := exists_partner listed present
  exact is.parse

/-- What holds of any two in one list holds of their partners in another. -/
theorem pairwise_of_forall₂ {α β : Type} {R : α → β → Prop} {S : α → α → Prop} {T : β → β → Prop}
    (step : ∀ {a b c d}, R a c → R b d → S a b → T c d) {as : List α} {bs : List β}
    (partners : List.Forall₂ R as bs) (pairs : as.Pairwise S) : bs.Pairwise T := by
  induction partners with
  | nil => exact .nil
  | cons first rest ih =>
    rw [List.pairwise_cons] at pairs ⊢
    refine ⟨fun d present => ?_, ih pairs.2⟩
    obtain ⟨c, among, other⟩ := exists_partner rest present
    exact step first other (pairs.1 c among)

namespace Chain

variable {engine : Engine} {lib : Library}

/-- By the time of modification a row is sorted as the text of its file. -/
theorem sortKey_modified {row : Scope × List Value} {file : Library.File} {item : Library.Item}
    (shows' : ShowsFile row file item) (columns : List String) :
    sortKey engine columns (.ref (.of "files" "last_modified")) row = .text file.lastModified := by
  have value : Scope.value (("", columns.zip row.2) :: row.1) (.of "files" "last_modified")
      = .text file.lastModified := by
    rw [← shows'.modified]
    simp
  exact congrArg Value.key value

/-- The rows of a page that is sorted by the time of modification are files in
the order of the texts of these times. -/
theorem exists_page {chain : Chain} (shown : lib.Shows (chain.tables engine lib))
    (accepted : ∀ file ∈ lib.files, ∃ i, Instant.parse file.lastModified = .ok i)
    (direction : SortDirection) (rest : List (Expr × SortDirection)) (limit offset : Int64) :
    let order := (.ref (.of "files" "last_modified"), direction) :: rest
    let relation := (chain.body.page order limit offset).relation engine lib.tables
    ∃ page, List.Forall₂ lib.ListedAs (relation.rows.map relation.columns.zip) page
      ∧ (page.map (·.1)).Pairwise direction.Before := by
  intro order relation
  obtain ⟨ranks, names⟩ := chain.columns_body engine
  -- each row has the file that it shows, and is sorted by the text of this file
  let lists (row : Scope × List Value) (listed : String × FileResult) : Prop :=
    lib.ListedAs ((chain.body.columns engine).zip row.2) listed
      ∧ sortKey engine (chain.body.columns engine) (.ref (.of "files" "last_modified")) row
        = .text listed.1
  have all : ∀ row ∈ (chain.body.page order limit offset).rows engine lib.tables,
      ∃ listed, lists row listed := by
    intro row present
    obtain ⟨file, known, item, -, shows'⟩ :=
      mem_rows_body shown (rows_page_subset engine lib.tables _ _ _ _ present)
    obtain ⟨i, parsed⟩ := accepted file known
    exact ⟨_, exists_listedAs shows' known names parsed, sortKey_modified shows' _⟩
  obtain ⟨page, partners⟩ := exists_forall₂ all
  refine ⟨page, ?_, ?_⟩
  · show List.Forall₂ _ (List.map _ (List.map _ _)) page
    rw [List.forall₂_map_left_iff, List.forall₂_map_left_iff]
    exact partners.imp fun _ _ both => both.1
  · rw [List.pairwise_map]
    refine pairwise_of_forall₂ (fun {a b p q} left right before => ?_) partners
      (pairwise_rows_page engine lib.tables chain.body order limit offset)
    have first := isLE_of_sortsBefore before
    rw [left.2, right.2] at first
    exact SortDirection.before_of_compare first

end Chain

namespace Settings

/-- **The results of a search that is ordered by the time of modification are
in the order of the texts of these times**, in its direction, if all of them
can be read.  They are in the order of the instants if and only if the two
orders agree on the page; and so they are if the texts of the library are
spelled alike. -/
theorem compile_newest (settings : Settings) (request : Request) (engine : Engine)
    (lib : Library)
    (accepted : ∀ file ∈ lib.files, ∃ i, Instant.parse file.lastModified = .ok i) :
    ∃ compiled, settings.compile request = .ok compiled
      ∧ (compiled.order.orderBy = .lastModified →
        let relation := compiled.fetch.relation engine lib.tables
        let direction := compiled.order.direction
        ∃ page : List (String × FileResult),
          List.Forall₂ lib.ListedAs (relation.rows.map relation.columns.zip) page
          ∧ (page.map (·.1)).Pairwise direction.Before
          ∧ ((page.map (·.2.lastModified)).Pairwise direction.Before ↔ TimesAgree page)
          ∧ ((∀ f ∈ lib.files, ∀ g ∈ lib.files,
              Instant.SpelledAlike f.lastModified g.lastModified) →
            (page.map (·.2.lastModified)).Pairwise direction.Before)) := by
  refine ⟨_, settings.compile_eq_ok request, fun resolved => ?_⟩
  intro relation direction
  have fetch : (settings.statements request).fetch
      = .page (settings.chain request.criteria).body
        ((.ref (settings.statements request).order.orderBy.target, direction)
          :: [(.ref (.of "result" "file_id"), .ascending)])
        (settings.statements request).limit (settings.statements request).offset := rfl
  rw [resolved] at fetch
  -- the page as the rows have it, sorted by the texts of times
  have exists' : ∃ page, List.Forall₂ lib.ListedAs (relation.rows.map relation.columns.zip) page
      ∧ (page.map (·.1)).Pairwise direction.Before := by
    show ∃ page, List.Forall₂ _ (List.map
      ((settings.statements request).fetch.relation engine lib.tables).columns.zip
      ((settings.statements request).fetch.relation engine lib.tables).rows) page ∧ _
    rw [fetch]
    exact Chain.exists_page (Chain.shows_tables_build _ _ _) accepted direction _ _ _
  obtain ⟨page, listed, texts⟩ := exists'
  have parsed := Library.ListedAs.parse_page listed
  have agree := pairwise_lastModified_iff parsed texts
  refine ⟨page, listed, texts, agree, fun alike => agree.mpr ?_⟩
  -- what is shown is stored, and what is stored is spelled alike
  refine timesAgree_of_spelledAlike parsed fun p present q present' => ?_
  obtain ⟨row, -, is⟩ := exists_partner listed present
  obtain ⟨row', -, is'⟩ := exists_partner listed present'
  obtain ⟨f, known, -, text⟩ := is.stored
  obtain ⟨g, known', -, text'⟩ := is'.stored
  rw [← text, ← text']
  exact alike f known g known'

/-- Two files whose times are spelled alike, the second of which has the later
time. -/
def inUtc : Library :=
  { Library.copies with
    files := [⟨1, 1, "/first.png", "2024-01-05T08:00:00.125Z", 1⟩,
      ⟨2, 1, "/second.png", "2024-01-05T08:00:00.250Z", 1⟩]
    nodup_files := by decide }

/-- Two files whose times have different offsets: the second was modified an
hour before the first, but the text of its time is the greater one. -/
def abroad : Library :=
  { Library.copies with
    files := [⟨1, 1, "/first.png", "2024-01-05T08:00:00Z", 1⟩,
      ⟨2, 1, "/second.png", "2024-01-05T12:00:00+05:00", 1⟩]
    nodup_files := by decide }

theorem order_empty : (Settings.statements {} {}).order = ⟨.lastModified, .descending⟩ := by
  decide

/-- The times of the rows of an ordinary search, in the order of the library. -/
def texts (lib : Library) : List (Option String) :=
  ((Settings.chain {} {}).body.rows .idle lib.tables).map fun row =>
    Row.text? (((Settings.chain {} {}).body.columns .idle).zip row.2) "last_modified"

/-- A small library is shown on a single page. -/
theorem texts_perm {lib : Library} (few : (texts lib).length ≤ 10)
    {page : List (String × FileResult)}
    (listed : List.Forall₂ lib.ListedAs
      (((Settings.statements {} {}).fetch.relation .idle lib.tables).rows.map
        ((Settings.statements {} {}).fetch.relation .idle lib.tables).columns.zip) page) :
    (texts lib).Perm (page.map fun p => some p.1) := by
  -- a page of ten has all rows if there are no more
  have rows : ((Settings.statements {} {}).fetch.rows .idle lib.tables).Perm
      ((Settings.chain {} {}).body.rows .idle lib.tables) :=
    rows_page_perm .idle lib.tables _ _ 10 (by simpa [texts] using few) (by decide)
  have shown : List.Forall₂ (· = ·)
      (((Settings.statements {} {}).fetch.rows .idle lib.tables).map fun row =>
        Row.text? (((Settings.chain {} {}).body.columns .idle).zip row.2) "last_modified")
      (page.map fun p => some p.1) := by
    simp only [Query.relation, List.forall₂_map_left_iff, List.forall₂_map_right_iff] at listed ⊢
    exact listed.imp fun _ _ is => is.text
  rw [List.forall₂_eq_eq_eq] at shown
  rw [← shown]
  exact (rows.map _).symm

/-- Where the texts are spelled alike the newest file comes first. -/
theorem compile_newest_inUtc :
    ∃ compiled, Settings.compile {} {} = .ok compiled
      ∧ ∃ page : List (String × FileResult), page.length = 2
        ∧ List.Forall₂ inUtc.ListedAs ((compiled.fetch.relation .idle inUtc.tables).rows.map
          (compiled.fetch.relation .idle inUtc.tables).columns.zip) page
        ∧ (page.map (·.2.lastModified)).Pairwise (· ≥ ·) := by
  have accepted : ∀ file ∈ inUtc.files, ∃ i, Instant.parse file.lastModified = .ok i := by
    intro file present
    rcases List.mem_cons.mp present with rfl | present
    · exact ⟨⟨⟨2024, 1, 5⟩, 480, 0, 125000000⟩, by decide⟩
    · obtain rfl := List.mem_singleton.mp present
      exact ⟨⟨⟨2024, 1, 5⟩, 480, 0, 250000000⟩, by decide⟩
  have alike : ∀ f ∈ inUtc.files, ∀ g ∈ inUtc.files,
      Instant.SpelledAlike f.lastModified g.lastModified := by decide
  obtain ⟨compiled, ok, newest⟩ := compile_newest {} {} .idle inUtc accepted
  obtain rfl := Except.ok.inj (ok.symm.trans (Settings.compile_eq_ok {} {}))
  have order := order_empty
  obtain ⟨page, listed, -, -, sorted⟩ := newest (congrArg ResolvedOrder.orderBy order)
  rw [order] at sorted
  refine ⟨_, ok, page, ?_, listed, sorted alike⟩
  have two : (texts inUtc).length = 2 := by decide +kernel
  have shown := (texts_perm (by omega) listed).length_eq
  rw [two, List.length_map] at shown
  exact shown.symm

/-- Where they are not, the files of an ordinary search are not in the order of
their times, although all of these can be read. -/
theorem compile_newest_abroad :
    (∀ file ∈ abroad.files, ∃ i, Instant.parse file.lastModified = .ok i)
      ∧ ∃ compiled, Settings.compile {} {} = .ok compiled
        ∧ compiled.order = ⟨.lastModified, .descending⟩
        ∧ ∃ page : List (String × FileResult),
          List.Forall₂ abroad.ListedAs ((compiled.fetch.relation .idle abroad.tables).rows.map
            (compiled.fetch.relation .idle abroad.tables).columns.zip) page
          ∧ ¬(page.map (·.2.lastModified)).Pairwise (· ≥ ·) := by
  have early : Instant.parse "2024-01-05T12:00:00+05:00" = .ok ⟨⟨2024, 1, 5⟩, 420, 0, 0⟩ := by
    decide
  have late : Instant.parse "2024-01-05T08:00:00Z" = .ok ⟨⟨2024, 1, 5⟩, 480, 0, 0⟩ := by decide
  have accepted : ∀ file ∈ abroad.files, ∃ i, Instant.parse file.lastModified = .ok i := by
    intro file present
    rcases List.mem_cons.mp present with rfl | present
    · exact ⟨_, late⟩
    · obtain rfl := List.mem_singleton.mp present
      exact ⟨_, early⟩
  refine ⟨accepted, _, Settings.compile_eq_ok {} {}, order_empty, ?_⟩
  obtain ⟨page, listed, ordered⟩ := Chain.exists_page
    (Chain.shows_tables_build _ _ _) accepted .descending
    [(.ref (.of "result" "file_id"), .ascending)] 10 0
  refine ⟨page, listed, fun sorted => ?_⟩
  have both : texts abroad
      = [some "2024-01-05T08:00:00Z", some "2024-01-05T12:00:00+05:00"] := by decide +kernel
  have shown := texts_perm (by rw [both]; decide) listed
  rw [both] at shown
  have parsed := Library.ListedAs.parse_page listed
  have agree := (pairwise_lastModified_iff parsed ordered).mp sorted
  obtain ⟨p, present, text, instant⟩ := exists_shown parsed (shown.mem_iff.mp (by simp)) late
  obtain ⟨q, present', text', instant'⟩ := exists_shown parsed (shown.mem_iff.mp (by simp)) early
  -- the later instant has the smaller text, so it comes second
  have later := agree p present q present'
  rw [text, text', instant, instant'] at later
  exact absurd (later (by decide)) (by decide)

end Settings

end MediaSearch
