/-
MediaSearch/Proofs/Search/Stream.lean

The events of a search.

What a row of an answer amounts to is said by two predicates on its cells:
it holds a file (`Row.Holds`), or it lacks something, and then the failure is
that of the first thing it lacks (`Row.Lacks`).  `Results.Gives` says from
these alone which events an answer of the store amounts to: those of the
files up to the first row that breaks the stream.

One step looks at one row (`Results.next_dropped`, `Results.next_found`,
`Results.next_breaks`), and a run of polls follows by induction on the rows.
After the events of the answer every poll gives the end, so that the events
of `n` polls are `events.takeD n .done`.

Main result: `Search.session_events`.
-/
import Mathlib.Data.List.Forall2
import Mathlib.Data.List.TakeDrop
import MediaSearch.Proofs.Search.Statements

namespace MediaSearch

open Sql

/-! ### Rows -/

/-- The failure of a cell that should hold a text. -/
def missingText (column : String) : Failure :=
  .decode column (StoreError.nullValue column).message

/-- The failure of a text that is no instant. -/
def noInstant (column text : String) (fault : InstantFault) : Failure :=
  .decode column (fault.message ++ " in '" ++ text ++ "'")

namespace Row

/-- The cells of a row say this of a file. -/
structure Holds (row : Row) (file : FileResult) : Prop where
  modified : ∃ text, row.text? "last_modified" = some text
    ∧ Instant.parse text = .ok file.lastModified
  path : row.text? "path" = some file.path
  sha256 : row.text? "sha256" = some file.sha256
  mimeType : row.text? "mime_type" = file.mimeType

/-- What a row lacks first of what a file needs.  That the time of
modification can be read counts last. -/
inductive Lacks (row : Row) : Failure → Prop where
  | modified (missing : row.text? "last_modified" = none) : Lacks row (missingText "last_modified")
  | path {time : String} (modified : row.text? "last_modified" = some time)
      (missing : row.text? "path" = none) : Lacks row (missingText "path")
  | sha256 {time path : String} (modified : row.text? "last_modified" = some time)
      (path : row.text? "path" = some path) (missing : row.text? "sha256" = none) :
      Lacks row (missingText "sha256")
  | instant {time path sha256 : String} {fault : InstantFault}
      (modified : row.text? "last_modified" = some time)
      (path : row.text? "path" = some path) (sha256 : row.text? "sha256" = some sha256)
      (unreadable : Instant.parse time = .error fault) :
      Lacks row (noInstant "last_modified" time fault)

variable {row : Row} {file : FileResult} {failure : Failure}

theorem text_of_some {column text : String} (cell : row.text? column = some text) :
    row.text column = .ok text := by
  rw [Row.text, cell]

theorem text_of_none {column : String} (missing : row.text? column = none) :
    row.text column = .error (missingText column) := by
  rw [Row.text, missing]
  rfl

/-- A row with all that a file needs is read as the file. -/
theorem ofRow_of_holds (holds : row.Holds file) : FileResult.ofRow row = .ok file := by
  obtain ⟨⟨time, modified, instant⟩, path, sha256, mimeType⟩ := holds
  unfold FileResult.ofRow
  rw [text_of_some modified, text_of_some path, text_of_some sha256, mimeType]
  show (instantIn "last_modified" time >>= fun _ => _) = _
  rw [instantIn, instant]
  rfl

/-- A row that lacks something is read as the failure that says what. -/
theorem ofRow_of_lacks (lacks : row.Lacks failure) : FileResult.ofRow row = .error failure := by
  unfold FileResult.ofRow
  -- the columns are read in the order of the cases, and the first that lacks something is
  -- reported
  cases lacks with
  | modified missing => rw [text_of_none missing]; rfl
  | path modified missing => rw [text_of_some modified, text_of_none missing]; rfl
  | sha256 modified path missing =>
    rw [text_of_some modified, text_of_some path, text_of_none missing]
    rfl
  | @instant time _ _ _ modified path sha256 unreadable =>
    rw [text_of_some modified, text_of_some path, text_of_some sha256]
    show (instantIn "last_modified" time >>= fun _ => _) = _
    rw [instantIn, unreadable]
    rfl

/-- There is no third kind of row. -/
theorem holds_or_lacks (row : Row) :
    (∃ file, row.Holds file) ∨ ∃ failure, row.Lacks failure := by
  cases modified : row.text? "last_modified" with
  | none => exact .inr ⟨_, .modified modified⟩
  | some time =>
    cases path : row.text? "path" with
    | none => exact .inr ⟨_, .path modified path⟩
    | some path' =>
      cases sha256 : row.text? "sha256" with
      | none => exact .inr ⟨_, .sha256 modified path sha256⟩
      | some sha256' =>
        cases instant : Instant.parse time with
        | error fault => exact .inr ⟨_, .instant modified path sha256 instant⟩
        | ok at' =>
          exact .inl ⟨⟨path', sha256', at', row.text? "mime_type"⟩,
            ⟨time, modified, instant⟩, path, sha256, rfl⟩

/-- A row is decoded to the file that it holds. -/
theorem ofRow_eq_ok_iff : FileResult.ofRow row = .ok file ↔ row.Holds file := by
  refine ⟨fun decoded => ?_, ofRow_of_holds⟩
  rcases row.holds_or_lacks with ⟨other, holds⟩ | ⟨failure, lacks⟩
  · obtain rfl := Except.ok.inj ((ofRow_of_holds holds).symm.trans decoded)
    exact holds
  · exact nomatch (ofRow_of_lacks lacks).symm.trans decoded

/-- It fails to be decoded with the first thing that it lacks. -/
theorem ofRow_eq_error_iff : FileResult.ofRow row = .error failure ↔ row.Lacks failure := by
  refine ⟨fun failed => ?_, ofRow_of_lacks⟩
  rcases row.holds_or_lacks with ⟨file, holds⟩ | ⟨other, lacks⟩
  · exact nomatch (ofRow_of_holds holds).symm.trans failed
  · obtain rfl := Except.error.inj ((ofRow_of_lacks lacks).symm.trans failed)
    exact lacks

end Row

namespace Results

/-! ### The events of an answer -/

section Answers

variable (results : Results) (fileExists : String → Bool)

/-- The events of files: one for each, in order, that need not be checked
or exists. -/
def shown (found : List FileResult) : List Event :=
  (found.filter fun file => !results.checkPath || fileExists file.path).map
    (.found · results.total)

/-- A row of an answer that ends the stream, and how. -/
inductive Breaks : Except StoreError Row → Failure → Prop where
  | unread (e : StoreError) : Breaks (.error e) (.query results.fetch.text e)
  | undecoded {row : Row} {failure : Failure} (lacks : row.Lacks failure) :
      Breaks (.ok row) failure

/-- The events that an answer to the statement of a stream amounts to,
before the end. -/
inductive Gives : Answer → List Event → Prop where
  | refused (e : StoreError) : Gives (.error e) [.failed (.query results.fetch.text e)]
  | complete {rows : List Row} {found : List FileResult}
      (holds : List.Forall₂ Row.Holds rows found) :
      Gives (.ok (rows.map .ok)) (results.shown fileExists found)
  | broken {rows : List Row} {found : List FileResult} {last : Except StoreError Row}
      {failure : Failure} (holds : List.Forall₂ Row.Holds rows found)
      (breaks : results.Breaks last failure) (left : List (Except StoreError Row)) :
      Gives (.ok (rows.map .ok ++ last :: left))
        (results.shown fileExists found ++ [.failed failure])

variable {results fileExists}

/-- A file that does not exist is not shown if paths are checked. -/
theorem shown_cons_dropped {file : FileResult} (checked : results.checkPath = true)
    (gone : fileExists file.path = false) (found : List FileResult) :
    results.shown fileExists (file :: found) = results.shown fileExists found := by
  unfold shown
  rw [List.filter_cons_of_neg (by simp [checked, gone])]

theorem shown_cons_found {file : FileResult}
    (kept : ¬(results.checkPath = true ∧ fileExists file.path = false)) (found : List FileResult) :
    results.shown fileExists (file :: found)
      = .found file results.total :: results.shown fileExists found := by
  unfold shown
  rw [List.filter_cons_of_pos (by simpa [or_iff_not_imp_left] using kept), List.map_cons]

variable (results fileExists)

/-- Every answer amounts to some events. -/
theorem exists_gives (answer : Answer) : ∃ events, results.Gives fileExists answer events := by
  cases answer with
  | error e => exact ⟨_, .refused e⟩
  | ok rows =>
    -- either all rows hold files or one of them is the first to break the stream
    suffices (∃ holding found, rows = holding.map .ok ∧ List.Forall₂ Row.Holds holding found)
        ∨ ∃ holding found last failure left, rows = holding.map .ok ++ last :: left
          ∧ List.Forall₂ Row.Holds holding found ∧ results.Breaks last failure by
      rcases this with ⟨_, _, rfl, holds⟩ | ⟨_, _, _, _, left, rfl, holds, breaks⟩
      · exact ⟨_, .complete holds⟩
      · exact ⟨_, .broken holds breaks left⟩
    induction rows with
    | nil => exact .inl ⟨[], [], rfl, .nil⟩
    | cons first rows ih =>
      cases first with
      | error e => exact .inr ⟨[], [], .error e, _, rows, rfl, .nil, .unread e⟩
      | ok row =>
        rcases row.holds_or_lacks with ⟨file, holds⟩ | ⟨failure, lacks⟩
        · rcases ih with ⟨holding, found, rfl, rest⟩
            | ⟨holding, found, last, failure, left, rfl, rest, breaks⟩
          · exact .inl ⟨row :: holding, file :: found, rfl, .cons holds rest⟩
          · exact .inr ⟨row :: holding, file :: found, last, failure, left, rfl,
              .cons holds rest, breaks⟩
        · exact .inr ⟨[], [], .ok row, failure, rows, rfl, .nil, .undecoded lacks⟩

end Answers

/-! ### One row -/

section Rows

variable (fileExists : String → Bool) {results : Results}

/-- A file that is gone is passed over in the same poll. -/
theorem next_dropped {row : Row} {file : FileResult} (holds : row.Holds file)
    (checked : results.checkPath = true) (gone : fileExists file.path = false)
    (left : List (Except StoreError Row)) :
    results.next fileExists (.ok row :: left) = results.next fileExists left := by
  rw [next, Row.ofRow_of_holds holds]
  show (if _ then _ else _) = _
  rw [if_pos (by simp [checked, gone])]

/-- A file that is not dropped is given by the next poll. -/
theorem next_found {row : Row} {file : FileResult} (holds : row.Holds file)
    (kept : ¬(results.checkPath = true ∧ fileExists file.path = false))
    (left : List (Except StoreError Row)) :
    results.next fileExists (.ok row :: left)
      = (.found file results.total, { results with progress := .rows left }) := by
  rw [next, Row.ofRow_of_holds holds]
  show (if _ then _ else _) = _
  rw [if_neg (by simpa using kept)]

/-- A failure ends the stream, whether or not the file of the row exists. -/
theorem next_breaks {last : Except StoreError Row} {failure : Failure}
    (breaks : results.Breaks last failure) (left : List (Except StoreError Row)) :
    results.next fileExists (last :: left) = (.failed failure, results.finish) := by
  cases breaks with
  | unread e => rfl
  | undecoded lacks => rw [next, Row.ofRow_of_lacks lacks]

end Rows

/-! ### Polls -/

section Polls

variable (store : Store) (fileExists : String → Bool) {results : Results}

/-- Nothing comes after the end. -/
theorem polls_ended (n : Nat) (sent : List Fragment) (ended : results.progress = .ended) :
    (polls store fileExists n sent results).1 = List.replicate n .done := by
  induction n with
  | zero => rfl
  | succ n ih =>
    have step : results.poll store fileExists sent = (.done, results, sent) := by
      rw [poll, ended]
    rw [polls, step, List.replicate_succ, ← ih]

/-- What the next result is does not depend on how far the stream had got. -/
theorem next_with (progress : Progress) (left : List (Except StoreError Row)) :
    ({ results with progress } : Results).next fileExists left = results.next fileExists left := by
  induction left with
  | nil => rfl
  | cons first left ih =>
    cases first with
    | error e => rfl
    | ok row =>
      simp only [next, ih]
      rfl

theorem polls_rows_succ (n : Nat) (sent : List Fragment) (left : List (Except StoreError Row)) :
    (polls store fileExists (n + 1) sent { results with progress := .rows left }).1
      = (results.next fileExists left).1
        :: (polls store fileExists n sent (results.next fileExists left).2).1 := by
  rw [polls, poll]
  simp only [next_with]

/-- The rows of files are followed by what stops the stream. -/
theorem polls_rows {rows : List Row} {found : List FileResult}
    (holds : List.Forall₂ Row.Holds rows found) {tail : List (Except StoreError Row)}
    {stop : Event} (stops : results.next fileExists tail = (stop, results.finish))
    (sent : List Fragment) (n : Nat) :
    (polls store fileExists n sent { results with progress := .rows (rows.map .ok ++ tail) }).1
      = (results.shown fileExists found ++ [stop]).takeD n .done := by
  -- each row that holds a file takes one poll, but for those that are dropped
  induction holds generalizing n with
  | nil =>
    cases n with
    | zero => rfl
    | succ n =>
      show (polls store fileExists (n + 1) sent { results with progress := .rows tail }).1
        = stop :: ([] : List Event).takeD n .done
      rw [polls_rows_succ, stops, List.takeD_nil]
      exact congrArg (stop :: ·) (polls_ended store fileExists n sent rfl)
  | @cons row file rows found first rest ih =>
    cases n with
    | zero => rfl
    | succ n =>
      rw [List.map_cons, List.cons_append, polls_rows_succ]
      by_cases gone : results.checkPath = true ∧ fileExists file.path = false
      · -- the same poll goes on with the rows after it
        rw [next_dropped fileExists first gone.1 gone.2, shown_cons_dropped gone.1 gone.2,
          ← polls_rows_succ]
        exact ih (n + 1)
      · rw [next_found fileExists first gone, shown_cons_found gone, ih n]
        rfl

/-- The first poll goes on from the whole of the answer. -/
theorem polls_fetched {sent : List Fragment} {rows : List (Except StoreError Row)}
    (unsent : results.progress = .unsent) (answered : store sent results.fetch = .ok rows)
    (n : Nat) :
    (polls store fileExists n sent results).1
      = (polls store fileExists n (sent ++ [results.fetch])
          { results with progress := .rows rows }).1 := by
  cases n with
  | zero => rfl
  | succ n =>
    rw [polls_rows_succ, polls, poll, unsent]
    simp only [Store.send, answered]

/-- After the end there is nothing but the end. -/
theorem takeD_append_default (events : List Event) (n : Nat) :
    (events ++ [Event.done]).takeD n .done = events.takeD n .done := by
  induction events generalizing n with
  | nil =>
    cases n with
    | zero => rfl
    | succ n => simp
  | cons event events ih =>
    cases n with
    | zero => rfl
    | succ n => exact congrArg (event :: ·) (ih n)

/-- The polls of a stream give the events of the answer to its statement,
then the end. -/
theorem polls_gives {sent : List Fragment} {events : List Event}
    (unsent : results.progress = .unsent)
    (gives : results.Gives fileExists (store sent results.fetch) events) (n : Nat) :
    (polls store fileExists n sent results).1 = events.takeD n .done := by
  generalize answered : store sent results.fetch = answer at gives
  cases gives with
  | refused e =>
    cases n with
    | zero => rfl
    | succ n =>
      rw [polls, poll, unsent]
      simp only [Store.send, answered]
      rw [polls_ended store fileExists n _ rfl]
      exact congrArg (_ :: ·) (List.takeD_nil n Event.done).symm
  | complete holds =>
    rw [polls_fetched store fileExists unsent answered, ← List.append_nil (List.map _ _),
      polls_rows store fileExists holds rfl, takeD_append_default]
  -- the row that breaks ends the stream, whatever comes after it
  | broken holds breaks left =>
    rw [polls_fetched store fileExists unsent answered]
    exact polls_rows store fileExists holds (next_breaks fileExists breaks left) _ n

end Polls

end Results

/-! ### Searches -/

namespace Search

/-- **The events of a search that has started are those of the answer to its
fetch statement, and then the end for good.**  If the store refuses the
statement this is one failure with its text.  Otherwise the rows come in the
order of the store, each as the file that it holds and with the total, up to
the first that holds none, which gives one failure whether or not its file
exists; of the files only those are passed over that are gone, and these only
if paths are checked.  Rows are decoded exactly as the predicates on their
cells say. -/
theorem session_events (settings : Settings) (request : Request) :
    ∃ compiled, settings.compile request.normalize = .ok compiled
      ∧ (∀ (row : Row) file, FileResult.ofRow row = .ok file ↔ row.Holds file)
      ∧ (∀ (row : Row) failure, FileResult.ofRow row = .error failure ↔ row.Lacks failure)
      ∧ ∀ (store : Store) (fileExists : String → Bool) (results : Results),
        (start settings store request).1 = .ok results →
        let before := if request.count then [compiled.count.fragment] else []
        results.fetch = compiled.fetch.fragment
        ∧ results.checkPath = request.checkPath.getD settings.checkPath
        ∧ (∃ events, results.Gives fileExists (store before compiled.fetch.fragment) events)
        ∧ ∀ events, results.Gives fileExists (store before compiled.fetch.fragment) events →
          ∀ n, (session settings store fileExists request n).2.1 = events.takeD n .done := by
  refine ⟨_, settings.compile_eq_ok request.normalize, fun _ _ => Row.ofRow_eq_ok_iff,
    fun _ _ => Row.ofRow_eq_error_iff, fun store fileExists results started => ?_⟩
  intro before
  -- a session that has results has opened a stream, counted or not
  have opens : ∃ total, start settings store request
      = (.ok (opened settings request total), opening settings request)
        ∧ results = opened settings request total := by
    rcases start_cases settings store request with ⟨total, begun⟩ | ⟨failure, begun⟩
    · rw [begun] at started
      exact ⟨total, begun, (Except.ok.inj started).symm⟩
    · rw [begun] at started
      exact nomatch started
  obtain ⟨total, begun, rfl⟩ := opens
  refine ⟨rfl, rfl, Results.exists_gives _ fileExists _, fun events gives n => ?_⟩
  rw [session_ok fileExists begun n]
  exact Results.polls_gives store fileExists rfl gives n

/-- The cells of a picture whose path and time of modification are these. -/
def picture (path modified : String) : Row :=
  [("path", .text path), ("sha256", .text "5e1d"), ("last_modified", .text modified),
    ("mime_type", .null)]

/-- Two pictures, and two that were modified at no instant. -/
def pictures : List Row :=
  [picture "/gone.png" "2024-01-05T12:00:00+05:00", picture "/kept.png" "2024-01-05T08:00:00Z",
    picture "/gone.png" "yesterday", picture "/kept.png" "today"]

/-- A store that counts four pictures and lists them. -/
def gallery : Store :=
  fun sent _ => .ok ((if sent.isEmpty then [[("total", .integer 4)]] else pictures).map .ok)

/-- Of two pictures one is gone, and the third, which is gone as well, ends
the stream before the fourth. -/
theorem session_events_gallery :
    let noon : Instant := ⟨⟨2024, 1, 5⟩, 480, 0, 0⟩
    (session {} gallery (· == "/kept.png") { checkPath := some true } 4).2.1
      = [.found ⟨"/kept.png", "5e1d", noon, none⟩ 4,
        .failed (noInstant "last_modified" "yesterday" .premature), .done, .done] := by
  intro noon
  let request : Request := { checkPath := some true }
  obtain ⟨compiled, -, -, -, run⟩ := session_events {} request
  have started : (start {} gallery request).1 = .ok (opened {} request 4) :=
    start_of_gives rfl (.cell (n := 4) rfl)
  obtain ⟨-, -, -, events⟩ := run gallery (· == "/kept.png") _ started
  have first : (picture "/gone.png" "2024-01-05T12:00:00+05:00").Holds
      ⟨"/gone.png", "5e1d", ⟨⟨2024, 1, 5⟩, 420, 0, 0⟩, none⟩ :=
    ⟨⟨_, rfl, by decide⟩, rfl, rfl, rfl⟩
  have second : (picture "/kept.png" "2024-01-05T08:00:00Z").Holds
      ⟨"/kept.png", "5e1d", noon, none⟩ :=
    ⟨⟨_, rfl, by decide⟩, rfl, rfl, rfl⟩
  have third : (picture "/gone.png" "yesterday").Lacks
      (noInstant "last_modified" "yesterday" .premature) :=
    .instant rfl rfl rfl (by decide)
  have gives : (opened {} request 4).Gives (· == "/kept.png") _ _ :=
    .broken (.cons first (.cons second .nil)) (.undecoded third)
      [.ok (picture "/kept.png" "today")]
  rw [events _ gives]
  rfl

end Search

end MediaSearch
