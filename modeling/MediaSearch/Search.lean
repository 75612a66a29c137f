/-
MediaSearch/Search.lean

Searches against a store.

`Search.start` sends the count statement, if a count was asked for, and
returns a stream of results that has sent nothing yet.  The fetch statement
is sent at the first poll.  A poll gives the next result whose path need not
be checked or exists; after a failure or the end every poll gives the end.

A store may refuse a statement, and it may also take it and then fail to read
a row of its answer.
-/
import MediaSearch.Compile
import MediaSearch.Failure
import MediaSearch.Instant

namespace MediaSearch

open Sql

/-- The cells of a row by column. -/
abbrev Row := List (String × Value)

/-- What a store answers to a statement that it does not refuse: rows, each of
which it reads or fails to read. -/
abbrev Answer := Except StoreError (List (Except StoreError Row))

/-- Rows that can all be read. -/
instance : Coe (Except StoreError (List Row)) Answer :=
  ⟨fun answer => answer.map fun rows => rows.map .ok⟩

/-- What a store answers to a statement, given those sent before. -/
abbrev Store := (sent : List Fragment) → Fragment → Answer

/-- Sends a statement: the answer, and all statements sent. -/
def Store.send (store : Store) (sent : List Fragment) (statement : Fragment) :
    Answer × List Fragment :=
  (store sent statement, sent ++ [statement])

/-! ### Results -/

/-- A file that was found. -/
structure FileResult where
  path : String
  sha256 : String
  lastModified : Instant
  mimeType : Option String
  deriving DecidableEq

/-- The text in a column; a cell that holds anything else counts as empty. -/
def Row.text? (row : Row) (column : String) : Option String :=
  match row.lookup column with
  | some (.text s) => some s
  | _ => none

/-- The text in a column that must have one. -/
def Row.text (row : Row) (column : String) : Except Failure String :=
  match row.text? column with
  | some s => .ok s
  | none => .error (.decode column (StoreError.nullValue column).message)

/-- The instant a column's text stands for. -/
def instantIn (column text : String) : Except Failure Instant :=
  match Instant.parse text with
  | .ok i => .ok i
  | .error fault => .error (.decode column (fault.message ++ " in '" ++ text ++ "'"))

/-- The result in a row of the fetch statement. -/
def FileResult.ofRow (row : Row) : Except Failure FileResult := do
  let modified ← row.text "last_modified"
  let path ← row.text "path"
  let sha256 ← row.text "sha256"
  let lastModified ← instantIn "last_modified" modified
  return { path, sha256, lastModified, mimeType := row.text? "mime_type" }

/-! ### The stream -/

/-- How far a stream has got. -/
inductive Progress where
  /-- Nothing has been sent. -/
  | unsent
  /-- These rows are left. -/
  | rows (left : List (Except StoreError Row))
  | ended

/-- A stream of results: what it needs to go on, and how far it has got. -/
structure Results where
  /-- How many matches there are; zero if they were not counted. -/
  total : Nat
  /-- The statement whose rows are the results. -/
  fetch : Fragment
  /-- Whether files that do not exist are dropped. -/
  checkPath : Bool
  progress : Progress

/-- What a poll gives. -/
inductive Event where
  | found (result : FileResult) (total : Nat)
  | failed (failure : Failure)
  | done
  deriving DecidableEq

namespace Results

/-- A stream at its end. -/
def finish (results : Results) : Results :=
  { results with progress := .ended }

/-- The next result among rows that is not to be dropped. -/
def next (fileExists : String → Bool) (results : Results) :
    List (Except StoreError Row) → Event × Results
  | [] => (.done, results.finish)
  | .error e :: _ => (.failed (.query results.fetch.text e), results.finish)
  | .ok row :: left =>
    match FileResult.ofRow row with
    | .error failure => (.failed failure, results.finish)
    | .ok result =>
      -- a file that is gone neither ends the poll nor is reported
      if results.checkPath && !fileExists result.path then results.next fileExists left
      else (.found result results.total, { results with progress := .rows left })

/-- One poll: the event, the stream after it, and all statements sent. -/
def poll (store : Store) (fileExists : String → Bool) (sent : List Fragment)
    (results : Results) : Event × Results × List Fragment :=
  match results.progress with
  | .ended => (.done, results, sent)
  | .rows left =>
    let (event, after) := results.next fileExists left
    (event, after, sent)
  | .unsent =>
    let (answer, sentNow) := store.send sent results.fetch
    match answer with
    | .error e => (.failed (.query results.fetch.text e), results.finish, sentNow)
    | .ok rows =>
      let (event, after) := results.next fileExists rows
      (event, after, sentNow)

/-- The events of so many polls, and all statements sent. -/
def polls (store : Store) (fileExists : String → Bool) :
    Nat → (sent : List Fragment) → Results → List Event × List Fragment
  | 0, sent, _ => ([], sent)
  | n + 1, sent, results =>
    let (event, after, sentNow) := results.poll store fileExists sent
    let (events, sentLast) := polls store fileExists n sentNow after
    (event :: events, sentLast)

end Results

/-! ### Starting a search -/

/-- The total in the answer to a count statement: none if there is no row,
and never below zero. -/
def totalOf (statement : Fragment) : List (Except StoreError Row) → Except Failure Nat
  | [] => .ok 0
  | .error e :: _ => .error (.query statement.text e)
  | .ok row :: _ =>
    match row.lookup "total" with
    | some (.integer n) => .ok n.toInt.toNat
    | _ => .error (.query statement.text (.nullValue "total"))

/-- The total in the answer of a store, which may have refused the statement. -/
def totalIn (statement : Fragment) : Answer → Except Failure Nat
  | .error e => .error (.query statement.text e)
  | .ok rows => totalOf statement rows

/-- Starts a search: the stream, or what went wrong, and the statements
sent. -/
def Search.start (settings : Settings) (store : Store) (request : Request) :
    Except Failure Results × List Fragment :=
  let request := request.normalize
  match settings.compile request with
  | .error mismatch => (.error (.compile mismatch), [])
  | .ok compiled =>
    let opened (total : Nat) : Results :=
      { total
        fetch := compiled.fetch.fragment
        checkPath := request.checkPath.getD settings.checkPath
        progress := .unsent }
    -- the stream sends its statement when it is polled, the count goes before it
    if request.count then
      let statement := compiled.count.fragment
      let (answer, sent) := store.send [] statement
      ((totalIn statement answer).map opened, sent)
    else (.ok (opened 0), [])

end MediaSearch
