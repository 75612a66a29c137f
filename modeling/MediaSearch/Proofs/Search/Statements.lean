/-
MediaSearch/Proofs/Search/Statements.lean

The statements that the store of a search receives.

A stream is polled only by its owner, so a run of a search is its start and
so many polls (`Search.session`).  One poll of a stream that has not sent its
statement sends it and nothing else (`Results.poll_unsent`); after that a
poll sends nothing and does not ask the store (`Results.poll_sent`).  Both say
what a poll gives before they name the store, so that a run depends on no
other answers than those to the statements that it sends.

Main result: `Search.session_statements`.
-/
import MediaSearch.Proofs.Compile.Named
import MediaSearch.Search

namespace MediaSearch

open Sql

/-! ### Polls -/

namespace Results

variable (fileExists : String → Bool) {results : Results}

/-- A stream that gives a result, or its end, has sent its statement. -/
theorem progress_next (left : List (Except StoreError Row)) :
    (results.next fileExists left).2.progress ≠ .unsent := by
  -- the rows are only ever looked at, not asked for again
  induction left with
  | nil => nofun
  | cons first left ih =>
    cases first with
    | error e => nofun
    | ok row =>
      rw [next]
      split
      · nofun
      · split
        · exact ih
        · nofun

/-- **A poll of a stream that has sent its statement sends nothing**, and no
store has a say in it. -/
theorem poll_sent (begun : results.progress ≠ .unsent) :
    ∃ event after, after.progress ≠ .unsent ∧ ∀ (store : Store) (sent : List Fragment),
      results.poll store fileExists sent = (event, after, sent) := by
  cases progress : results.progress with
  | unsent => exact absurd progress begun
  | ended =>
    refine ⟨.done, results, begun, fun store sent => ?_⟩
    rw [poll, progress]
  | rows left =>
    refine ⟨(results.next fileExists left).1, (results.next fileExists left).2,
      progress_next fileExists left, fun store sent => ?_⟩
    rw [poll, progress]

/-- **The first poll sends the statement of the stream**, once, whatever the
answer is; and nothing but this answer decides what it gives. -/
theorem poll_unsent (unsent : results.progress = .unsent) (answer : Answer) :
    ∃ event after, after.progress ≠ .unsent ∧ ∀ (store : Store) (sent : List Fragment),
      store sent results.fetch = answer →
      results.poll store fileExists sent = (event, after, sent ++ [results.fetch]) := by
  -- either way the fetch has been sent, and what comes of it depends on the answer alone
  cases answer with
  | error e =>
    refine ⟨.failed (.query results.fetch.text e), results.finish, nofun,
      fun store sent answered => ?_⟩
    rw [poll, unsent]
    simp only [Store.send, answered]
  | ok rows =>
    refine ⟨(results.next fileExists rows).1, (results.next fileExists rows).2,
      progress_next fileExists rows, fun store sent answered => ?_⟩
    rw [poll, unsent]
    simp only [Store.send, answered]

/-- Further polls send nothing. -/
theorem polls_sent (n : Nat) (begun : results.progress ≠ .unsent) :
    ∃ events, ∀ (store : Store) (sent : List Fragment),
      polls store fileExists n sent results = (events, sent) := by
  induction n generalizing results with
  | zero => exact ⟨[], fun _ _ => rfl⟩
  | succ n ih =>
    obtain ⟨event, after, stays, step⟩ := poll_sent fileExists begun
    obtain ⟨events, run⟩ := ih stays
    refine ⟨event :: events, fun store sent => ?_⟩
    rw [polls, step store sent]
    simp only [run store sent]

/-- Some polls of a stream send its statement once, no polls send nothing. -/
theorem polls_unsent (n : Nat) (unsent : results.progress = .unsent) (answer : Answer) :
    ∃ events, ∀ (store : Store) (sent : List Fragment),
      store sent results.fetch = answer →
      polls store fileExists n sent results
        = (events, sent ++ if 0 < n then [results.fetch] else []) := by
  cases n with
  | zero => exact ⟨[], fun store sent _ => by rw [if_neg (Nat.lt_irrefl 0), List.append_nil]; rfl⟩
  | succ n =>
    -- the first poll sends the fetch, and the others send nothing
    obtain ⟨event, after, begun, step⟩ := poll_unsent fileExists unsent answer
    obtain ⟨events, run⟩ := polls_sent fileExists n begun
    refine ⟨event :: events, fun store sent answered => ?_⟩
    rw [polls, step store sent answered, if_pos (Nat.succ_pos n)]
    simp only [run]

end Results

/-! ### Totals -/

/-- The total that the answer to a count statement gives: none are found if
there is no row, or if the number is negative. -/
inductive GivesTotal : Answer → Nat → Prop where
  | missing : GivesTotal (.ok []) 0
  | cell {row : Row} {rest : List (Except StoreError Row)} {n : Int64}
      (total : row.lookup "total" = some (.integer n)) :
      GivesTotal (.ok (.ok row :: rest)) n.toInt.toNat

/-- What an answer says the total is, is read from it. -/
theorem totalIn_of_gives {answer : Answer} {total : Nat} (gives : GivesTotal answer total)
    (statement : Fragment) : totalIn statement answer = .ok total := by
  cases gives with
  | missing => rfl
  | cell cell => simp only [totalIn, totalOf, cell]

/-- An answer without a total is an error that names the statement, and its
cause is that of the store if the store has refused the statement. -/
theorem totalIn_of_not_gives {answer : Answer} (missing : ∀ total, ¬GivesTotal answer total)
    (statement : Fragment) :
    ∃ cause, totalIn statement answer = .error (.query statement.text cause)
      ∧ ∀ e, answer = .error e → cause = e := by
  -- no answer without a total is left out: refused, unreadable, or not a number
  match answer with
  | .error e => exact ⟨e, rfl, fun _ refused => Except.error.inj refused⟩
  | .ok [] => exact absurd .missing (missing 0)
  | .ok (.error e :: _) => exact ⟨e, rfl, nofun⟩
  | .ok (.ok row :: rest) =>
    refine ⟨.nullValue "total", ?_, nofun⟩
    rw [totalIn, totalOf]
    split
    · rename_i n cell
      exact absurd (.cell cell) (missing _)
    · rfl

/-! ### Runs -/

namespace Search

/-- The stream that a search opens. -/
def opened (settings : Settings) (request : Request) (total : Nat) : Results where
  total
  fetch := (settings.statements request.normalize).fetch.fragment
  checkPath := request.normalize.checkPath.getD settings.checkPath
  progress := .unsent

/-- The statements that a search sends before it returns. -/
def opening (settings : Settings) (request : Request) : List Fragment :=
  if request.count then [(settings.statements request.normalize).count.fragment] else []

/-- A search whose results are polled so many times: the stream or what went
wrong, the events, and all statements that the store receives. -/
def session (settings : Settings) (store : Store) (fileExists : String → Bool)
    (request : Request) (n : Nat) : Except Failure Results × List Event × List Fragment :=
  match start settings store request with
  | (.error failure, sent) => (.error failure, [], sent)
  | (.ok results, sent) => (.ok results, results.polls store fileExists n sent)

variable (settings : Settings) (store : Store) (request : Request)

theorem start_eq :
    let count := (settings.statements request.normalize).count.fragment
    start settings store request
      = if request.count then
          ((totalIn count (store [] count)).map (opened settings request), [count])
        else (.ok (opened settings request 0), []) := by
  intro count
  unfold start
  dsimp only
  rw [Settings.compile_eq_ok]
  rfl

/-- A search opens its stream or fails, and has sent the same in both cases. -/
theorem start_cases :
    (∃ total, start settings store request
        = (.ok (opened settings request total), opening settings request))
      ∨ ∃ failure, start settings store request = (.error failure, opening settings request) := by
  rw [start_eq]
  unfold opening
  split
  · cases totalIn (settings.statements request.normalize).count.fragment
        (store [] (settings.statements request.normalize).count.fragment) with
    | error failure => exact .inr ⟨failure, rfl⟩
    | ok total => exact .inl ⟨total, rfl⟩
  · exact .inl ⟨0, rfl⟩

variable {settings store request}

/-- Without a count nothing is sent, and the total is zero. -/
theorem start_uncounted (uncounted : request.count = false) :
    (start settings store request).1 = .ok (opened settings request 0) := by
  rw [start_eq, if_neg (by simp [uncounted])]

/-- With a count, the count statement is sent before there is a stream. -/
theorem start_counted (counted : request.count = true) :
    let count := (settings.statements request.normalize).count.fragment
    (start settings store request).1
      = (totalIn count (store [] count)).map (opened settings request) := by
  intro count
  rw [start_eq, if_pos counted]

/-- A search has the total that its store gives. -/
theorem start_of_gives (counted : request.count = true) {total : Nat}
    (gives : GivesTotal
      (store [] (settings.statements request.normalize).count.fragment) total) :
    (start settings store request).1 = .ok (opened settings request total) := by
  rw [start_counted counted, totalIn_of_gives gives]
  rfl

/-- Without a total it fails, and names the count statement. -/
theorem start_of_not_gives (counted : request.count = true) :
    let count := (settings.statements request.normalize).count.fragment
    (∀ total, ¬GivesTotal (store [] count) total) →
      ∃ cause, (start settings store request).1 = .error (.query count.text cause)
        ∧ ∀ e, store [] count = .error e → cause = e := by
  intro count missing
  obtain ⟨cause, failed, same⟩ := totalIn_of_not_gives missing count
  rw [start_counted counted, failed]
  exact ⟨cause, rfl, same⟩

/-- A search that has failed asks for nothing more. -/
theorem session_error (fileExists : String → Bool) {failure : Failure} {sent : List Fragment}
    (started : start settings store request = (.error failure, sent)) (n : Nat) :
    session settings store fileExists request n = (.error failure, [], sent) := by
  unfold session
  rw [started]

/-- A session that has started is its polls. -/
theorem session_ok (fileExists : String → Bool) {results : Results} {sent : List Fragment}
    (started : start settings store request = (.ok results, sent)) (n : Nat) :
    session settings store fileExists request n
      = (.ok results, results.polls store fileExists n sent) := by
  unfold session
  rw [started]

variable (settings request)

/-- The whole of a session, given the answers to its two statements. -/
theorem exists_session (fileExists : String → Bool) (n : Nat) (counted fetched : Answer) :
    let count := (settings.statements request.normalize).count.fragment
    let fetch := (settings.statements request.normalize).fetch.fragment
    ∃ started events, ∀ store : Store, store [] count = counted →
      store (opening settings request) fetch = fetched →
      start settings store request = (started, opening settings request)
        ∧ session settings store fileExists request n = (started, events,
          opening settings request ++ if started.isOk ∧ 0 < n then [fetch] else []) := by
  intro count fetch
  -- any store with these answers will do to find out how the search starts
  let fixed : Store := fun _ _ => counted
  have alike (store : Store) (same : store [] count = counted) :
      start settings store request = start settings fixed request := by
    rw [start_eq, start_eq]
    show (if _ then ((totalIn count (store [] count)).map _, _) else _) = _
    rw [same]
  rcases start_cases settings fixed request with ⟨total, begun⟩ | ⟨failure, begun⟩
  · have unsent : (opened settings request total).progress = .unsent := rfl
    obtain ⟨events, run⟩ := Results.polls_unsent fileExists n unsent fetched
    refine ⟨.ok (opened settings request total), events, fun store same answered => ?_⟩
    have started := (alike store same).trans begun
    rw [session_ok fileExists started, run store _ answered]
    refine ⟨started, ?_⟩
    simp only [Except.isOk, Except.toBool, true_and]
    rfl
  · refine ⟨.error failure, [], fun store same _ => ?_⟩
    have started := (alike store same).trans begun
    rw [session_error fileExists started, if_neg (by simp [Except.isOk, Except.toBool]),
      List.append_nil]
    exact ⟨started, rfl⟩

/-- **The store of a search receives the count statement, if a count was
asked for, before the search has started, and the fetch statement at the
first poll, if it has started well**; and nothing else, whatever it answers
and however often the stream is polled.  The total is the one the store
gives; where it gives none the search fails with the text of the count
statement.  No other answers of the store matter. -/
theorem session_statements :
    ∃ compiled, settings.compile request.normalize = .ok compiled
      ∧ ∀ (store : Store) (fileExists : String → Bool),
        let count := compiled.count.fragment
        let fetch := compiled.fetch.fragment
        let before := if request.count then [count] else []
        let started := start settings store request
        started.2 = before
        ∧ (∀ n, (session settings store fileExists request n).1 = started.1
          ∧ (session settings store fileExists request n).2.2
            = before ++ if started.1.isOk ∧ 0 < n then [fetch] else [])
        ∧ (request.count = false → ∃ results, started.1 = .ok results ∧ results.total = 0)
        ∧ (request.count = true →
          (∀ total, GivesTotal (store [] count) total →
            ∃ results, started.1 = .ok results ∧ results.total = total)
          ∧ ((∀ total, ¬GivesTotal (store [] count) total) →
            ∃ cause, started.1 = .error (.query count.text cause)
              ∧ ∀ e, store [] count = .error e → cause = e))
        ∧ ∀ other : Store, other [] count = store [] count →
          other before fetch = store before fetch → ∀ n,
          session settings other fileExists request n
            = session settings store fileExists request n := by
  refine ⟨_, settings.compile_eq_ok request.normalize, fun store fileExists => ?_⟩
  intro count fetch before started
  -- all that is said of a session depends on two answers of the store
  have whole := fun n => exists_session settings request fileExists n
    (store [] count) (store before fetch)
  refine ⟨?_, ?_, ?_, ?_, ?_⟩
  · obtain ⟨_, _, run⟩ := whole 0
    exact congrArg Prod.snd (run store rfl rfl).1
  · intro n
    obtain ⟨result, events, run⟩ := whole n
    obtain ⟨begun, all⟩ := run store rfl rfl
    have result : started.1 = result := congrArg Prod.fst begun
    rw [all, result]
    exact ⟨rfl, rfl⟩
  · intro uncounted
    exact ⟨_, start_uncounted uncounted, rfl⟩
  · intro counted
    exact ⟨fun total gives => ⟨_, start_of_gives counted gives, rfl⟩, start_of_not_gives counted⟩
  · intro other sameCount sameFetch n
    obtain ⟨_, _, run⟩ := whole n
    rw [(run other sameCount sameFetch).2, (run store rfl rfl).2]

/-- A store with a total below zero and nothing else. -/
def belowZero : Store :=
  fun _ _ => .ok [.ok [("total", .integer (-3))]]

/-- A total below zero is none, and two polls fetch once. -/
theorem session_statements_belowZero :
    ∃ compiled, Settings.compile {} (Request.normalize {}) = .ok compiled
      ∧ (∃ results, (start {} belowZero {}).1 = .ok results ∧ results.total = 0)
      ∧ (session {} belowZero (fun _ => true) {} 2).2.2
        = [compiled.count.fragment, compiled.fetch.fragment] := by
  obtain ⟨compiled, ok, protocol⟩ := session_statements {} {}
  obtain ⟨-, sent, -, counted, -⟩ := protocol belowZero fun _ => true
  have gives : GivesTotal (belowZero [] compiled.count.fragment) 0 :=
    .cell (n := -3) rfl
  obtain ⟨results, started, total⟩ := (counted rfl).1 0 gives
  refine ⟨compiled, ok, ⟨results, started, total⟩, (sent 2).2.trans ?_⟩
  rw [started]
  rfl

end Search

end MediaSearch
