import Liveness.Proofs.Store.Readability

/-!
A write that fails leaves no trace. It is made in steps, and those that come first may have changed
the table when a later one fails; but they are one transaction (`transaction_steps`). All that comes
afterwards is as if the write had not been attempted: `history_of_failed`.
-/

namespace Liveness.Store

open Database (Cell)
open MonadExcept (ofExcept)
open Time (Moment)

/-! ## Transactions -/

/-- Steps that change the store as they go; one that fails does not take back those before it. -/
abbrev Steps := EStateM Failure StatusStore

def transaction {α : Type} (steps : Steps α) (store : StatusStore) :
    Except Failure α × StatusStore :=
  match steps.run store with
  | .ok result changed => (.ok result, changed)
  | .error failure _ => (.error failure, store)

theorem snd_of_transaction_eq_error {α : Type} {steps : Steps α} {store : StatusStore}
    {failure : Failure} (failed : (transaction steps store).1 = .error failure) :
    (transaction steps store).2 = store := by
  rw [transaction] at failed ⊢
  cases ran : steps.run store with
  | ok result changed => simp [ran] at failed
  | error failure changed => rfl

/-- A write, whose metadata may be something that has no JSON text: serialising it fails. -/
structure Attempt where
  write : Write
  unwritable : Option Failure := none

namespace Attempt

def submission (attempt : Attempt) : Submission := attempt.write.submission

def metadata (attempt : Attempt) : Except Failure (Option String) :=
  match attempt.unwritable with
  | some failure => .error failure
  | none => (metadataText attempt.submission.extra).mapError StoreFault.toFailure

/-- All values are there before the table is touched, and the row has its number before its columns
are checked. -/
def steps (attempt : Attempt) : Steps Unit := do
  let metadata ← ofExcept attempt.metadata
  let lastUpdate ← ofExcept ((Time.Timestamp.write attempt.submission.reportedAt).mapError
    Time.TimeFault.toFailure)
  let some table := (← get).table | throw StoreFault.missingTable.toFailure
  if ¬ Cell.fitsInteger (attempt.submission.pid.getD 0) then
    throw StoreFault.integerTooLarge.toFailure
  let id := table.lastId + 1
  set { table := some { table with lastId := id } : StatusStore }
  let row ← ofExcept ((StatusStore.rowOf attempt.submission metadata lastUpdate id).mapError
    StoreFault.toFailure)
  set { table := some { rows := table.rows ++ [row], lastId := id } : StatusStore }

end Attempt

variable {store : StatusStore}

theorem transaction_steps (store : StatusStore) {attempt : Attempt}
    (writable : attempt.unwritable = none) : transaction attempt.steps store =
      match store.insert attempt.submission with
      | .ok changed => (.ok (), changed)
      | .error fault => (.error fault.toFailure, store) := by
  unfold transaction Attempt.steps Attempt.metadata StatusStore.insert StatusStore.rowOf
  rw [writable]
  -- one case for each step that can fail, in their order
  cases metadataText attempt.submission.extra with
  | error fault => rfl
  | ok metadata =>
      cases Time.Timestamp.write attempt.submission.reportedAt with
      | error fault => rfl
      | ok lastUpdate =>
          obtain ⟨table⟩ := store
          cases table with
          | none => rfl
          | some table =>
              cases Cell.fitsInteger (attempt.submission.pid.getD 0) with
              | false => rfl
              | true => cases attempt.submission.name <;> cases attempt.submission.status <;> rfl

theorem transaction_steps_of_unwritable (store : StatusStore) {attempt : Attempt}
    {failure : Failure}
    (unwritable : attempt.unwritable = some failure) :
    transaction attempt.steps store = (.error failure, store) := by
  unfold transaction Attempt.steps Attempt.metadata
  rw [unwritable]
  rfl

/-! ## Requests -/

inductive Request where
  | write (attempt : Attempt)
  | removeBefore (cutoff : Moment)
  | recent (since : Moment)
  | reopen

inductive Result where
  | done
  | reported (submission : Submission)
  | removed (count : Nat)
  | found (records : List StatusRecord)

def Write.result : Write → Result
  | .insert _ => .done
  | .report reporter name status moment extra =>
    .reported (reporter.submission name status moment extra)

def StatusStore.serve (store : StatusStore) : Request → Except Failure Result × StatusStore
  | .write attempt =>
    let (result, changed) := transaction attempt.steps store
    (result.map fun _ => attempt.write.result, changed)
  | .removeBefore cutoff =>
    match store.removeBefore cutoff with
    | .ok (count, changed) => (.ok (.removed count), changed)
    | .error fault => (.error fault.toFailure, store)
  | .recent since => (((store.recent since).mapError StoreFault.toFailure).map Result.found, store)
  | .reopen => (.ok .done, store.reopen)

theorem serve_write_eq (store : StatusStore) (attempt : Attempt) :
    store.serve (.write attempt) =
      ((transaction attempt.steps store).1.map fun _ => attempt.write.result,
        (transaction attempt.steps store).2) := rfl

theorem serve_removeBefore_eq (store : StatusStore) (cutoff : Moment) :
    store.serve (.removeBefore cutoff) = match store.removeBefore cutoff with
      | .ok (count, changed) => (.ok (.removed count), changed)
      | .error fault => (.error fault.toFailure, store) := rfl

theorem serve_write (store : StatusStore) {attempt : Attempt}
    (writable : attempt.unwritable = none) :
    store.serve (.write attempt) = match store.insert attempt.submission with
      | .ok changed => (.ok attempt.write.result, changed)
      | .error fault => (.error fault.toFailure, store) := by
  rw [serve_write_eq, transaction_steps store writable]
  cases store.insert attempt.submission <;> rfl

theorem serve_of_unwritable (store : StatusStore) {attempt : Attempt} {failure : Failure}
    (unwritable : attempt.unwritable = some failure) :
    store.serve (.write attempt) = (.error failure, store) := by
  rw [serve_write_eq, transaction_steps_of_unwritable store unwritable]
  rfl

theorem serve_removeBefore_snd (store : StatusStore) (cutoff : Moment) :
    (store.serve (.removeBefore cutoff)).2 = (store.step (.removeBefore cutoff)).2 := by
  rw [serve_removeBefore_eq, StatusStore.step_removeBefore_eq]
  cases store.removeBefore cutoff <;> rfl

theorem snd_of_serve_eq_error {request : Request} {failure : Failure}
    (failed : (store.serve request).1 = .error failure) : (store.serve request).2 = store := by
  cases request with
  | write attempt =>
      rw [serve_write_eq] at failed ⊢
      cases result : (transaction attempt.steps store).1 with
      | ok made => simp [result, Except.map] at failed
      | error failure => exact snd_of_transaction_eq_error result
  | removeBefore cutoff =>
      rw [serve_removeBefore_eq] at failed ⊢
      cases removed : store.removeBefore cutoff with
      | ok pair => simp [removed] at failed
      | error fault => rfl
  | recent since => rfl
  | reopen => cases failed

theorem exists_opened_serve {table : Table} (opened : store.table = some table)
    (request : Request) :
    ∃ table', (store.serve request).2.table = some table' := by
  cases request with
  | write attempt =>
      cases writable : attempt.unwritable with
      | some failure => exact ⟨table, by rw [serve_of_unwritable store writable, opened]⟩
      | none =>
          rw [serve_write store writable]
          rcases insert_cases opened attempt.submission with
            ⟨row, -, inserted⟩ | ⟨-, fault, refused⟩
          · exact ⟨_, by rw [inserted]⟩
          · exact ⟨table, by rw [refused, opened]⟩
  | removeBefore cutoff =>
      obtain ⟨table', opened', -⟩ := step_rows opened (.removeBefore cutoff)
      exact ⟨table', by rw [serve_removeBefore_snd, opened']⟩
  | recent since => exact ⟨table, opened⟩
  | reopen => exact ⟨table, StatusStore.reopen_table opened⟩

/-! ## Writes that fail -/

def Submission.IsRefused (submission : Submission) : Prop :=
  submission.name = none ∨ submission.status = none ∨
    Cell.fitsInteger (submission.pid.getD 0) = false ∨
    ¬ (1 ≤ submission.reportedAt.utcYear ∧ submission.reportedAt.utcYear ≤ 9999) ∨
    submission.extra.exceedsDigits = true

def Attempt.IsRefused (attempt : Attempt) : Prop :=
  attempt.unwritable ≠ none ∨ attempt.submission.IsRefused

theorem posting?_eq_none_iff {submission : Submission} :
    submission.posting? = none ↔ submission.IsRefused := by
  unfold Submission.IsRefused
  rw [← Moment.exists_toInstant_iff]
  constructor
  · intro refused
    by_contra complete
    simp only [not_or, not_not, ← ne_eq, Option.ne_none_iff_exists', Bool.not_eq_false,
      Bool.not_eq_true] at complete
    obtain ⟨⟨name, named⟩, ⟨status, reported⟩, fits, ⟨t, time⟩, short⟩ := complete
    rw [posting?_eq_some.2 ⟨name, status, t, named, reported, time, fits, short, rfl⟩] at refused
    cases refused
  · intro refused
    rw [Option.eq_none_iff_forall_ne_some]
    intro posting posts
    obtain ⟨name, status, t, named, reported, time, fits, short, -⟩ := posting?_eq_some.1 posts
    simp [named, reported, time, fits, short] at refused

theorem serve_write_fails_iff {table : Table} (opened : store.table = some table)
    (attempt : Attempt) :
    (∃ failure, (store.serve (.write attempt)).1 = .error failure) ↔ attempt.IsRefused := by
  unfold Attempt.IsRefused
  cases writable : attempt.unwritable with
  | some failure =>
      rw [serve_of_unwritable store writable]
      simp
  | none =>
      rw [serve_write store writable, ← posting?_eq_none_iff, ← row?_eq_none_iff]
      rcases insert_cases opened attempt.submission with
        ⟨row, written, inserted⟩ | ⟨refused, fault, failed⟩
      · simp [inserted, written]
      · simp [failed, refused]

/-! ## Histories -/

structure Served where
  request : Request
  before : StatusStore
  result : Except Failure Result
  after : StatusStore

namespace StatusStore

def afterRequests (store : StatusStore) (requests : List Request) : StatusStore :=
  requests.foldl (fun store request => (store.serve request).2) store

def history (store : StatusStore) : List Request → List Served
  | [] => []
  | request :: requests =>
    ⟨request, store, (store.serve request).1, (store.serve request).2⟩ ::
      (store.serve request).2.history requests

end StatusStore

theorem history_append (store : StatusStore) (requests later : List Request) :
    store.history (requests ++ later) =
      store.history requests ++ (store.afterRequests requests).history later := by
  induction requests generalizing store with
  | nil => rfl
  | cons request requests ih =>
      rw [List.cons_append, StatusStore.history, ih, StatusStore.history, List.cons_append]
      rfl

theorem exists_opened_afterRequests {table : Table} (opened : store.table = some table)
    (requests : List Request) :
    ∃ table', (store.afterRequests requests).table = some table' := by
  induction requests generalizing store table with
  | nil => exact ⟨table, opened⟩
  | cons request requests ih =>
      obtain ⟨middle, opened'⟩ := exists_opened_serve opened request
      exact ih opened'

/-- Failed requests may be left out, all or some of them, and the others are served as they were. -/
theorem history_filter (store : StatusStore) (requests : List Request) {keep : Served → Bool}
    (kept : ∀ served, served.result.isOk = true → keep served = true) :
    store.history (((store.history requests).filter keep).map Served.request) =
      (store.history requests).filter keep := by
  induction requests generalizing store with
  | nil => rfl
  | cons request requests ih =>
      rw [StatusStore.history, List.filter_cons]
      split
      next => rw [List.map_cons, StatusStore.history, ih]
      -- what is left out has failed, so the others find the store that it found
      next omitted =>
          have unchanged : (store.serve request).2 = store := by
            cases result : (store.serve request).1 with
            | ok found => exact absurd (kept _ (by rw [result]; rfl)) omitted
            | error failure => exact snd_of_serve_eq_error result
          rw [unchanged]
          exact ih store

/-- After any requests, a write fails just when it cannot be stored. Then the store is as it was,
and all that is asked later gets the same results and the same rows, numbers included, as if the
write had not been attempted; and so for any number of failed requests. -/
theorem history_of_failed (requests later : List Request) (attempt : Attempt) :
    let store := StatusStore.afterRequests {} requests
    ((∃ failure, (store.serve (.write attempt)).1 = .error failure) ↔ attempt.IsRefused) ∧
    (attempt.IsRefused → ∃ failure, store.serve (.write attempt) = (.error failure, store) ∧
      StatusStore.history {} (requests ++ .write attempt :: later) =
        StatusStore.history {} requests ++
          ⟨.write attempt, store, .error failure, store⟩ :: store.history later ∧
      StatusStore.history {} (requests ++ later) =
        StatusStore.history {} requests ++ store.history later) ∧
    ∀ keep : Served → Bool, (∀ served, served.result.isOk = true → keep served = true) →
      StatusStore.history {} (((StatusStore.history {} requests).filter keep).map Served.request) =
        (StatusStore.history {} requests).filter keep := by
  intro store
  have empty : ({} : StatusStore).table = some {} := rfl
  obtain ⟨table, opened⟩ := exists_opened_afterRequests empty requests
  have fails := serve_write_fails_iff opened attempt
  refine ⟨fails, fun refused => ?_, fun keep kept => history_filter {} requests kept⟩
  obtain ⟨failure, failed⟩ := fails.2 refused
  have unchanged := snd_of_serve_eq_error failed
  refine ⟨failure, Prod.ext failed unchanged, ?_, history_append {} requests later⟩
  rw [history_append, StatusStore.history, failed, unchanged]

def reportOf (status : Option String) : Attempt where
  write := .report {} (some "db") status ⟨noon, some 0⟩ (.object [])

theorem history_of_failed_report :
    (reportOf none).IsRefused ∧
      (∃ failure changed, (reportOf none).steps.run
          (StatusStore.afterRequests {} [.write (reportOf (some "OK"))]) = .error failure changed ∧
        changed.table.map (·.lastId) = some 2) ∧
      ((StatusStore.history {} ([.write (reportOf (some "OK"))] ++ .write (reportOf none) ::
          [.write (reportOf (some "Running"))])).map fun served =>
        served.after.table.map fun table => (table.rows.map fun row => (row.id, row.status))) =
          [some [(1, "OK")], some [(1, "OK")], some [(1, "OK"), (2, "Running")]] := by
  have refused : (reportOf none).IsRefused := .inr (.inr (.inl rfl))
  obtain ⟨-, leaves, -⟩ := history_of_failed [.write (reportOf (some "OK"))]
    [.write (reportOf (some "Running"))] (reportOf none)
  obtain ⟨failure, -, whole, -⟩ := leaves refused
  refine ⟨refused, ⟨_, _, rfl, by decide +kernel⟩, ?_⟩
  rw [whole]
  simp only [List.map_append, List.map_cons]
  decide +kernel

end Liveness.Store
