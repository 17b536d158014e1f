import Liveness.Proofs.Outcome
import Liveness.Proofs.Time.TimestampText
import Liveness.Store.Table

namespace Liveness.Store

open Database (Cell)
open Time (Instant Moment)

/-- What a record tells besides its metadata. -/
structure Posting where
  name : String
  status : String
  instant : Instant
  executableName : String
  version : String
  pid : Cell
deriving DecidableEq

def StatusRecord.posting (record : StatusRecord) : Posting where
  name := record.name
  status := record.status
  instant := record.reportedAt
  executableName := record.executableName
  version := record.version
  pid := record.pid

def Submission.posting? (submission : Submission) : Option Posting := do
  let name ← submission.name
  let status ← submission.status
  let instant ← submission.reportedAt.toInstant.toOption
  guard (Cell.fitsInteger (submission.pid.getD 0))
  guard (submission.extra.exceedsDigits = false)
  return {
    name := name
    status := status
    instant := instant
    executableName := submission.executableName.getD ""
    version := submission.version.getD ""
    pid := .integer (submission.pid.getD 0) }

theorem posting?_eq_some {submission : Submission} {posting : Posting} :
    submission.posting? = some posting ↔ ∃ name status t, submission.name = some name ∧
      submission.status = some status ∧ submission.reportedAt.toInstant = .ok t ∧
      Cell.fitsInteger (submission.pid.getD 0) = true ∧ submission.extra.exceedsDigits = false ∧
      ⟨name, status, t, submission.executableName.getD "", submission.version.getD "",
        .integer (submission.pid.getD 0)⟩ = posting := by
  unfold Submission.posting?
  cases submission.name <;> cases submission.status <;>
    cases submission.reportedAt.toInstant <;>
      simp [Except.toOption, Option.bind_eq_some_iff, guard]

inductive Operation where
  | insert (submission : Submission)
  | removeBefore (cutoff : Moment)
  | recent (since : Moment)
  | reopen

inductive Answer where
  | done
  | removed (count : Nat)
  | found (postings : List Posting)
  | refused
deriving DecidableEq

section Runs

variable {State : Type} (step : State → Operation → Answer × State)

def answers (state : State) : List Operation → List Answer
  | [] => []
  | operation :: operations =>
    (step state operation).1 :: answers (step state operation).2 operations

def after (state : State) (operations : List Operation) : State :=
  operations.foldl (fun state operation => (step state operation).2) state

end Runs

def StatusStore.step (store : StatusStore) : Operation → Answer × StatusStore
  | .insert submission =>
    match store.insert submission with
    | .ok store => (.done, store)
    | .error _ => (.refused, store)
  | .removeBefore cutoff =>
    match store.removeBefore cutoff with
    | .ok (count, store) => (.removed count, store)
    | .error _ => (.refused, store)
  | .recent since =>
    match store.recent since with
    | .ok records => (.found (records.map StatusRecord.posting), store)
    | .error _ => (.refused, store)
  | .reopen => (.done, store.reopen)

namespace StatusStore

variable (store : StatusStore)

theorem step_insert_eq (submission : Submission) :
    store.step (.insert submission) = match store.insert submission with
      | .ok store => (.done, store)
      | .error _ => (.refused, store) := rfl

theorem step_removeBefore_eq (cutoff : Moment) :
    store.step (.removeBefore cutoff) = match store.removeBefore cutoff with
      | .ok (count, store) => (.removed count, store)
      | .error _ => (.refused, store) := rfl

theorem step_recent_eq (since : Moment) :
    store.step (.recent since) = match store.recent since with
      | .ok records => (.found (records.map StatusRecord.posting), store)
      | .error _ => (.refused, store) := rfl

theorem reopen_table {store : StatusStore} {table : Table} (opened : store.table = some table) :
    store.reopen.table = some table := by
  rw [reopen, opened]
  rfl

end StatusStore

abbrev Log := List Posting

namespace Log

/-- A later time stands first, and at one time a later place in the log. -/
def newerFirst (a b : Posting × Nat) : Bool :=
  b.1.instant.micros < a.1.instant.micros ∨ b.1.instant = a.1.instant ∧ b.2 ≤ a.2

def recent (log : Log) (since : Instant) : List Posting :=
  ((log.zipIdx.filter fun entry => since.micros < entry.1.instant.micros).mergeSort
    newerFirst).map (·.1)

def step (log : Log) : Operation → Answer × Log
  | .insert submission =>
    match submission.posting? with
    | some posting => (.done, log ++ [posting])
    | none => (.refused, log)
  | .removeBefore cutoff =>
    match cutoff.toInstant with
    | .ok t => (.removed (log.countP fun posting => posting.instant.micros < t.micros),
      log.filter fun posting => t.micros ≤ posting.instant.micros)
    | .error _ => (.refused, log)
  | .recent since =>
    match since.toInstant with
    | .ok t => (.found (log.recent t), log)
    | .error _ => (.refused, log)
  | .reopen => (.done, log)

end Log

def HasFourDigitYear (moment : Moment) : Prop :=
  ∀ t, moment.toInstant = .ok t → t.HasFourDigitYear

instance (moment : Moment) : Decidable (HasFourDigitYear moment) :=
  match h : moment.toInstant with
  | .ok t => decidable_of_iff t.HasFourDigitYear (by simp [HasFourDigitYear, h])
  | .error _ => .isTrue (by simp [HasFourDigitYear, h])

namespace Operation

def moments : Operation → List Moment
  | .insert submission => [submission.reportedAt]
  | .removeBefore moment | .recent moment => [moment]
  | .reopen => []

def IsStorable : Operation → Bool
  | .insert submission => submission.name.isSome && submission.status.isSome &&
    Cell.fitsInteger (submission.pid.getD 0) && !submission.extra.exceedsDigits
  | _ => true

def IsComplete (operation : Operation) : Prop :=
  operation.IsStorable ∧ ∀ moment ∈ operation.moments, moment.toInstant.isOk

instance (operation : Operation) : Decidable operation.IsComplete :=
  inferInstanceAs (Decidable (_ ∧ _))

end Operation

namespace Log

theorem step_ne_refused (log : Log) {operation : Operation} (complete : operation.IsComplete) :
    (log.step operation).1 ≠ .refused := by
  obtain ⟨storable, inTime⟩ := complete
  cases operation with
  | insert submission =>
      simp only [Operation.IsStorable, Bool.and_eq_true, Bool.not_eq_true'] at storable
      obtain ⟨⟨⟨named, reported⟩, fits⟩, short⟩ := storable
      obtain ⟨name, named⟩ := Option.isSome_iff_exists.1 named
      obtain ⟨status, reported⟩ := Option.isSome_iff_exists.1 reported
      obtain ⟨t, time⟩ := exists_of_isOk (inTime _ (List.mem_singleton_self _))
      have posts := posting?_eq_some.2 ⟨name, status, t, named, reported, time, fits, short, rfl⟩
      simp [step, posts]
  | removeBefore cutoff =>
      obtain ⟨t, time⟩ := exists_of_isOk (inTime _ (List.mem_singleton_self _))
      simp [step, time]
  | recent since =>
      obtain ⟨t, time⟩ := exists_of_isOk (inTime _ (List.mem_singleton_self _))
      simp [step, time]
  | reopen => simp [step]

theorem refused_notMem_answers (log : Log) {operations : List Operation}
    (complete : ∀ operation ∈ operations, operation.IsComplete) :
    .refused ∉ answers step log operations := by
  induction operations generalizing log with
  | nil => simp [answers]
  | cons operation operations ih =>
      obtain ⟨first, others⟩ := List.forall_mem_cons.1 complete
      rw [answers, List.mem_cons, not_or]
      exact ⟨(step_ne_refused log first).symm, ih _ others⟩

end Log

end Liveness.Store
