import Liveness.Store.Table
import Liveness.Verdict

namespace Liveness.Fleet

open Store (StatusRecord)
open Time (Duration Moment)

def runningStatus : String := "Running"

def keepFirst (latest : List (String × String)) (record : String × String) :
    List (String × String) :=
  if (latest.lookup record.1).isSome then latest else latest ++ [record]

def latestOf (records : List (String × String)) : List (String × String) :=
  records.foldl keepFirst []

/-- From records newest first, the latest status of each name. -/
def latestStatuses (records : List StatusRecord) : List (String × String) :=
  latestOf (records.map fun record => (record.name, record.status))

/-- What an aggregation needs of a status store in state `σ`. -/
structure StatusSource (σ : Type) where
  recent : σ → Moment → Except Failure (List StatusRecord)
  removeBefore : σ → Moment → Except Failure Nat × σ

def StatusSource.table : StatusSource Store.StatusStore where
  recent store since := (store.recent since).mapError Store.StoreFault.toFailure
  removeBefore store cutoff :=
    match store.removeBefore cutoff with
    | .ok (count, kept) => (.ok count, kept)
    | .error fault => (.error fault.toFailure, store)

structure Aggregation where
  expected : List String
  window : Duration := .ofMinutes 15
  retention : Duration := .ofDays 7
  zone : Time.Zone := .steady

namespace Aggregation

variable {σ : Type}

/-- The first expected service whose latest status is not `Running`, with that status. -/
def firstFailing? (expected : List String) (latest : List (String × String)) :
    Option (String × String) :=
  expected.findSome? fun name =>
    let state := (latest.lookup name).getD ""
    if state = runningStatus then none else some (name, state)

def judge (expected : List String) (records : List StatusRecord) : Verdict :=
  match firstFailing? expected (latestStatuses records) with
  | some (name, state) => .error s!"service {name} has unexpected state {state}"
  | none => .healthy

def recentAt (check : Aggregation) (source : StatusSource σ) (store : σ) (now : Moment) :
    Except Failure (List StatusRecord) := do
  let since ← (now.before check.zone check.window).mapError Time.TimeFault.toFailure
  source.recent store since

def evaluate (check : Aggregation) (source : StatusSource σ) (store : σ) (now : Moment) :
    Verdict :=
  match check.recentAt source store now with
  | .ok records => judge check.expected records
  | .error failure =>
    .error ("could not retrieve service status from the service_status table: " ++ failure.text)

def sweep (check : Aggregation) (source : StatusSource σ) (store : σ) (now : Moment) :
    List LogEntry × σ :=
  let (outcome, kept) : Except Failure Nat × σ := match now.before check.zone check.retention with
    | .error fault => (.error fault.toFailure, store)
    | .ok cutoff => source.removeBefore store cutoff
  match outcome with
  | .error _ => ([⟨.error, "Error cleaning up service_status table"⟩], kept)
  | .ok count =>
    if count = 0 then ([], kept)
    else
      ([⟨.info, s!"Removed {count} status records older than {check.retention.toText}"⟩], kept)

/-- One check: a verdict on the store as it is, then the sweep. -/
def run (check : Aggregation) (source : StatusSource σ) (store : σ) (now : Moment) :
    Verdict × List LogEntry × σ :=
  let verdict := check.evaluate source store now
  let (logs, kept) := check.sweep source store now
  (verdict, logs, kept)

end Aggregation

end Liveness.Fleet
