import Liveness.Scheduler.Timeline
import Liveness.Store.Table

namespace Liveness

open Scheduler (Lane Runner Phase Effect Probe)
open Store (StatusStore Reporter)

inductive Scheduler.Waiter where
  | queued
  | waiting
  | done
deriving DecidableEq

structure Scheduler where
  lanes : List Lane
  origin : Time.Instant
  reporter : Reporter := {}
  store : StatusStore := {}
  now : Rat := 0
  running : Bool := false
  closed : Bool := false
  tickets : Nat := 0
  waiters : List Scheduler.Waiter := []

namespace Scheduler

structure Entry where
  time : Rat
  probe : Option String
  effect : Effect

/-- Most events of one probe within one step; a loop that neither rests nor waits has no end. -/
def patience : Nat := 1000000

def names (scheduler : Scheduler) : List String := scheduler.lanes.map (·.probe.name)

def repeatedNames (names : List String) : List String :=
  ((names.filter fun name => 1 < names.count name).eraseDups).mergeSort fun a b => !(b < a)

def repeatedNamesFailure (repeated : List String) : Failure :=
  .of .value ("Duplicate probe names: " ++ ", ".intercalate repeated)

def ofLanes (lanes : List Lane) (origin : Time.Instant) (reporter : Reporter) :
    Except Failure Scheduler :=
  match repeatedNames (lanes.map (·.probe.name)) with
  | [] => .ok { lanes, origin, reporter }
  | repeated => .error (repeatedNamesFailure repeated)

def millis (seconds : Rat) : Int :=
  let scaled := seconds * 1000
  Numeric.roundIntHalfEven scaled.num scaled.den

/-- The instant a span after another, by a clock that tells whole milliseconds. -/
def instantAfter (origin : Time.Instant) (seconds : Rat) : Except Time.TimeFault Time.Instant :=
  match Time.Instant.ofMicros? (origin.micros + millis seconds * 1000) with
  | some t => .ok t
  | none => .error .dateOutOfRange

def stampFault (origin : Time.Instant) (seconds : Rat) : Option Failure :=
  match instantAfter origin seconds with
  | .ok _ => none
  | .error fault => some fault.toFailure

def tasks (scheduler : Scheduler) : Nat :=
  (scheduler.lanes.filter fun lane => (lane.phase? .loop).isSome).length

def inFlight (scheduler : Scheduler) : List String :=
  (scheduler.lanes.filter fun lane => lane.isBusy).map (·.probe.name)

def recordReport (scheduler : Scheduler) (entry : Entry) : Scheduler :=
  match entry.probe, entry.effect, instantAfter scheduler.origin entry.time with
  | some name, .reported status true, .ok t =>
    match scheduler.store.insert
        (scheduler.reporter.submission (some name) (some status) (.ofInstant t) .null) with
    | .ok store => { scheduler with store }
    | .error _ => scheduler
  | _, _, _ => scheduler

/-- Appends the rows of accepted reports in the order of their times. -/
def record (scheduler : Scheduler) (entries : List Entry) : Scheduler :=
  (entries.mergeSort fun a b => a.time ≤ b.time).foldl recordReport scheduler

def runWhile (scheduler : Scheduler) (allowed : Rat → Bool) : Scheduler × List Entry :=
  let runs := scheduler.lanes.map (Lane.runWhile scheduler.closed allowed patience)
  let entries := runs.flatMap fun (lane, effects) =>
    effects.map fun (time, effect) => ⟨time, some lane.probe.name, effect⟩
  let moved : Scheduler := { scheduler with lanes := runs.map (·.1) }
  (moved.record entries, entries)

/-- Tasks that wait begin to, or end when there is nothing to wait for. -/
def settleWaiters (scheduler : Scheduler) : Scheduler :=
  { scheduler with waiters := scheduler.waiters.map fun waiter =>
      if scheduler.tasks = 0 ∨ waiter = .done then .done else .waiting }

def advanceTo (scheduler : Scheduler) (time : Rat) : Scheduler × List Entry :=
  let (scheduler, entries) := scheduler.runWhile fun due => due ≤ time
  let arrived : Scheduler := { scheduler with now := time }
  (arrived.settleWaiters, entries)

/-- Lets time pass up to an instant, and nothing that is due at it happen. -/
def advanceBefore (scheduler : Scheduler) (time : Rat) : Scheduler × List Entry :=
  let (scheduler, entries) := scheduler.runWhile fun due => due < time
  ({ scheduler with now := time }, entries)

def settle (scheduler : Scheduler) : Scheduler × List Entry := scheduler.advanceTo scheduler.now

def ownLog (scheduler : Scheduler) (entry : LogEntry) : Entry :=
  ⟨scheduler.now, none, .log entry⟩

def startedLog (count : Nat) : LogEntry := ⟨.info, s!"Probe scheduler started: {count} probes"⟩

def stoppedLog : LogEntry := ⟨.info, "Probe scheduler stopped"⟩

def start (scheduler : Scheduler) : Scheduler × List Entry :=
  if scheduler.running then (scheduler, [])
  else
    ({ scheduler with
        running := true
        lanes := scheduler.lanes.map fun lane => lane.add .loop (.queued scheduler.now) },
      [scheduler.ownLog (startedLog scheduler.lanes.length)])

def closeLane (now : Rat) (lane : Lane) : List Entry :=
  let entry (effect : Effect) : Entry := ⟨now, some lane.probe.name, effect⟩
  match lane.script.closer with
  | .absent => []
  | .call none => [entry .closed]
  | .call (some _) => [entry .closed, entry (.log lane.probe.closeFailureLog)]

/-- Ends every loop, closes the pools and then the checks in order. -/
def stop (scheduler : Scheduler) : Scheduler × List Entry :=
  let waiters := if scheduler.tasks = 0 then scheduler.waiters
    else scheduler.waiters.map fun _ => .done
  ({ scheduler with
      running := false
      closed := true
      lanes := scheduler.lanes.map fun lane => lane.remove .loop
      waiters := waiters },
    scheduler.lanes.flatMap (closeLane scheduler.now) ++ [scheduler.ownLog stoppedLog])

def wait (scheduler : Scheduler) : Scheduler :=
  { scheduler with waiters := scheduler.waiters ++ [.queued] }

def replaceLane (lanes : List Lane) (changed : Lane) : List Lane :=
  lanes.map fun lane => if lane.probe.name = changed.probe.name then changed else lane

abbrev Answer (α : Type) := Option (Except Failure α)

def runOnce (scheduler : Scheduler) (name : String) :
    Answer Verdict × Scheduler × List Entry :=
  match scheduler.lanes.find? (·.probe.name = name) with
  | none => (none, scheduler, [])
  | some lane =>
    let ticket := scheduler.tickets
    let runner := Runner.trigger ticket
    let (lane, effects) := (lane.add runner (.queued scheduler.now)).fire scheduler.closed
      scheduler.now (.begins runner)
    let entries := effects.map fun effect => ⟨scheduler.now, some name, effect⟩
    let triggered : Scheduler :=
      { scheduler with tickets := ticket + 1, lanes := replaceLane scheduler.lanes lane }
    let begun := triggered.record entries
    let outcome := match Lane.returned? ticket effects with
      | some result => some (scheduler.now, result)
      | none => lane.outcomeOf? scheduler.closed ticket patience
    match outcome with
    | none => (none, begun, entries)
    | some (time, result) =>
      let (after, later) := begun.advanceTo time
      (some result, after, entries ++ later)

def firstFailure? (outcomes : List (Rat × Except Failure Verdict)) : Option (Rat × Failure) :=
  (outcomes.filterMap fun (time, result) =>
    match result with
    | .ok _ => none
    | .error failure => some (time, failure)).foldl
      (fun best next => match best with
        | none => some next
        | some b => if next.1 < b.1 then some next else best) none

def allVerdicts? (start : Rat) :
    List (String × Option (Rat × Except Failure Verdict)) → Option (Rat × List (String × Verdict))
  | [] => some (start, [])
  | (name, some (time, .ok verdict)) :: rest =>
    (allVerdicts? start rest).map fun (last, verdicts) =>
      (later time last, (name, verdict) :: verdicts)
  | _ => none

/-- Runs one iteration of every probe, and lets time pass until all end or one fails. -/
def runAll (scheduler : Scheduler) :
    Answer (List (String × Verdict)) × Scheduler × List Entry :=
  let ticket := scheduler.tickets
  let lanes := scheduler.lanes.map fun lane => lane.add (.trigger ticket) (.queued scheduler.now)
  let begun := { scheduler with tickets := ticket + 1, lanes := lanes }
  let outcomes := lanes.map fun lane =>
    (lane.probe.name, lane.outcomeOf? scheduler.closed ticket patience)
  match firstFailure? (outcomes.filterMap (·.2)) with
  | some (time, failure) =>
    let (after, entries) := begun.advanceTo time
    (some (.error failure), after, entries)
  | none =>
    match allVerdicts? scheduler.now outcomes with
    | some (time, verdicts) =>
      let (after, entries) := begun.advanceTo time
      (some (.ok verdicts), after, entries)
    | none => (none, begun, [])

end Scheduler

end Liveness
