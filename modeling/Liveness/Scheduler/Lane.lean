import Liveness.Scheduler.Script

/-!
Lanes: the state of one probe between events. A lane knows which checks run, which of them it
started last, and what each of its runners, its loop and the triggers from outside, waits for. An
event changes the lane and leaves effects: checks started and ended, reports handed over, log
entries, and iterations that ended. Lanes know nothing of each other.
-/

namespace Liveness.Scheduler

/-- Who runs an iteration: the probe's own loop, or a trigger from outside. -/
inductive Runner where
  | loop
  | trigger (ticket : Nat)
deriving DecidableEq

inductive Phase where
  | queued (since : Rat)
  | checking (call : Nat) (deadline : Option Rat)
  | reporting (verdict : Verdict) (fault : Option Failure) (ends : Option Rat)
  | sleeping (ends : Rat)
deriving DecidableEq

structure RunningCheck where
  call : Nat
  ends : Option Rat
  outcome : Except Failure Verdict

structure Lane where
  probe : Probe
  script : Script
  running : List RunningCheck := []
  /-- Whether a check has ended whose outcome never arrives. -/
  lost : Bool := false
  calls : Nat := 0
  reports : Nat := 0
  runners : List (Runner × Phase) := []

inductive Event where
  | begins (runner : Runner)
  | checkEnds (call : Nat)
  | expires (runner : Runner)
  | reportEnds (runner : Runner)
deriving DecidableEq

inductive Effect where
  | began (runner : Runner)
  | checkStarted (call : Nat)
  | checkEnded (call : Nat) (outcome : Except Failure Verdict)
  | reported (status : String) (accepted : Bool)
  | ended (runner : Runner) (result : Except Failure Verdict)
  | closed
  | log (entry : LogEntry)

namespace Lane

def isBusy (lane : Lane) : Bool :=
  lane.lost || lane.running.any fun check => check.call + 1 = lane.calls

def phase? (lane : Lane) (runner : Runner) : Option Phase := lane.runners.lookup runner

def add (lane : Lane) (runner : Runner) (phase : Phase) : Lane :=
  { lane with runners := lane.runners ++ [(runner, phase)] }

def remove (lane : Lane) (runner : Runner) : Lane :=
  { lane with runners := lane.runners.filter fun entry => entry.1 ≠ runner }

def setPhase (lane : Lane) (runner : Runner) (phase : Phase) : Lane :=
  { lane with runners := lane.runners.map fun entry =>
      if entry.1 = runner then (runner, phase) else entry }

def rest (lane : Lane) (now : Rat) (runner : Runner) : Lane :=
  match runner with
  | .loop => lane.setPhase .loop (.sleeping (now + later lane.probe.interval 0))
  | .trigger _ => lane.remove runner

def finish (lane : Lane) (now : Rat) (runner : Runner) (verdict : Verdict) : Lane × List Effect :=
  (lane.rest now runner, [.ended runner (.ok verdict)])

/-- An iteration that a failure escapes from. A loop logs it and goes on, unless it is a
cancellation. -/
def abort (lane : Lane) (now : Rat) (runner : Runner) (failure : Failure) : Lane × List Effect :=
  if failure.isCancellation then (lane.remove runner, [.ended runner (.error failure)])
  else
    (lane.rest now runner,
      .ended runner (.error failure) :: match runner with
        | .loop => [.log lane.probe.loopFailureLog]
        | .trigger _ => [])

/-- Hands a verdict to the reporter. Once the pools are closed the attempt fails at once. -/
def report (lane : Lane) (closed : Bool) (now : Rat) (runner : Runner) (verdict : Verdict) :
    Lane × List Effect :=
  let log := .log (lane.probe.verdictLog verdict)
  if closed then
    let (lane, effects) := lane.finish now runner verdict
    (lane, log :: .log lane.probe.reportFailureLog :: effects)
  else
    let fault := lane.script.reportFault lane.reports now
    let lasts := lane.script.reportDelay + lane.script.reportLag lane.reports now
    let ends := if fault.any (·.isLost) then none else some (now + later lasts 0)
    ({ lane with reports := lane.reports + 1 }.setPhase runner (.reporting verdict fault ends),
      [log, .reported verdict.status fault.isNone])

def conclude (lane : Lane) (closed : Bool) (now : Rat) (runner : Runner)
    (outcome : Except Failure Verdict) : Lane × List Effect :=
  match lane.probe.conclude outcome with
  | .ok verdict => lane.report closed now runner verdict
  | .error failure => lane.abort now runner failure

def startCheck (lane : Lane) (now : Rat) : Lane :=
  let run := lane.script.check lane.calls
  { lane with
    calls := lane.calls + 1
    running := lane.running ++
      [⟨lane.calls, run.delay.map fun delay => now + later delay 0, run.outcome⟩] }

/-- The start of an iteration: it starts a check unless the last one still runs. A timeout that is
not positive expires at once. -/
def begin (lane : Lane) (closed : Bool) (now : Rat) (runner : Runner) : Lane × List Effect :=
  if lane.isBusy then
    let (lane, effects) := lane.report closed now runner stillRunning
    (lane, .began runner :: effects)
  else if closed then
    let (lane, effects) := lane.abort now runner poolsClosed
    (lane, .began runner :: effects)
  else
    let call := lane.calls
    let lane := lane.startCheck now
    let started := [.began runner, .checkStarted call]
    match lane.probe.timeout with
    | none => (lane.setPhase runner (.checking call none), started)
    | some seconds =>
      if seconds ≤ 0 then
        let (lane, effects) := lane.report closed now runner (timedOut seconds)
        (lane, started ++ effects)
      else (lane.setPhase runner (.checking call (some (now + seconds))), started)

def awaiting? (lane : Lane) (call : Nat) : Option Runner :=
  lane.runners.findSome? fun (runner, phase) =>
    match phase with
    | .checking c _ => if c = call then some runner else none
    | _ => none

def passOn (lane : Lane) (closed : Bool) (now : Rat) (call : Nat)
    (outcome : Except Failure Verdict) : Lane × List Effect :=
  match lane.awaiting? call with
  | some runner => lane.conclude closed now runner outcome
  | none => (lane, [])

def lateLogs : Except Failure Verdict → List Effect
  | .ok _ => []
  | .error failure => [.log (lateFailureLog failure)]

def drop (lane : Lane) (call : Nat) : Lane :=
  { lane with running := lane.running.filter (·.call ≠ call) }

/-- The end of a check. A probe whose check is lost goes on waiting for it. -/
def endCheck (lane : Lane) (closed : Bool) (now : Rat) (call : Nat) : Lane × List Effect :=
  match lane.running.find? (·.call = call) with
  | none => (lane, [])
  | some check =>
    let ended := .checkEnded call check.outcome
    if loses check.outcome then ({ lane.drop call with lost := true }, [ended])
    else
      let (lane, effects) := (lane.drop call).passOn closed now call check.outcome
      (lane, ended :: lateLogs check.outcome ++ effects)

/-- The end of a report. Its failure is logged, but a cancellation passes. -/
def endReport (lane : Lane) (now : Rat) (runner : Runner) (verdict : Verdict) :
    Option Failure → Lane × List Effect
  | none => lane.finish now runner verdict
  | some fault =>
    if fault.isCancellation then lane.abort now runner fault
    else
      let (lane, effects) := lane.finish now runner verdict
      (lane, .log lane.probe.reportFailureLog :: effects)

/-- What an event does at an instant. An event that the lane is not waiting for does nothing. -/
def fire (lane : Lane) (closed : Bool) (now : Rat) : Event → Lane × List Effect
  | .begins runner =>
    match lane.phase? runner with
    | some (.queued _) | some (.sleeping _) => lane.begin closed now runner
    | _ => (lane, [])
  | .checkEnds call => lane.endCheck closed now call
  | .expires runner =>
    match lane.phase? runner, lane.probe.timeout with
    | some (.checking _ (some _)), some seconds =>
      lane.report closed now runner (timedOut seconds)
    | _, _ => (lane, [])
  | .reportEnds runner =>
    match lane.phase? runner with
    | some (.reporting verdict fault (some _)) => lane.endReport now runner verdict fault
    | _ => (lane, [])

end Lane

end Liveness.Scheduler
