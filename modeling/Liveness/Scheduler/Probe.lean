import Liveness.Failure
import Liveness.Numeric.Decimal
import Liveness.Verdict

namespace Liveness.Scheduler

structure Probe where
  name : String
  interval : Rat := 60
  timeout : Option Rat := none

def stillRunning : Verdict := .error "previous check still running"

def timedOut (seconds : Rat) : Verdict :=
  .error s!"check timed out after {Numeric.briefText seconds}s"

def untoldTimeout : Failure :=
  .of .type "unsupported format string passed to NoneType.__format__"

def poolsClosed : Failure := .of .runtime "cannot schedule new futures after shutdown"

def loses : Except Failure Verdict → Bool
  | .ok _ => false
  | .error failure => failure.isLost

namespace Probe

/-- The verdict that an outcome stands for. A failure that is itself an expired wait counts as a
timeout of the probe, and a cancellation passes. -/
def conclude (probe : Probe) (outcome : Except Failure Verdict) : Except Failure Verdict :=
  match outcome with
  | .ok verdict => .ok verdict
  | .error failure =>
    if failure.isTimeout then
      match probe.timeout with
      | some seconds => .ok (timedOut seconds)
      | none => .error untoldTimeout
    else if failure.isCancellation then .error failure
    else .ok (.error failure.headline)

def verdictLog (probe : Probe) (verdict : Verdict) : LogEntry :=
  if verdict.ok then ⟨.debug, s!"Probe {probe.name}: {okStatus}"⟩
  else ⟨.error, s!"Probe {probe.name}: {verdict.message}"⟩

def reportFailureLog (probe : Probe) : LogEntry :=
  ⟨.error, s!"Failed to report status for {probe.name}"⟩

def loopFailureLog (probe : Probe) : LogEntry := ⟨.error, s!"Probe loop error: {probe.name}"⟩

def closeFailureLog (probe : Probe) : LogEntry := ⟨.error, s!"Error closing probe {probe.name}"⟩

end Probe

def lateFailureLog (failure : Failure) : LogEntry :=
  ⟨.debug, s!"Late check failure: {failure.shown}"⟩

end Liveness.Scheduler
