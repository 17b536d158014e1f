import Liveness.Scheduler.Lane

namespace Liveness.Scheduler.Lane

def dueBeginnings (lane : Lane) : List (Rat × Event) :=
  lane.runners.filterMap fun (runner, phase) =>
    match phase with
    | .queued since => some (since, .begins runner)
    | _ => none

def dueChecks (lane : Lane) : List (Rat × Event) :=
  lane.running.filterMap fun check => check.ends.map fun ends => (ends, .checkEnds check.call)

def dueContinuations (lane : Lane) : List (Rat × Event) :=
  lane.runners.filterMap fun (runner, phase) =>
    match phase with
    | .queued _ => none
    | .checking _ deadline => deadline.map fun ends => (ends, .expires runner)
    | .reporting _ _ ends => ends.map fun ends => (ends, .reportEnds runner)
    | .sleeping ends => some (ends, .begins runner)

def earliest? : List (Rat × Event) → Option (Rat × Event)
  | [] => none
  | entry :: rest =>
    some (rest.foldl (fun best next => if next.1 < best.1 then next else best) entry)

def next? (lane : Lane) : Option (Rat × Event) :=
  earliest? (lane.dueBeginnings ++ lane.dueChecks ++ lane.dueContinuations)

def runWhile (closed : Bool) (allowed : Rat → Bool) : Nat → Lane → Lane × List (Rat × Effect)
  | 0, lane => (lane, [])
  | fuel + 1, lane =>
    match lane.next? with
    | none => (lane, [])
    | some (time, event) =>
      if allowed time then
        let (after, effects) := lane.fire closed time event
        let (final, later) := runWhile closed allowed fuel after
        (final, effects.map (fun effect => (time, effect)) ++ later)
      else (lane, [])

def returned? (ticket : Nat) (effects : List Effect) : Option (Except Failure Verdict) :=
  effects.findSome? fun effect =>
    match effect with
    | .ended (.trigger t) result => if t = ticket then some result else none
    | _ => none

/-- When the iteration of a trigger ends, and how; `none` if it does not within `fuel` events. -/
def outcomeOf? (closed : Bool) (ticket : Nat) : Nat → Lane → Option (Rat × Except Failure Verdict)
  | 0, _ => none
  | fuel + 1, lane =>
    match lane.next? with
    | none => none
    | some (time, event) =>
      let (after, effects) := lane.fire closed time event
      match returned? ticket effects with
      | some result => some (time, result)
      | none => outcomeOf? closed ticket fuel after

end Liveness.Scheduler.Lane
