import Liveness.Scheduler.Probe

namespace Liveness.Scheduler

def later (a b : Rat) : Rat := if a ≤ b then b else a

structure CheckRun where
  /-- Seconds until the outcome arrives; a check without never ends. -/
  delay : Option Rat := some 0
  outcome : Except Failure Verdict := .ok .healthy

inductive Closer where
  | absent
  | call (fault : Option Failure)

structure Script where
  check : Nat → CheckRun
  /-- The failure of a report, by how many were handed over before, and by its time. -/
  reportFault : Nat → Rat → Option Failure := fun _ _ => none
  reportDelay : Rat := 0
  reportLag : Nat → Rat → Rat := fun _ _ => 0
  closer : Closer := .absent

def repeatLast {α : Type} (default : α) (entries : List α) (n : Nat) : α :=
  (entries[n]?).getD (entries.getLast?.getD default)

end Liveness.Scheduler
