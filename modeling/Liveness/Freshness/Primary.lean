import Liveness.Chain
import Liveness.Freshness.Clock
import Liveness.Verdict

namespace Liveness.Freshness

open Time (Duration Moment)

inductive PrimaryQuantity where
  | attestationSlot
  | blockSlot
  | epoch
deriving DecidableEq

namespace PrimaryQuantity

def inOrder : List PrimaryQuantity := [.attestationSlot, .blockSlot, .epoch]

def label : PrimaryQuantity → String
  | .attestationSlot => "max attestation slot"
  | .blockSlot => "max slot in blocks table"
  | .epoch => "max epoch in epochs table"

def time (chain : Chain) : PrimaryQuantity → Int → Except Time.TimeFault Time.Instant
  | .attestationSlot, n | .blockSlot, n => chain.slotTime n
  | .epoch, n => chain.epochTime n

end PrimaryQuantity

inductive PrimaryCall where
  | read (quantity : PrimaryQuantity)
  | clock
deriving DecidableEq

structure PrimaryCheck where
  chain : Chain
  threshold : Duration := .ofMinutes 15

abbrev PrimaryReadings := PrimaryQuantity → Except Failure Int

structure PrimaryOutcome where
  verdict : Except Failure Verdict
  calls : List PrimaryCall
  clock : Clock

namespace PrimaryCheck

def age (check : PrimaryCheck) (quantity : PrimaryQuantity) (n : Int) (now : Moment) :
    Except Failure Duration := do
  let began ← (quantity.time check.chain n).mapError Time.TimeFault.toFailure
  (now.since began).mapError Time.TimeFault.toFailure

def staleMessage (check : PrimaryCheck) (quantity : PrimaryQuantity) (age : Duration) : String :=
  s!"{quantity.label} is older than {check.threshold.minutesText}: {age.ageText}"

def runFrom (check : PrimaryCheck) (readings : PrimaryReadings) (clock : Clock) :
    List PrimaryQuantity → PrimaryOutcome
  | [] => ⟨.ok .healthy, [], clock⟩
  | quantity :: rest =>
    match readings quantity with
    | .error failure =>
       ⟨.ok (.error s!"could not retrieve {quantity.label}: {failure.text}"),
         [.read quantity], clock⟩
    | .ok n =>
      let (now, clock) := clock.read
      let calls := [.read quantity, .clock]
      match check.age quantity n now with
      | .error failure => ⟨.error failure, calls, clock⟩
      | .ok age =>
        if check.threshold.micros < age.micros then
          ⟨.ok (.error (check.staleMessage quantity age)), calls, clock⟩
        else
          let outcome := runFrom check readings clock rest
          { outcome with calls := calls ++ outcome.calls }

def run (check : PrimaryCheck) (readings : PrimaryReadings) (clock : Clock) : PrimaryOutcome :=
  check.runFrom readings clock PrimaryQuantity.inOrder

end PrimaryCheck

end Liveness.Freshness
