import Liveness.Failure
import Liveness.Freshness.Clock
import Liveness.Text.Integer
import Liveness.Verdict

namespace Liveness.Freshness

open Time (Duration Moment)

inductive SecondaryCall where
  | canonicalBlock
  | indexedNumber
  | clock
deriving DecidableEq

structure SecondaryCheck where
  threshold : Duration := .ofMinutes 13
  maxLag : Int := 32

structure SecondaryReadings where
  canonical : Except Failure (Int × Moment)
  indexed : Except Failure Int

structure SecondaryOutcome where
  verdict : Except Failure Verdict
  calls : List SecondaryCall
  clock : Clock

namespace SecondaryCheck

def staleMessage (check : SecondaryCheck) (age : Duration) : String :=
  s!"last block in blocks table is older than {check.threshold.minutesText}: {age.ageText} " ++
    "(check eth1 indexer)"

def lagMessage (lag : String) : String :=
  s!"data table is lagging behind the blocks table by {lag} blocks (check eth1 indexer)"

/-- The verdict on an index that lags; a lag of too many digits cannot be told. -/
def lagVerdict (lag : Int) : Except Failure Verdict :=
  match Text.writeInteger lag with
  | .ok text => .ok (.error (lagMessage text))
  | .error fault => .error (.of .value fault.message)

def indexVerdict (check : SecondaryCheck) (number : Int) (indexed : Except Failure Int) :
    Except Failure Verdict :=
  match indexed with
  | .error failure =>
    .ok (.error ("could not retrieve latest block number from the data table: " ++ failure.text))
  | .ok indexed =>
    if indexed < number - check.maxLag then lagVerdict (number - indexed) else .ok .healthy

def run (check : SecondaryCheck) (readings : SecondaryReadings) (clock : Clock) :
    SecondaryOutcome :=
  match readings.canonical with
  | .error failure =>
    ⟨.ok (.error ("could not retrieve latest block from the blocks table: " ++ failure.text)),
      [.canonicalBlock], clock⟩
  | .ok (number, time) =>
    let (now, clock) := clock.read
    match now.since time with
    | .error fault => ⟨.error fault.toFailure, [.canonicalBlock, .clock], clock⟩
    | .ok age =>
      if check.threshold.micros < age.micros then
        ⟨.ok (.error (check.staleMessage age)), [.canonicalBlock, .clock], clock⟩
      else
        ⟨check.indexVerdict number readings.indexed,
          [.canonicalBlock, .clock, .indexedNumber], clock⟩

end SecondaryCheck

end Liveness.Freshness
