import Liveness.Time.Instant

namespace Liveness

structure Chain where
  genesis : Int := 1606824023
  secondsPerSlot : Int := 12
  slotsPerEpoch : Int := 32
deriving DecidableEq, Inhabited

namespace Chain

def slotSeconds (chain : Chain) (slot : Int) : Int :=
  chain.genesis + slot * chain.secondsPerSlot

def slotTime (chain : Chain) (slot : Int) : Except Time.TimeFault Time.Instant :=
  Time.Instant.ofSeconds (chain.slotSeconds slot) 0

def epochTime (chain : Chain) (epoch : Int) : Except Time.TimeFault Time.Instant :=
  chain.slotTime (epoch * chain.slotsPerEpoch)

end Chain

end Liveness
