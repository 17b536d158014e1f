import Liveness.Time.Instant

namespace Liveness.Freshness

structure Clock where
  next : Time.Moment
  later : List Time.Moment := []
deriving Inhabited

def Clock.read (clock : Clock) : Time.Moment × Clock :=
  match clock.later with
  | [] => (clock.next, clock)
  | m :: rest => (clock.next, ⟨m, rest⟩)

end Liveness.Freshness
