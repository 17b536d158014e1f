import Liveness.Numeric.Decimal

namespace Liveness.Time

structure Duration where
  micros : Int
deriving DecidableEq, Inhabited

namespace Duration

def ofSeconds (seconds : Int) : Duration := ⟨seconds * 1000000⟩

def ofMinutes (minutes : Int) : Duration := ofSeconds (minutes * 60)

def ofDays (days : Int) : Duration := ofSeconds (days * 86400)

def seconds (d : Duration) : Numeric.Binary64 :=
  Numeric.Binary64.ofRatio (d.micros < 0) d.micros.natAbs 1000000

def ageSeconds (d : Duration) : Nat :=
  (d.seconds.truncate?.getD 0).toNat

def ageText (d : Duration) : String :=
  let total := d.ageSeconds
  let hours := total / 3600
  let minutes := total % 3600 / 60
  let secs := total % 60
  if hours = 0 then s!"{minutes}m{secs}s" else s!"{hours}h{minutes}m{secs}s"

def wholeMinutes (d : Duration) : Int :=
  (d.seconds.floor?.getD 0).fdiv 60

def minutesText (d : Duration) : String := s!"{d.wholeMinutes} minutes"

/-- Days, then hours, minutes and seconds of the rest, with a fraction only when there is one. -/
def toText (d : Duration) : String :=
  let days := d.micros.fdiv 86400000000
  let rest := (d.micros.fmod 86400000000).toNat
  let secs := rest / 1000000
  let fraction := rest % 1000000
  let dayText :=
    if days = 0 then "" else if days.natAbs = 1 then s!"{days} day, " else s!"{days} days, "
  dayText ++ s!"{secs / 3600}:" ++ Numeric.padLeft 2 (secs % 3600 / 60) ++ ":" ++
    Numeric.padLeft 2 (secs % 60) ++
    if fraction = 0 then "" else "." ++ Numeric.padLeft 6 fraction

end Duration

end Liveness.Time
