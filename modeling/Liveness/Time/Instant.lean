import Liveness.Failure
import Liveness.Numeric.Decimal
import Liveness.Time.Calendar
import Liveness.Time.Duration

namespace Liveness.Time

def dayMicros : Int := 86400000000

def leastMicros : Int := -62135596800000000

def greatestMicros : Int := 253402300799999999

inductive TimeFault where
  | dateOutOfRange
  | mixedZones
  | secondsOutOfRange
  | yearTooLarge
  | yearOutOfRange (year : Int)
  | notNumber (found : String)
deriving DecidableEq

def TimeFault.toFailure : TimeFault → Failure
  | .dateOutOfRange => .of .overflow "date value out of range"
  | .mixedZones => .of .type "can't subtract offset-naive and offset-aware datetimes"
  | .secondsOutOfRange => .of .overflow "timestamp out of range for platform time_t"
  | .yearTooLarge => ⟨.os, .numbered 75 "Value too large for defined data type"⟩
  | .yearOutOfRange year => .of .value s!"year {year} is out of range"
  | .notNumber found => .of .type s!"'{found}' object cannot be interpreted as an integer"

structure Instant where
  micros : Int
  least_le : leastMicros ≤ micros
  le_greatest : micros ≤ greatestMicros
deriving DecidableEq

instance : Inhabited Instant := ⟨⟨0, by decide, by decide⟩⟩

structure WallTime where
  date : Date
  hour : Nat
  minute : Nat
  second : Nat
  micro : Nat
deriving DecidableEq

namespace WallTime

def ofMicros (micros : Int) : WallTime :=
  let day := micros.fdiv dayMicros
  let rest := (micros.fmod dayMicros).toNat
  let secs := rest / 1000000
  ⟨Date.ofDays (day + epochDay), secs / 3600, secs % 3600 / 60, secs % 60, rest % 1000000⟩

def toMicros (w : WallTime) : Int :=
  (w.date.toDays - epochDay) * dayMicros +
    (((w.hour * 60 + w.minute) * 60 + w.second) * 1000000 + w.micro : Nat)

def afterYear (w : WallTime) : String :=
  "-" ++ Numeric.padLeft 2 w.date.month ++ "-" ++ Numeric.padLeft 2 w.date.day ++ "T" ++
    Numeric.padLeft 2 w.hour ++ ":" ++ Numeric.padLeft 2 w.minute ++ ":" ++
    Numeric.padLeft 2 w.second ++ "." ++ Numeric.padLeft 6 w.micro

def toText (w : WallTime) : String :=
  Numeric.padLeft 4 w.date.year.toNat ++ w.afterYear

end WallTime

namespace Instant

def ofMicros? (micros : Int) : Option Instant :=
  if h : leastMicros ≤ micros ∧ micros ≤ greatestMicros then some ⟨micros, h.1, h.2⟩ else none

def toWall (t : Instant) : WallTime := WallTime.ofMicros t.micros

def year (t : Instant) : Int := t.toWall.date.year

def toText (t : Instant) : String := t.toWall.toText ++ "+00:00"

def leastSeconds : Int := - Int.pow 2 63

def greatestSeconds : Int := Int.pow 2 63 - 1

def ofSeconds (seconds : Int) (micro : Nat) : Except TimeFault Instant :=
  if seconds < leastSeconds ∨ greatestSeconds < seconds then .error .secondsOutOfRange
  else
    let year := yearOfDay (seconds.fdiv 86400 + epochDay)
    if year - 1900 < - Int.pow 2 31 ∨ Int.pow 2 31 ≤ year - 1900 then .error .yearTooLarge
    else
      match ofMicros? (seconds * 1000000 + micro) with
      | some t => .ok t
      | none => .error (.yearOutOfRange year)

/-- The instant a float of seconds after 1970. The fraction is split off first, and rounded to
microseconds with ties to even. -/
def ofFloatSeconds (seconds : Numeric.Binary64) : Except TimeFault Instant :=
  match seconds.toRatio? with
  | none => .error .secondsOutOfRange
  | some (num, den) =>
    let whole := num.tdiv den
    let scaled := Numeric.Binary64.ofRatio (num < 0) ((num.tmod den).natAbs * 1000000) den
    let micro : Int := match scaled.toRatio? with
      | some (n, d) => Numeric.roundIntHalfEven n d
      | none => 0
    if 1000000 ≤ micro then ofSeconds (whole + 1) (micro - 1000000).toNat
    else if micro < 0 then ofSeconds (whole - 1) (micro + 1000000).toNat
    else ofSeconds whole micro.toNat

end Instant

/-- A reading of a clock: the wall time as if it were UTC, and the seconds by which the clock is
ahead of UTC, unless it does not say. -/
structure Moment where
  wall : Instant
  offset : Option Int
deriving DecidableEq

instance : Inhabited Moment := ⟨⟨default, some 0⟩⟩

abbrev Zone := Moment → Instant → Option Int

def Zone.steady : Zone := fun m _ => m.offset

namespace Moment

def ofInstant (t : Instant) : Moment := ⟨t, some 0⟩

instance : Coe Instant Moment := ⟨ofInstant⟩

def utcMicros (m : Moment) : Int := m.wall.micros - m.offset.getD 0 * 1000000

def toInstant (m : Moment) : Except TimeFault Instant :=
  match Instant.ofMicros? m.utcMicros with
  | some t => .ok t
  | none => .error .dateOutOfRange

def since (later earlier : Moment) : Except TimeFault Duration :=
  if later.offset.isSome = earlier.offset.isSome then
    .ok ⟨later.utcMicros - earlier.utcMicros⟩
  else .error .mixedZones

/-- The reading a time before, by the clock's own hands: the zone is asked again. -/
def before (m : Moment) (zone : Zone) (d : Duration) : Except TimeFault Moment :=
  match Instant.ofMicros? (m.wall.micros - d.micros) with
  | some wall => .ok ⟨wall, zone m wall⟩
  | none => .error .dateOutOfRange

def offsetText (offset : Int) : String :=
  let n := offset.natAbs
  (if offset < 0 then "-" else "+") ++ Numeric.padLeft 2 (n / 3600) ++ ":" ++
    Numeric.padLeft 2 (n % 3600 / 60) ++
    if n % 60 = 0 then "" else ":" ++ Numeric.padLeft 2 (n % 60)

def toText (m : Moment) : String :=
  m.wall.toWall.toText ++ (m.offset.map offsetText).getD ""

end Moment

end Liveness.Time
