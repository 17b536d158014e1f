import Liveness.Failure
import Liveness.Numeric.Decimal
import Liveness.Text.Digit
import Liveness.Time.Instant

namespace Liveness.Yaml

open Time (Date WallTime)

structure TimestampText where
  year : Nat
  month : List Char
  day : List Char
  clock : Option (Nat × Nat × Nat × List Char) := none
  offset : Option Int := none

namespace TimestampText

def number (digits : List Char) : Nat := Text.ofDigits 10 (digits.filterMap Text.asciiDigit?)

def takeShort? (cs : List Char) : Option (List Char × List Char) :=
  match cs with
  | a :: b :: rest =>
    if Text.isAsciiDigit a then
      if Text.isAsciiDigit b then some ([a, b], rest) else some ([a], b :: rest)
    else none
  | [a] => if Text.isAsciiDigit a then some ([a], []) else none
  | [] => none

def takeDigits? (n : Nat) (cs : List Char) : Option (List Char × List Char) :=
  let digits := cs.take n
  if digits.length = n ∧ digits.all Text.isAsciiDigit then some (digits, cs.drop n) else none

def expect? (char : Char) (cs : List Char) : Option (List Char) :=
  match cs with
  | c :: rest => if c = char then some rest else none
  | [] => none

def isGap (c : Char) : Bool := c = ' ' || c = '\t'

def skipMiddle? (cs : List Char) : Option (List Char) :=
  match cs with
  | c :: rest =>
    if c = 'T' ∨ c = 't' then some rest else if isGap c then some (rest.dropWhile isGap) else none
  | [] => none

def offset? (cs : List Char) : Option Int :=
  match cs with
  | ['Z'] => some 0
  | sign :: rest =>
    if sign = '+' ∨ sign = '-' then do
      let (hours, rest) ← takeShort? rest
      let minutes ← match rest with
        | [] => some 0
        | ':' :: more => do
          let (digits, rest) ← takeDigits? 2 more
          if rest.isEmpty then some (number digits) else none
        | _ => none
      let total : Int := number hours * 60 + minutes
      return if sign = '-' then -total else total
    else none
  | [] => none

def read? (text : List Char) : Option TimestampText := do
  let (year, rest) ← takeDigits? 4 text
  let (month, rest) ← takeShort? (← expect? '-' rest)
  let (day, rest) ← takeShort? (← expect? '-' rest)
  let date : TimestampText := { year := number year, month := month, day := day }
  if rest.isEmpty then return date
  let (hour, rest) ← takeShort? (← skipMiddle? rest)
  let (minute, rest) ← takeDigits? 2 (← expect? ':' rest)
  let (second, rest) ← takeDigits? 2 (← expect? ':' rest)
  let (fraction, rest) := match rest with
    | '.' :: more => more.span Text.isAsciiDigit
    | _ => ([], rest)
  let timed := { date with clock := some (number hour, number minute, number second, fraction) }
  if rest.isEmpty then return timed
  let offset ← offset? (rest.dropWhile isGap)
  return { timed with offset := some offset }

/-- Whether a plain scalar of this look is taken for a time: a date alone has two digits each for
month and day. -/
def isPlain (t : TimestampText) : Bool :=
  t.clock.isSome || (t.month.length = 2 && t.day.length = 2)

def micros (fraction : List Char) : Nat :=
  let digits := fraction.take 6
  number digits * Nat.pow 10 (6 - digits.length)

end TimestampText

def spanText (minutes : Int) : String :=
  let days := minutes.fdiv 1440
  let seconds := minutes.fmod 1440 * 60
  let parts := (if days = 0 then [] else [s!"days={days}"]) ++
    if seconds = 0 then [] else [s!"seconds={seconds}"]
  "datetime.timedelta(" ++ ", ".intercalate (if parts.isEmpty then ["0"] else parts) ++ ")"

def dateOf (year month day : Nat) : Except Failure Date :=
  let date : Date := ⟨year, month, day⟩
  if year = 0 then .error (.of .value "year 0 is out of range")
  else if month = 0 ∨ 12 < month then .error (.of .value "month must be in 1..12")
  else if ¬ date.IsValid then .error (.of .value "day is out of range for month")
  else .ok date

def wallOf (date : Date) (hour minute second micro : Nat) : Except Failure WallTime :=
  if 24 ≤ hour then .error (.of .value "hour must be in 0..23")
  else if 60 ≤ minute then .error (.of .value "minute must be in 0..59")
  else if 60 ≤ second then .error (.of .value "second must be in 0..59")
  else .ok ⟨date, hour, minute, second, micro⟩

def checkOffset (minutes : Int) : Except Failure Unit :=
  if minutes.natAbs < 1440 then .ok ()
  else .error (.of .value ("offset must be a timedelta strictly between " ++
    s!"-timedelta(hours=24) and timedelta(hours=24), not {spanText minutes}."))

def dateText (d : Date) : String :=
  Numeric.padLeft 4 d.year.toNat ++ "-" ++ Numeric.padLeft 2 d.month ++ "-" ++
    Numeric.padLeft 2 d.day

/-- `2025-06-01 12:00:00.500000+02:00`; a fraction of zero is left out. -/
def timeText (w : WallTime) (offset : Option Int) : String :=
  dateText w.date ++ " " ++ Numeric.padLeft 2 w.hour ++ ":" ++ Numeric.padLeft 2 w.minute ++ ":" ++
    Numeric.padLeft 2 w.second ++ (if w.micro = 0 then "" else "." ++ Numeric.padLeft 6 w.micro) ++
    (offset.map fun minutes => Time.Moment.offsetText (minutes * 60)).getD ""

def dateArguments (d : Date) : String := s!"{d.year}, {d.month}, {d.day}"

def dateShown (d : Date) : String := s!"datetime.date({dateArguments d})"

def zoneShown (minutes : Int) : String :=
  if minutes = 0 then "datetime.timezone.utc" else s!"datetime.timezone({spanText minutes})"

def timeShown (w : WallTime) (offset : Option Int) : String :=
  let tail :=
    if w.micro ≠ 0 then s!", {w.second}, {w.micro}"
    else if w.second ≠ 0 then s!", {w.second}" else ""
  s!"datetime.datetime({dateArguments w.date}, {w.hour}, {w.minute}{tail}" ++
    (offset.map fun minutes => ", tzinfo=" ++ zoneShown minutes).getD "" ++ ")"

end Liveness.Yaml
