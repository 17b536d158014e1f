import Liveness.Text.Digit
import Liveness.Text.Quoted
import Liveness.Time.Instant

namespace Liveness.Time.Timestamp

/-- The text of an instant. The year has no zeros on its left. -/
def ofInstant (t : Instant) : String :=
  toString t.year ++ t.toWall.afterYear ++ "Z"

def write (m : Moment) : Except TimeFault String :=
  m.toInstant.map ofInstant

inductive ReadFault where
  | mismatch (text : String)
  | extra (rest : String)
  | yearZero
  | dayOutOfMonth
  | secondOutOfRange
deriving DecidableEq

def ReadFault.message : ReadFault → String
  | .mismatch text =>
    s!"time data {Text.quoted text} does not match format '%Y-%m-%dT%H:%M:%S.%fZ'"
  | .extra rest => s!"unconverted data remains: {rest}"
  | .yearZero => "year 0 is out of range"
  | .dayOutOfMonth => "day is out of range for month"
  | .secondOutOfRange => "second must be in 0..59"

/-- All ways to read a value from the start of a text, the preferred one first. -/
abbrev Reader (α : Type) := List Char → List (α × List Char)

namespace Reader

def andThen {α β γ : Type} (combine : α → β → γ) (first : Reader α) (second : Reader β) :
    Reader γ := fun cs =>
  (first cs).flatMap fun (a, rest) => (second rest).map fun (b, more) => (combine a b, more)

def orElse {α : Type} (first second : Reader α) : Reader α := fun cs => first cs ++ second cs

def satisfying {α : Type} (value? : Char → Option α) : Reader α
  | [] => []
  | c :: rest => match value? c with
    | some a => [(a, rest)]
    | none => []

def oneOf (chars : List Char) : Reader Unit :=
  satisfying fun c => if chars.contains c then some () else none

def before {α : Type} (first : Reader α) (chars : List Char) : Reader α :=
  andThen (fun a _ => a) first (oneOf chars)

def digitFrom (least greatest : Nat) : Reader Nat :=
  satisfying fun c => (Text.asciiDigit? c).filter fun d => least ≤ d ∧ d ≤ greatest

def anyDigit : Reader Nat := satisfying Text.decimalDigit?

def pair (tens units : Reader Nat) : Reader Nat := andThen (fun t u => 10 * t + u) tens units

end Reader

open Reader

def year : Reader Nat := pair (pair (pair anyDigit anyDigit) anyDigit) anyDigit

def month : Reader Nat :=
  orElse (pair (digitFrom 1 1) (digitFrom 0 2))
    (orElse (pair (digitFrom 0 0) (digitFrom 1 9)) (digitFrom 1 9))

def day : Reader Nat :=
  orElse (pair (digitFrom 3 3) (digitFrom 0 1))
    (orElse (pair (digitFrom 1 2) anyDigit)
      (orElse (pair (digitFrom 0 0) (digitFrom 1 9))
        (orElse (digitFrom 1 9) (andThen (fun _ d => d) (oneOf [' ']) (digitFrom 1 9)))))

def hour : Reader Nat :=
  orElse (pair (digitFrom 2 2) (digitFrom 0 3)) (orElse (pair (digitFrom 0 1) anyDigit) anyDigit)

def minute : Reader Nat := orElse (pair (digitFrom 0 5) anyDigit) anyDigit

def second : Reader Nat := orElse (pair (digitFrom 6 6) (digitFrom 0 1)) minute

def fraction : Reader Nat := fun cs =>
  let digits := ((cs.take 6).takeWhile Text.isAsciiDigit).filterMap Text.asciiDigit?
  if digits.isEmpty then []
  else [(Text.ofDigits 10 digits * Nat.pow 10 (6 - digits.length), cs.drop digits.length)]

def date : Reader Date :=
  andThen (fun (y : Nat) (monthDay : Nat × Nat) => ⟨y, monthDay.1, monthDay.2⟩) (year.before ['-'])
    (andThen Prod.mk (month.before ['-']) (day.before ['T', 't']))

def clock : Reader (Nat × Nat × Nat × Nat) :=
  andThen Prod.mk (hour.before [':'])
    (andThen Prod.mk (minute.before [':'])
      (andThen Prod.mk (second.before ['.']) (fraction.before ['Z', 'z'])))

def form : Reader WallTime :=
  andThen (fun d (time : Nat × Nat × Nat × Nat) =>
    ⟨d, time.1, time.2.1, time.2.2.1, time.2.2.2⟩) date clock

def readChars (text : List Char) : Except ReadFault Instant :=
  match form text with
  | [] => .error (.mismatch (String.ofList text))
  | (wall, rest) :: _ =>
    if ¬ rest.isEmpty then .error (.extra (String.ofList rest))
    else if wall.date.year = 0 then .error .yearZero
    else if ¬ wall.date.IsValid then .error .dayOutOfMonth
    else if 60 ≤ wall.second then .error .secondOutOfRange
    else match Instant.ofMicros? wall.toMicros with
      | some t => .ok t
      | none => .error .yearZero

def read (text : String) : Except ReadFault Instant := readChars text.toList

end Liveness.Time.Timestamp
