namespace Liveness.Time

def isLeapYear (year : Int) : Bool :=
  year % 4 = 0 && (year % 100 ≠ 0 || year % 400 = 0)

def daysBeforeYear (year : Int) : Int :=
  let y := year - 1
  365 * y + y / 4 - y / 100 + y / 400

/-- The year in which a day lies: an estimate by the mean length of a year is off by one at most. -/
def yearOfDay (day : Int) : Int :=
  let estimate := 400 * day / 146097 + 1
  if day < daysBeforeYear estimate then estimate - 1
  else if daysBeforeYear (estimate + 1) ≤ day then estimate + 1
  else estimate

def daysInMonth (year : Int) (month : Nat) : Nat :=
  match month with
  | 2 => if isLeapYear year then 29 else 28
  | 4 | 6 | 9 | 11 => 30
  | _ => 31

def daysBeforeMonth (year : Int) (month : Nat) : Nat :=
  ((List.range (month - 1)).map fun m => daysInMonth year (m + 1)).foldl (· + ·) 0

structure Date where
  year : Int
  month : Nat
  day : Nat
deriving DecidableEq

namespace Date

def IsValid (date : Date) : Prop :=
  1 ≤ date.month ∧ date.month ≤ 12 ∧ 1 ≤ date.day ∧ date.day ≤ daysInMonth date.year date.month

instance (date : Date) : Decidable date.IsValid := by
  unfold IsValid; infer_instance

def toDays (date : Date) : Int :=
  daysBeforeYear date.year + daysBeforeMonth date.year date.month + (date.day - 1)

def monthFrom (year : Int) (month : Nat) (rest : Nat) : Nat → Nat × Nat
  | 0 => (month, rest + 1)
  | steps + 1 =>
    let length := daysInMonth year month
    if rest < length then (month, rest + 1) else monthFrom year (month + 1) (rest - length) steps

def ofDays (days : Int) : Date :=
  let year := yearOfDay days
  let (month, day) := monthFrom year 1 (days - daysBeforeYear year).toNat 11
  ⟨year, month, day⟩

end Date

def epochDay : Int := 719162

end Liveness.Time
