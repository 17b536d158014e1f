import Liveness.Time.Calendar
import Mathlib

/-!
The count of days and the calendar are inverse to each other, for all years:

* `Date.toDays_ofDays`, `Date.ofDays_isValid`: every count of days is the count of a valid date;
* `Date.ofDays_toDays`: a valid date is found again from its count of days;
* `Date.toDays_lt_toDays_iff`: the count of days orders valid dates by year, month and day;
* `Date.ofDays_succ`: one day more in the count is the next day of the calendar.
-/

namespace Liveness.Time

/-! ## Years -/

def daysInYear (year : Int) : Nat := if isLeapYear year then 366 else 365

theorem daysBeforeYear_succ (year : Int) :
    daysBeforeYear (year + 1) = daysBeforeYear year + daysInYear year := by
  simp only [daysBeforeYear, daysInYear, isLeapYear, Bool.and_eq_true, Bool.or_eq_true,
    decide_eq_true_eq]
  split <;> omega

theorem daysBeforeYear_mono {a b : Int} (h : a ≤ b) : daysBeforeYear a ≤ daysBeforeYear b := by
  simp only [daysBeforeYear]
  omega

theorem yearOfDay_bounds (day : Int) :
    daysBeforeYear (yearOfDay day) ≤ day ∧ day < daysBeforeYear (yearOfDay day + 1) := by
  have near : daysBeforeYear (400 * day / 146097) ≤ day ∧
      day < daysBeforeYear (400 * day / 146097 + 1 + 1 + 1) := by
    simp only [daysBeforeYear]
    omega
  simp only [yearOfDay]
  generalize 400 * day / 146097 = mean at near ⊢
  split
  · rename_i below
    rw [show mean + 1 - 1 = mean by omega]
    exact ⟨near.1, below⟩
  · split
    · rename_i above
      exact ⟨above, near.2⟩
    · rename_i below above
      exact ⟨not_lt.mp below, not_le.mp above⟩

/-! ## Months -/

theorem daysBeforeMonth_succ (year : Int) {month : Nat} (h : 1 ≤ month) :
    daysBeforeMonth year (month + 1) = daysBeforeMonth year month + daysInMonth year month := by
  obtain ⟨m, rfl⟩ := Nat.exists_eq_add_of_le' h
  simp [daysBeforeMonth, List.range_succ]

theorem daysBeforeMonth_thirteen (year : Int) : daysBeforeMonth year 13 = daysInYear year := by
  simp only [daysInYear]
  by_cases leap : isLeapYear year <;>
    simp [daysBeforeMonth, daysInMonth, List.range_succ, leap]

theorem daysBeforeMonth_mono (year : Int) {a b : Nat} (one : 1 ≤ a) (h : a ≤ b) :
    daysBeforeMonth year a ≤ daysBeforeMonth year b := by
  induction b, h using Nat.le_induction with
  | base => exact le_rfl
  | succ b ab ih =>
      rw [daysBeforeMonth_succ year (one.trans ab)]
      omega

namespace Date

theorem monthFrom_spec (year : Int) (month rest steps : Nat) (one : 1 ≤ month)
    (ends : month + steps = 12)
    (within : daysBeforeMonth year month + rest < daysBeforeMonth year 13) :
    let found := monthFrom year month rest steps
    1 ≤ found.1 ∧ found.1 ≤ 12 ∧ 1 ≤ found.2 ∧ found.2 ≤ daysInMonth year found.1 ∧
      daysBeforeMonth year found.1 + found.2 = daysBeforeMonth year month + rest + 1 := by
  -- What a search for the month preserves: days before the month it stands at, and days left.
  induction steps generalizing month rest with
  | zero =>
      obtain rfl : month = 12 := by omega
      have next : daysBeforeMonth year 13 = _ := daysBeforeMonth_succ year (show 1 ≤ 12 by omega)
      simp only [monthFrom]
      omega
  | succ steps ih =>
      simp only [monthFrom]
      split
      · rename_i short
        simp only
        omega
      · rename_i long
        have next := daysBeforeMonth_succ year one
        have found :=
          ih (month + 1) (rest - daysInMonth year month) (by omega) (by omega) (by omega)
        simp only at found ⊢
        omega

theorem ofDays_spec (days : Int) :
    (ofDays days).year = yearOfDay days ∧ (ofDays days).IsValid ∧
      daysBeforeMonth (yearOfDay days) (ofDays days).month + (ofDays days).day =
        (days - daysBeforeYear (yearOfDay days)).toNat + 1 := by
  obtain ⟨least, greatest⟩ := yearOfDay_bounds days
  rw [daysBeforeYear_succ] at greatest
  have within : daysBeforeMonth (yearOfDay days) 1 +
      (days - daysBeforeYear (yearOfDay days)).toNat < daysBeforeMonth (yearOfDay days) 13 := by
    rw [daysBeforeMonth_thirteen]
    simp only [daysBeforeMonth, Nat.sub_self, List.range_zero, List.map_nil, List.foldl_nil]
    omega
  obtain ⟨one, twelve, first, last, place⟩ := monthFrom_spec _ 1 _ 11 le_rfl rfl within
  refine ⟨rfl, ⟨one, twelve, first, last⟩, ?_⟩
  simpa [ofDays, daysBeforeMonth] using place

theorem ofDays_isValid (days : Int) : (ofDays days).IsValid := (ofDays_spec days).2.1

theorem ofDays_year (days : Int) : (ofDays days).year = yearOfDay days := (ofDays_spec days).1

theorem toDays_ofDays (days : Int) : (ofDays days).toDays = days := by
  obtain ⟨year, -, place⟩ := ofDays_spec days
  have least := (yearOfDay_bounds days).1
  rw [toDays, year]
  omega

/-! ## The order of dates -/

theorem dayOfYear_lt {date : Date} (valid : date.IsValid) :
    daysBeforeMonth date.year date.month + (date.day - 1) < daysInYear date.year := by
  obtain ⟨one, twelve, first, last⟩ := valid
  have next := daysBeforeMonth_succ date.year one
  have within :=
    daysBeforeMonth_mono date.year (b := 13) (show 1 ≤ date.month + 1 by omega) (by omega)
  rw [daysBeforeMonth_thirteen] at within
  omega

theorem toDays_lt_of_year_lt {a b : Date} (va : a.IsValid) (vb : b.IsValid) (h : a.year < b.year) :
    a.toDays < b.toDays := by
  have later := daysBeforeYear_mono (show a.year + 1 ≤ b.year by omega)
  have inYear := dayOfYear_lt va
  have first := vb.2.2.1
  have firstA := va.2.2.1
  rw [daysBeforeYear_succ] at later
  simp only [toDays]
  omega

theorem toDays_lt_of_month_lt {a b : Date} (va : a.IsValid) (vb : b.IsValid)
    (year : a.year = b.year) (h : a.month < b.month) : a.toDays < b.toDays := by
  obtain ⟨one, -, first, last⟩ := va
  have later := daysBeforeMonth_mono b.year (show 1 ≤ a.month + 1 by omega)
    (show a.month + 1 ≤ b.month by omega)
  have firstB := vb.2.2.1
  rw [daysBeforeMonth_succ b.year one] at later
  rw [year] at last
  simp only [toDays, year]
  omega

theorem toDays_lt_toDays_iff {a b : Date} (va : a.IsValid) (vb : b.IsValid) :
    a.toDays < b.toDays ↔ a.year < b.year ∨ a.year = b.year ∧
      (a.month < b.month ∨ a.month = b.month ∧ a.day < b.day) := by
  -- Days are counted in the order of years, then months, then days of a month.
  rcases lt_trichotomy a.year b.year with lt | year | gt
  · simp [toDays_lt_of_year_lt va vb lt, lt]
  · rcases lt_trichotomy a.month b.month with lt | month | gt
    · simp [toDays_lt_of_month_lt va vb year lt, year, lt]
    · have firstA := va.2.2.1
      simp only [toDays, year, month, true_and]
      omega
    · have := toDays_lt_of_month_lt vb va year.symm gt
      omega
  · have := toDays_lt_of_year_lt vb va gt
    omega

theorem eq_of_toDays_eq {a b : Date} (va : a.IsValid) (vb : b.IsValid)
    (h : a.toDays = b.toDays) : a = b := by
  have forward := toDays_lt_toDays_iff va vb
  have backward := toDays_lt_toDays_iff vb va
  cases a
  cases b
  simp only [mk.injEq] at *
  omega

theorem ofDays_toDays {date : Date} (valid : date.IsValid) : ofDays date.toDays = date :=
  eq_of_toDays_eq (ofDays_isValid _) valid (toDays_ofDays _)

/-! ## From day to day -/

def next (date : Date) : Date :=
  if date.day < daysInMonth date.year date.month then ⟨date.year, date.month, date.day + 1⟩
  else if date.month < 12 then ⟨date.year, date.month + 1, 1⟩
  else ⟨date.year + 1, 1, 1⟩

theorem one_le_daysInMonth (year : Int) (month : Nat) : 1 ≤ daysInMonth year month := by
  unfold daysInMonth
  split
  · split <;> decide
  all_goals decide

theorem next_isValid {date : Date} (valid : date.IsValid) : date.next.IsValid := by
  obtain ⟨one, twelve, first, last⟩ := valid
  unfold next
  split
  next within => exact ⟨one, twelve, Nat.le_add_left 1 _, within⟩
  split
  next within => exact ⟨Nat.le_add_left 1 _, within, le_rfl, one_le_daysInMonth ..⟩
  next => exact ⟨le_rfl, show 1 ≤ 12 by decide, le_rfl, one_le_daysInMonth ..⟩

theorem daysBeforeMonth_one (year : Int) : daysBeforeMonth year 1 = 0 := rfl

theorem toDays_next {date : Date} (valid : date.IsValid) : date.next.toDays = date.toDays + 1 := by
  obtain ⟨one, twelve, first, last⟩ := valid
  have month := daysBeforeMonth_succ date.year one
  unfold next
  split
  next =>
      simp only [toDays]
      omega
  next full =>
  split
  next =>
      simp only [toDays, month]
      omega
  next ends =>
      obtain december : date.month = 12 := by omega
      rw [december] at full last month
      rw [daysBeforeMonth_thirteen] at month
      simp only [toDays, december, daysBeforeYear_succ, daysBeforeMonth_one]
      omega

theorem ofDays_succ (days : Int) : ofDays (days + 1) = (ofDays days).next := by
  have valid := ofDays_isValid days
  apply eq_of_toDays_eq (ofDays_isValid _) (next_isValid valid)
  rw [toDays_ofDays, toDays_next valid, toDays_ofDays]

theorem iterate_next_ofDays (days : Int) (count : Nat) :
    next^[count] (ofDays days) = ofDays (days + count) := by
  induction count with
  | zero => simp
  | succ count ih =>
      rw [Function.iterate_succ_apply', ih, ← ofDays_succ]
      congr 1
      push_cast
      omega

/-- One date lies so many days after another: stepping from day to day, from the first one to the
second when the number is positive, and back from the second one when it is negative. -/
def LiesAfter (date : Date) (days : Int) (other : Date) : Prop :=
  next^[days.toNat] other = next^[(-days).toNat] date

theorem liesAfter_ofDays (start days : Int) :
    (ofDays (start + days)).LiesAfter days (ofDays start) := by
  rw [LiesAfter, iterate_next_ofDays, iterate_next_ofDays]
  congr 1
  omega

theorem LiesAfter.toDays_eq {date other : Date} {days : Int} (lies : date.LiesAfter days other)
    (valid : date.IsValid) (valid' : other.IsValid) : date.toDays = other.toDays + days := by
  rw [LiesAfter, ← ofDays_toDays valid, ← ofDays_toDays valid', iterate_next_ofDays,
    iterate_next_ofDays] at lies
  have same := congrArg toDays lies
  rw [toDays_ofDays, toDays_ofDays] at same
  omega

end Date

end Liveness.Time
