import Liveness.Proofs.Time.Calendar
import Liveness.Time.Instant

namespace Liveness.Time

namespace WallTime

structure IsValid (w : WallTime) : Prop where
  date : w.date.IsValid
  hour : w.hour < 24
  minute : w.minute < 60
  second : w.second < 60
  micro : w.micro < 1000000

def Before (a b : WallTime) : Prop :=
  a.date.year < b.date.year ∨ a.date.year = b.date.year ∧
    (a.date.month < b.date.month ∨ a.date.month = b.date.month ∧
      (a.date.day < b.date.day ∨ a.date.day = b.date.day ∧
        (a.hour < b.hour ∨ a.hour = b.hour ∧
          (a.minute < b.minute ∨ a.minute = b.minute ∧
            (a.second < b.second ∨ a.second = b.second ∧ a.micro < b.micro)))))

theorem ofMicros_isValid (micros : Int) : (ofMicros micros).IsValid := by
  have rest : (micros.fmod dayMicros).toNat < 86400000000 := by
    rw [Int.fmod_eq_emod_of_nonneg _ (by decide), dayMicros]
    omega
  constructor
  · exact Date.ofDays_isValid _
  all_goals
    simp only [ofMicros]
    omega

theorem toMicros_ofMicros (micros : Int) : (ofMicros micros).toMicros = micros := by
  simp only [toMicros, ofMicros, Date.toDays_ofDays]
  rw [Int.fdiv_eq_ediv_of_nonneg _ (by decide), Int.fmod_eq_emod_of_nonneg _ (by decide), dayMicros]
  omega

theorem toMicros_lt_toMicros_iff {a b : WallTime} (va : a.IsValid) (vb : b.IsValid) :
    a.toMicros < b.toMicros ↔ a.Before b := by
  obtain ⟨dateA, hourA, minuteA, secondA, microA⟩ := va
  obtain ⟨dateB, hourB, minuteB, secondB, microB⟩ := vb
  have dates := Date.toDays_lt_toDays_iff dateA dateB
  have datesBack := Date.toDays_lt_toDays_iff dateB dateA
  simp only [toMicros, Before, dayMicros]
  omega

theorem ofMicros_toMicros {w : WallTime} (valid : w.IsValid) : ofMicros w.toMicros = w := by
  have own := ofMicros_isValid w.toMicros
  have forward := toMicros_lt_toMicros_iff own valid
  have backward := toMicros_lt_toMicros_iff valid own
  rw [toMicros_ofMicros] at forward backward
  generalize ofMicros w.toMicros = v at forward backward
  obtain ⟨⟨_, _, _⟩, _, _, _, _⟩ := v
  obtain ⟨⟨_, _, _⟩, _, _, _, _⟩ := w
  simp only [Before, lt_irrefl, false_iff, mk.injEq, Date.mk.injEq] at *
  omega

theorem year_ofMicros_iff (micros : Int) :
    1 ≤ (ofMicros micros).date.year ∧ (ofMicros micros).date.year ≤ 9999 ↔
      leastMicros ≤ micros ∧ micros ≤ greatestMicros := by
  have year : (ofMicros micros).date.year = yearOfDay (micros.fdiv dayMicros + epochDay) :=
    Date.ofDays_year _
  have bounds := yearOfDay_bounds (micros.fdiv dayMicros + epochDay)
  rw [← year, Int.fdiv_eq_ediv_of_nonneg _ (by decide)] at bounds
  simp only [leastMicros, greatestMicros, dayMicros, epochDay, daysBeforeYear] at *
  omega

theorem ofMicros_seconds (seconds : Int) : ofMicros (seconds * 1000000) =
    ⟨Date.ofDays (seconds.fdiv 86400 + epochDay), (seconds.fmod 86400).toNat / 3600,
      (seconds.fmod 86400).toNat % 3600 / 60, (seconds.fmod 86400).toNat % 60, 0⟩ := by
  have day : (seconds * 1000000).fdiv dayMicros = seconds.fdiv 86400 := by
    rw [Int.fdiv_eq_ediv_of_nonneg _ (by decide), Int.fdiv_eq_ediv_of_nonneg _ (by decide),
      dayMicros]
    omega
  have rest : ((seconds * 1000000).fmod dayMicros).toNat =
      (seconds.fmod 86400).toNat * 1000000 := by
    rw [Int.fmod_eq_emod_of_nonneg _ (by decide), Int.fmod_eq_emod_of_nonneg _ (by decide),
      dayMicros]
    omega
  simp only [ofMicros, day, rest, Nat.mul_div_cancel _ (show 0 < 1000000 by decide),
    Nat.mul_mod_left]

end WallTime

namespace Instant

@[ext]
theorem ext {a b : Instant} (h : a.micros = b.micros) : a = b := by
  cases a
  cases b
  simpa using h

theorem ofMicros?_micros (t : Instant) : ofMicros? t.micros = some t := by
  simp [ofMicros?, t.least_le, t.le_greatest]

theorem toWall_isValid (t : Instant) : t.toWall.IsValid := WallTime.ofMicros_isValid _

theorem toMicros_toWall (t : Instant) : t.toWall.toMicros = t.micros := WallTime.toMicros_ofMicros _

theorem micros_lt_micros_iff (a b : Instant) : a.micros < b.micros ↔ a.toWall.Before b.toWall := by
  rw [← toMicros_toWall a, ← toMicros_toWall b,
    WallTime.toMicros_lt_toMicros_iff a.toWall_isValid b.toWall_isValid]

theorem year_bounds (t : Instant) : 1 ≤ t.year ∧ t.year ≤ 9999 :=
  (WallTime.year_ofMicros_iff t.micros).2 ⟨t.least_le, t.le_greatest⟩

theorem micros_of_ofMicros? {micros : Int} {t : Instant} (found : ofMicros? micros = some t) :
    t.micros = micros := by
  rw [ofMicros?] at found
  split at found
  next => rw [← Option.some.inj found]
  next => cases found

theorem exists_ofMicros?_iff {micros : Int} :
    (∃ t, ofMicros? micros = some t) ↔ leastMicros ≤ micros ∧ micros ≤ greatestMicros := by
  rw [ofMicros?]
  split
  next within => exact ⟨fun _ => within, fun _ => ⟨_, rfl⟩⟩
  next outside => exact ⟨fun ⟨_, found⟩ => (nomatch found), fun within => absurd within outside⟩

theorem exists_ofMicros?_iff_year (micros : Int) : (∃ t, ofMicros? micros = some t) ↔
    1 ≤ (WallTime.ofMicros micros).date.year ∧ (WallTime.ofMicros micros).date.year ≤ 9999 :=
  exists_ofMicros?_iff.trans (WallTime.year_ofMicros_iff micros).symm

theorem exists_toWall_eq {w : WallTime} (valid : w.IsValid) (first : 1 ≤ w.date.year)
    (last : w.date.year ≤ 9999) : ∃ t, ofMicros? w.toMicros = some t ∧ t.toWall = w := by
  have own := WallTime.ofMicros_toMicros valid
  have years := exists_ofMicros?_iff_year w.toMicros
  rw [own] at years
  obtain ⟨t, found⟩ := years.2 ⟨first, last⟩
  exact ⟨t, found, by rw [toWall, micros_of_ofMicros? found, own]⟩

theorem ofSeconds_eq_ok {seconds : Int} {t : Instant} :
    ofSeconds seconds 0 = .ok t ↔ ofMicros? (seconds * 1000000) = some t := by
  have whole : seconds * 1000000 + ((0 : Nat) : Int) = seconds * 1000000 := Int.add_zero _
  rw [ofSeconds, whole]
  by_cases within : leastMicros ≤ seconds * 1000000 ∧ seconds * 1000000 ≤ greatestMicros
  · have years := (WallTime.year_ofMicros_iff (seconds * 1000000)).2 within
    rw [WallTime.ofMicros_seconds, Date.ofDays_year] at years
    have bounds : ¬ (seconds < leastSeconds ∨ greatestSeconds < seconds) := by
      simp only [leastMicros, greatestMicros] at within
      rw [show leastSeconds = -9223372036854775808 by rfl,
        show greatestSeconds = 9223372036854775807 by rfl]
      omega
    have near : ¬ (yearOfDay (seconds.fdiv 86400 + epochDay) - 1900 < - Int.pow 2 31 ∨
        Int.pow 2 31 ≤ yearOfDay (seconds.fdiv 86400 + epochDay) - 1900) := by
      rw [show Int.pow 2 31 = 2147483648 by rfl]
      omega
    obtain ⟨t', found⟩ := exists_ofMicros?_iff.2 within
    simp only [if_neg bounds, if_neg near, found, Except.ok.injEq, Option.some.injEq]
  · have none : ofMicros? (seconds * 1000000) = none := dif_neg within
    simp only [none]
    split_ifs <;> simp

end Instant

namespace Moment

theorem utcMicros_ofInstant (t : Instant) : (ofInstant t).utcMicros = t.micros := by
  simp [utcMicros, ofInstant]

theorem toInstant_ofInstant (t : Instant) : (ofInstant t).toInstant = .ok t := by
  rw [toInstant, utcMicros_ofInstant, Instant.ofMicros?_micros]

def utcYear (m : Moment) : Int := (WallTime.ofMicros m.utcMicros).date.year

theorem exists_toInstant_iff {m : Moment} :
    (∃ t, m.toInstant = .ok t) ↔ 1 ≤ m.utcYear ∧ m.utcYear ≤ 9999 := by
  rw [utcYear, ← Instant.exists_ofMicros?_iff_year, toInstant]
  cases Instant.ofMicros? m.utcMicros <;> simp

theorem micros_of_toInstant {m : Moment} {t : Instant} (time : m.toInstant = .ok t) :
    t.micros = m.utcMicros := by
  rw [toInstant] at time
  split at time
  next found =>
      obtain rfl := Except.ok.inj time
      exact Instant.micros_of_ofMicros? found
  next => cases time

theorem offset_of_before_steady {m earlier : Moment} {d : Duration}
    (before : m.before .steady d = .ok earlier) : earlier.offset = m.offset := by
  rw [Moment.before] at before
  split at before
  next found => exact Except.ok.inj before ▸ rfl
  next => cases before

theorem utcMicros_of_before {m earlier : Moment} {zone : Zone} {d : Duration}
    (before : m.before zone d = .ok earlier) (steady : earlier.offset = m.offset) :
    earlier.utcMicros = m.utcMicros - d.micros := by
  rw [Moment.before] at before
  split at before
  next found =>
      obtain rfl := Except.ok.inj before
      simp only at steady
      simp only [utcMicros, Instant.micros_of_ofMicros? found, steady]
      omega
  next => cases before

end Moment

end Liveness.Time
