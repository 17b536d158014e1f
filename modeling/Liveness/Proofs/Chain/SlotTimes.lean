import Liveness.Chain
import Liveness.Proofs.Time.WallTime

namespace Liveness

namespace Time

/-- The wall time so many seconds after the beginning of 1970: whole days lead to the date, and what
is left of the last one is the time of day. -/
structure WallTime.IsSince1970 (w : WallTime) (seconds : Int) : Prop where
  valid : w.IsValid
  date : w.date.LiesAfter (seconds.fdiv 86400) ⟨1970, 1, 1⟩
  time : ((w.hour * 60 + w.minute) * 60 + w.second : Nat) = seconds.fmod 86400
  micro : w.micro = 0

theorem ofDays_epochDay : Date.ofDays epochDay = ⟨1970, 1, 1⟩ := by decide

theorem WallTime.isSince1970_ofMicros (seconds : Int) :
    (ofMicros (seconds * 1000000)).IsSince1970 seconds := by
  have whole := ofMicros_seconds seconds
  refine ⟨ofMicros_isValid _, ?_, ?_, ?_⟩
  · rw [whole, ← ofDays_epochDay, Int.add_comm]
    exact Date.liesAfter_ofDays epochDay (seconds.fdiv 86400)
  · have nonneg : 0 ≤ seconds.fmod 86400 := Int.fmod_nonneg_of_pos seconds (by decide)
    rw [whole]
    simp only
    omega
  · rw [whole]

theorem WallTime.IsSince1970.eq_ofMicros {w : WallTime} {seconds : Int}
    (since : w.IsSince1970 seconds) : w = ofMicros (seconds * 1000000) := by
  obtain ⟨valid, date, time, micro⟩ := since
  have days := date.toDays_eq valid.date (by decide)
  have whole := Int.fdiv_mul_add_fmod seconds 86400
  have epoch : (⟨1970, 1, 1⟩ : Date).toDays = epochDay := by decide
  rw [← ofMicros_toMicros valid]
  congr 1
  rw [toMicros, days, micro, epoch, dayMicros]
  omega

theorem WallTime.isSince1970_iff {w : WallTime} {seconds : Int} :
    w.IsSince1970 seconds ↔ w = ofMicros (seconds * 1000000) :=
  ⟨IsSince1970.eq_ofMicros, fun same => same ▸ isSince1970_ofMicros seconds⟩

end Time

namespace Chain

open Time (Instant WallTime)

variable {chain : Chain} {a b : Int} {s t : Instant}

theorem micros_of_slotTime (time : chain.slotTime a = .ok t) :
    t.micros = chain.slotSeconds a * 1000000 :=
  Instant.micros_of_ofMicros? (Instant.ofSeconds_eq_ok.1 time)

theorem exists_slotTime_iff : (∃ t, chain.slotTime a = .ok t) ↔
    1 ≤ (WallTime.ofMicros (chain.slotSeconds a * 1000000)).date.year ∧
      (WallTime.ofMicros (chain.slotSeconds a * 1000000)).date.year ≤ 9999 := by
  rw [← Instant.exists_ofMicros?_iff_year]
  exact exists_congr fun t => Instant.ofSeconds_eq_ok

theorem slotSeconds_lt_iff (positive : 0 < chain.secondsPerSlot) :
    chain.slotSeconds a < chain.slotSeconds b ↔ a < b := by
  rw [slotSeconds, slotSeconds, Int.add_lt_add_iff_left]
  exact Int.mul_lt_mul_right positive

theorem slotTime_lt_iff (positive : 0 < chain.secondsPerSlot) (time : chain.slotTime a = .ok s)
    (time' : chain.slotTime b = .ok t) : s.micros < t.micros ↔ a < b := by
  have order : chain.slotSeconds a < chain.slotSeconds b ↔ a < b := slotSeconds_lt_iff positive
  rw [micros_of_slotTime time, micros_of_slotTime time', ← order]
  exact Int.mul_lt_mul_right (by decide)

theorem epoch_bounds {n : Int} (positive : 0 < n) (slot : Int) :
    slot.fdiv n * n ≤ slot ∧ slot < (slot.fdiv n + 1) * n := by
  have rest := Int.fmod_nonneg_of_pos slot positive
  have short := Int.fmod_lt_of_pos slot positive
  have whole := Int.fdiv_mul_add_fmod slot n
  rw [Int.add_mul, Int.one_mul]
  omega

/-- A slot begins as many seconds after the beginning of 1970 as its number tells, by a calendar
that goes from day to day, unless that is outside the years 1 to 9999. Slots begin in the order of
their numbers, and each one within its epoch. -/
theorem slotTime_calendar (chain : Chain) :
    (∀ slot, ∃ w : WallTime,
      (∀ w', w'.IsSince1970 (chain.genesis + slot * chain.secondsPerSlot) ↔ w' = w) ∧
      if 1 ≤ w.date.year ∧ w.date.year ≤ 9999 then ∃ t, chain.slotTime slot = .ok t ∧
        t.toWall = w ∧ t.micros = (chain.genesis + slot * chain.secondsPerSlot) * 1000000
      else ∃ fault, chain.slotTime slot = .error fault) ∧
    (0 < chain.secondsPerSlot →
      (∀ a b s t, chain.slotTime a = .ok s → chain.slotTime b = .ok t → a < b →
        s.micros < t.micros) ∧
      (0 < chain.slotsPerEpoch → ∀ slot t, chain.slotTime slot = .ok t →
        (∀ first, chain.epochTime (slot.fdiv chain.slotsPerEpoch) = .ok first →
          first.micros ≤ t.micros) ∧
        ∀ next, chain.epochTime (slot.fdiv chain.slotsPerEpoch + 1) = .ok next →
          t.micros < next.micros)) := by
  refine ⟨fun slot => ?_, fun positive => ⟨fun a b s t time time' => ?_, ?_⟩⟩
  · refine ⟨_, fun w' => WallTime.isSince1970_iff, ?_⟩
    rw [← slotSeconds]
    split
    next within =>
        obtain ⟨t, time⟩ := exists_slotTime_iff.2 within
        have micros := micros_of_slotTime time
        exact ⟨t, time, by rw [Instant.toWall, micros], micros⟩
    next outside =>
        cases time : chain.slotTime slot with
        | ok t => exact absurd (exists_slotTime_iff.1 ⟨t, time⟩) outside
        | error fault => exact ⟨fault, rfl⟩
  · exact (slotTime_lt_iff positive time time').2
  · intro several slot t time
    obtain ⟨least, greatest⟩ := epoch_bounds several slot
    refine ⟨fun first time' => ?_, fun next time' => ?_⟩
    · rw [← not_lt, slotTime_lt_iff positive time time']
      exact not_lt.2 least
    · exact (slotTime_lt_iff positive time time').2 greatest

theorem slotTime_calendar_beforeGenesis :
    let chain : Chain := {}
    ∃ first t next, chain.epochTime (-1) = .ok first ∧ chain.slotTime (-1) = .ok t ∧
      chain.epochTime 0 = .ok next ∧ t.toText = "2020-12-01T12:00:11.000000+00:00" ∧
      first.micros ≤ t.micros ∧ t.micros < next.micros := by
  intro chain
  obtain ⟨-, orders⟩ := slotTime_calendar chain
  obtain ⟨-, epochs⟩ := orders (by decide)
  have time : chain.slotTime (-1) = .ok ⟨1606824011000000, by decide, by decide⟩ := by
    decide +kernel
  have first : chain.epochTime (-1) = .ok ⟨1606823639000000, by decide, by decide⟩ := by
    decide +kernel
  have next : chain.epochTime 0 = .ok ⟨1606824023000000, by decide, by decide⟩ := by
    decide +kernel
  obtain ⟨after, before⟩ := epochs (by decide) (-1) _ time
  exact ⟨_, _, _, first, time, next, by decide +kernel, after _ first, before _ next⟩

end Chain

end Liveness
