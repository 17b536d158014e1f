import Liveness.Proofs.Time.TimestampText

namespace Liveness.Time

/-! ## Texts in front of a separator -/

theorem separated_lt_iff {separator : Char} {a b : List Char} (above : ∀ c ∈ a, separator < c)
    (above' : ∀ c ∈ b, separator < c) (x y : List Char) :
    a ++ separator :: x < b ++ separator :: y ↔ a < b ∨ a = b ∧ x < y := by
  induction a generalizing b with
  | nil =>
      cases b with
      | nil => simp
      | cons d b =>
          have first : separator < d := above' d (List.mem_cons_self ..)
          simp [List.cons_lt_cons_iff, first]
  | cons c a ih =>
      obtain ⟨first, others⟩ := List.forall_mem_cons.1 above
      cases b with
      | nil => simp [List.cons_lt_cons_iff, first.asymm, first.ne']
      | cons d b =>
          have ih := ih others (List.forall_mem_cons.1 above').2
          simp only [List.cons_append, List.cons_lt_cons_iff, ih, List.cons.injEq]
          tauto

theorem dash_lt_of_mem_toDigits (n : Nat) : ∀ c ∈ Nat.toDigits 10 n, '-' < c := by
  have digits : ∀ d < 10, '-' < Nat.digitChar d := by decide
  induction n using Text.toDigits_induction with
  | small n h => simpa [Nat.toDigits_of_lt_base h] using digits n h
  | large n h ih =>
      rw [Nat.toDigits_of_base_le (by omega) h]
      refine List.forall_mem_append.2 ⟨ih, List.forall_mem_singleton.2 ?_⟩
      exact digits _ (Nat.mod_lt n (by omega))

theorem toDigits_inj {m n : Nat} : Nat.toDigits 10 m = Nat.toDigits 10 n ↔ m = n := by
  refine ⟨fun same => ?_, congrArg _⟩
  rw [← Text.ofDigits_toDigits m, same, Text.ofDigits_toDigits]

theorem toDigits_lt_iff {m n : Nat}
    (same : (Nat.toDigits 10 m).length = (Nat.toDigits 10 n).length) :
    Nat.toDigits 10 m < Nat.toDigits 10 n ↔ m < n := by
  have positive : 0 < (Nat.toDigits 10 n).length := List.length_pos_iff.2 Nat.toDigits_ne_nil
  have short : m < 10 ^ (Nat.toDigits 10 n).length :=
    (Nat.length_toDigits_le_iff (by omega) positive).1 same.le
  have short' : n < 10 ^ (Nat.toDigits 10 n).length :=
    (Nat.length_toDigits_le_iff (by omega) positive).1 le_rfl
  have digits := Numeric.padded_toDigits (by omega) positive short
  have digits' := Numeric.padded_toDigits (by omega) positive short'
  rw [same, Nat.sub_self, List.replicate_zero, List.nil_append] at digits
  rw [Nat.sub_self, List.replicate_zero, List.nil_append] at digits'
  rw [← Numeric.digitsOfWidth_lt_iff short short', ← digits, ← digits']

/-! ## The text of an instant -/

theorem Instant.dash_lt_of_mem_yearDigits (t : Instant) : ∀ c ∈ t.yearDigits, '-' < c :=
  dash_lt_of_mem_toDigits _

theorem Instant.yearDigits_inj {s t : Instant} : s.yearDigits = t.yearDigits ↔ s.year = t.year := by
  have bounds := s.year_bounds
  have bounds' := t.year_bounds
  rw [yearDigits, yearDigits, toDigits_inj]
  omega

theorem Instant.yearDigits_lt_iff {s t : Instant}
    (same : s.yearDigits.length = t.yearDigits.length) :
    s.yearDigits < t.yearDigits ↔ s.year < t.year := by
  have bounds := s.year_bounds
  have bounds' := t.year_bounds
  rw [yearDigits, yearDigits, toDigits_lt_iff same]
  omega

theorem Instant.HasFourDigitYear.length_yearDigits {t : Instant} (year : t.HasFourDigitYear) :
    t.yearDigits.length = 4 := by
  rw [year.yearDigits_eq, Numeric.length_digitsOfWidth]

namespace Timestamp

theorem length_ofInstant (t : Instant) : (ofInstant t).length = t.yearDigits.length + 23 := by
  rw [← String.length_toList, toList_ofInstant]
  simp [WallTime.dayChars, WallTime.clockChars]

theorem ofInstant_lt_iff (s t : Instant) : ofInstant s < ofInstant t ↔
    s.yearDigits < t.yearDigits ∨ s.year = t.year ∧ s.micros < t.micros := by
  rw [String.lt_iff, toList_ofInstant, toList_ofInstant,
    separated_lt_iff s.dash_lt_of_mem_yearDigits t.dash_lt_of_mem_yearDigits,
    Instant.micros_lt_micros_iff, Instant.yearDigits_inj]
  refine or_congr_right (and_congr_right fun year => ?_)
  exact dayChars_lt_dayChars_iff s.toWall_isValid t.toWall_isValid year

theorem ofInstant_injective : Function.Injective ofInstant := by
  intro s t same
  have forward := (ofInstant_lt_iff s t).not.1 (same ▸ String.lt_irrefl _)
  have backward := (ofInstant_lt_iff t s).not.1 (same ▸ String.lt_irrefl _)
  rw [not_or, not_and] at forward backward
  have year : s.year = t.year :=
    Instant.yearDigits_inj.1 (le_antisymm (not_lt.1 backward.1) (not_lt.1 forward.1))
  apply Instant.ext
  exact le_antisymm (not_lt.1 (backward.2 year.symm)) (not_lt.1 (forward.2 year))

theorem micros_lt_of_year_lt {s t : Instant} (years : s.year < t.year) : s.micros < t.micros :=
  (Instant.micros_lt_micros_iff s t).2 (.inl years)

theorem ofInstant_lt_iff_of_length {s t : Instant}
    (same : (ofInstant s).length = (ofInstant t).length) :
    ofInstant s < ofInstant t ↔ s.micros < t.micros := by
  rw [length_ofInstant, length_ofInstant, Nat.add_right_cancel_iff] at same
  rw [ofInstant_lt_iff, Instant.yearDigits_lt_iff same]
  constructor
  · rintro (years | ⟨-, before⟩)
    · exact micros_lt_of_year_lt years
    · exact before
  · intro before
    rcases lt_trichotomy s.year t.year with years | year | years
    · exact .inl years
    · exact .inr ⟨year, before⟩
    · exact absurd (micros_lt_of_year_lt years) before.asymm

/-- Whatever the offsets of two moments, they are written as the same text just when they are the
same instant. Texts of one length, as all of years from 1000 on are, compare as times do; others
compare as the texts of their years. -/
theorem write_order {a b : Moment} {s t : Instant} (time : a.toInstant = .ok s)
    (time' : b.toInstant = .ok t) :
    ∃ x y, write a = .ok x ∧ write b = .ok y ∧ (x = y ↔ a.utcMicros = b.utcMicros) ∧
      (x.length = y.length → (x < y ↔ a.utcMicros < b.utcMicros)) ∧
      (x < y ↔ s.yearDigits < t.yearDigits ∨ s.year = t.year ∧ a.utcMicros < b.utcMicros) ∧
      x.length = s.yearDigits.length + 23 ∧ (s.HasFourDigitYear → x.length = 27) := by
  have written {m : Moment} {u : Instant} (time : m.toInstant = .ok u) :
      write m = .ok (ofInstant u) := by
    rw [write, time]
    rfl
  rw [← Moment.micros_of_toInstant time, ← Moment.micros_of_toInstant time']
  refine ⟨_, _, written time, written time', ?_, ofInstant_lt_iff_of_length, ofInstant_lt_iff s t,
    length_ofInstant s, fun year => ?_⟩
  · exact ofInstant_injective.eq_iff.trans ⟨congrArg _, Instant.ext⟩
  · rw [length_ofInstant, year.length_yearDigits]

def aheadOnLeapDay : Moment := ⟨⟨1709170200000000, by decide, by decide⟩, some 7200⟩

def startOfLeapDay : Moment := ⟨⟨1709164800000000, by decide, by decide⟩, none⟩

theorem write_order_leapDay :
    write aheadOnLeapDay = .ok "2024-02-28T23:30:00.000000Z" ∧
      write startOfLeapDay = .ok "2024-02-29T00:00:00.000000Z" ∧
      "2024-02-28T23:30:00.000000Z" < "2024-02-29T00:00:00.000000Z" := by
  have time : aheadOnLeapDay.toInstant =
      .ok ⟨1709163000000000, by decide, by decide⟩ := by decide +kernel
  have time' : startOfLeapDay.toInstant =
      .ok ⟨1709164800000000, by decide, by decide⟩ := by decide +kernel
  obtain ⟨x, y, written, written', -, order, -⟩ := write_order time time'
  have shown : write aheadOnLeapDay = .ok "2024-02-28T23:30:00.000000Z" := by decide +kernel
  have shown' : write startOfLeapDay = .ok "2024-02-29T00:00:00.000000Z" := by decide +kernel
  obtain rfl := Except.ok.inj (shown.symm.trans written)
  obtain rfl := Except.ok.inj (shown'.symm.trans written')
  exact ⟨shown, shown', (order (by decide +kernel)).2 (by decide +kernel)⟩

def aroundYear1000 : Moment × Moment :=
  (⟨⟨-30610220400000001, by decide, by decide⟩, some 3600⟩,
    ⟨⟨-30610224000000000, by decide, by decide⟩, some 0⟩)

/-- The year 999 is written with three digits, so the text of its last instant is shorter than that
of the next, and comes after it. -/
theorem text_order_fails_before_1000 :
    write aroundYear1000.1 = .ok "999-12-31T23:59:59.999999Z" ∧
      write aroundYear1000.2 = .ok "1000-01-01T00:00:00.000000Z" ∧
      aroundYear1000.1.utcMicros < aroundYear1000.2.utcMicros ∧
      ¬ "999-12-31T23:59:59.999999Z" < "1000-01-01T00:00:00.000000Z" ∧
      "999-12-31T23:59:59.999999Z".length ≠ "1000-01-01T00:00:00.000000Z".length := by
  decide +kernel

end Timestamp

end Liveness.Time
