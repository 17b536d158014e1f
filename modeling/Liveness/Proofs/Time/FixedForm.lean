import Liveness.Proofs.Time.TimestampText

/-!
The fixed-width form of a timestamp: twenty digits between separators. Moments of years with four
digits are written in it and read back. A text of the form is read just when its fields are those of
a valid wall time, and it is the only text of the instant that was read (`read_write_fixed`).
-/

namespace Liveness.Time

open Numeric (digitsOfWidth)
open Text (asciiDigit? isAsciiDigit)

/-! ## Fields of digits -/

structure Field (width : Nat) where
  chars : List Char
  length_eq : chars.length = width
  digits : ∀ c ∈ chars, isAsciiDigit c = true

theorem ofDigits_bounded {digits : List Char} (all : ∀ c ∈ digits, isAsciiDigit c = true) :
    Text.ofDigits 10 (digits.filterMap asciiDigit?) < 10 ^ digits.length ∧
      digitsOfWidth 10 digits.length (Text.ofDigits 10 (digits.filterMap asciiDigit?)) =
        digits := by
  induction digits using List.reverseRecOn with
  | nil => exact ⟨by decide, rfl⟩
  | append_singleton digits c ih =>
      obtain ⟨front, last⟩ := List.forall_mem_append.1 all
      obtain ⟨d, small, rfl⟩ :=
        Text.exists_digitChar_of_isAsciiDigit (last c (List.mem_singleton_self c))
      obtain ⟨bound, same⟩ := ih front
      have value : Text.ofDigits 10 ((digits ++ [Nat.digitChar d]).filterMap asciiDigit?) =
          Text.ofDigits 10 (digits.filterMap asciiDigit?) * 10 + d := by
        rw [List.filterMap_append, ← Text.ofDigits_append_singleton]
        simp [Text.asciiDigit?_digitChar small]
      rw [value, List.length_append, List.length_singleton, Nat.pow_succ, digitsOfWidth,
        show (Text.ofDigits 10 (digits.filterMap asciiDigit?) * 10 + d) / 10 =
          Text.ofDigits 10 (digits.filterMap asciiDigit?) by omega, same]
      refine ⟨by omega, ?_⟩
      rw [show (Text.ofDigits 10 (digits.filterMap asciiDigit?) * 10 + d) % 10 = d by omega]

namespace Field

variable {width : Nat}

def value (field : Field width) : Nat := Text.ofDigits 10 (field.chars.filterMap asciiDigit?)

theorem value_lt (field : Field width) : field.value < 10 ^ width := by
  simpa only [value, field.length_eq] using (ofDigits_bounded field.digits).1

theorem digitsOfWidth_value (field : Field width) :
    digitsOfWidth 10 width field.value = field.chars := by
  simpa only [value, field.length_eq] using (ofDigits_bounded field.digits).2

def ofNat (width n : Nat) : Field width where
  chars := digitsOfWidth 10 width n
  length_eq := Numeric.length_digitsOfWidth 10 width n
  digits := List.takeWhile_eq_self_iff.1 (Timestamp.takeWhile_digitsOfWidth width n)

end Field

structure FixedForm where
  year : Field 4
  month : Field 2
  day : Field 2
  hour : Field 2
  minute : Field 2
  second : Field 2
  micro : Field 6

namespace FixedForm

def chars (fixed : FixedForm) : List Char :=
  fixed.year.chars ++ '-' :: (fixed.month.chars ++ '-' :: (fixed.day.chars ++ 'T' ::
    (fixed.hour.chars ++ ':' :: (fixed.minute.chars ++ ':' :: (fixed.second.chars ++ '.' ::
      (fixed.micro.chars ++ ['Z']))))))

def text (fixed : FixedForm) : String := String.ofList fixed.chars

def wall (fixed : FixedForm) : WallTime :=
  ⟨⟨fixed.year.value, fixed.month.value, fixed.day.value⟩, fixed.hour.value, fixed.minute.value,
    fixed.second.value, fixed.micro.value⟩

theorem chars_wall (fixed : FixedForm) : fixed.wall.chars = fixed.chars := by
  simp [WallTime.chars, WallTime.clockChars, wall, chars, Field.digitsOfWidth_value]

def ofWall (w : WallTime) : FixedForm :=
  ⟨.ofNat 4 w.date.year.toNat, .ofNat 2 w.date.month, .ofNat 2 w.date.day, .ofNat 2 w.hour,
    .ofNat 2 w.minute, .ofNat 2 w.second, .ofNat 6 w.micro⟩

theorem chars_ofWall (w : WallTime) : (ofWall w).chars = w.chars := rfl

end FixedForm

namespace Timestamp

/-! ## What readers make of two digits -/

namespace Reader

variable {α : Type}

theorem mem_before {reader : Reader α} {separators cs rest : List Char} {a : α} :
    (a, rest) ∈ reader.before separators cs ↔
      ∃ c ∈ separators, (a, c :: rest) ∈ reader cs := by
  simp only [before, oneOf, mem_andThen, mem_satisfying]
  constructor
  · rintro ⟨a, _, _, read, ⟨c, rfl, separates⟩, rfl⟩
    refine ⟨c, ?_, read⟩
    by_contra other
    rw [if_neg (by simpa using other)] at separates
    cases separates
  · rintro ⟨c, separates, read⟩
    exact ⟨a, _, (), read, ⟨c, rfl, if_pos (by simpa using separates)⟩, rfl⟩

theorem mem_orElse {first second : Reader α} {cs : List Char} {found : α × List Char} :
    found ∈ orElse first second cs ↔ found ∈ first cs ∨ found ∈ second cs :=
  List.mem_append

/-- Of two digits a reader takes both, if it accepts their number, or leaves the second one. -/
def Takes (reader : Reader Nat) (accepts : Nat → Prop) : Prop :=
  ∀ n < 100, ∀ more found rest, (found, rest) ∈ reader (digitsOfWidth 10 2 n ++ more) →
    (found = n ∧ rest = more ∧ accepts n) ∨ ∃ d < 10, rest = Nat.digitChar d :: more

variable {accepts : Nat → Prop}

theorem Takes.orElse {first second : Reader Nat} (one : Takes first accepts)
    (two : Takes second accepts) : Takes (Reader.orElse first second) accepts := by
  intro n small more found rest read
  rcases mem_orElse.1 read with read | read
  · exact one n small more found rest read
  · exact two n small more found rest read

theorem mem_digitFrom {least greatest d found : Nat} (h : d < 10) {cs rest : List Char} :
    (found, rest) ∈ digitFrom least greatest (Nat.digitChar d :: cs) ↔
      found = d ∧ rest = cs ∧ least ≤ d ∧ d ≤ greatest := by
  rw [digitFrom_digitChar least greatest h]
  split
  next within => simp [within]
  next outside => simp [outside]

theorem mem_anyDigit {d found : Nat} (h : d < 10) {cs rest : List Char} :
    (found, rest) ∈ anyDigit (Nat.digitChar d :: cs) ↔ found = d ∧ rest = cs := by
  rw [anyDigit_digitChar h, List.mem_singleton, Prod.mk.injEq]

theorem digitsOfWidth_two (n : Nat) (more : List Char) : digitsOfWidth 10 2 n ++ more =
    Nat.digitChar (n / 10 % 10) :: Nat.digitChar (n % 10) :: more := rfl

theorem takes_digitFrom (least greatest : Nat) : Takes (digitFrom least greatest) accepts := by
  intro n small more found rest read
  rw [digitsOfWidth_two, mem_digitFrom (Nat.mod_lt _ (by decide))] at read
  exact .inr ⟨n % 10, Nat.mod_lt _ (by decide), read.2.1⟩

theorem takes_anyDigit : Takes anyDigit accepts := by
  intro n small more found rest read
  rw [digitsOfWidth_two, mem_anyDigit (Nat.mod_lt _ (by decide))] at read
  exact .inr ⟨n % 10, Nat.mod_lt _ (by decide), read.2⟩

theorem takes_digitFrom_digitFrom {a b c d : Nat}
    (accept : ∀ n < 100, a ≤ n / 10 ∧ n / 10 ≤ b → c ≤ n % 10 ∧ n % 10 ≤ d → accepts n) :
    Takes (pair (digitFrom a b) (digitFrom c d)) accepts := by
  intro n small more found rest read
  rw [digitsOfWidth_two] at read
  obtain ⟨t, _, u, tens, units, rfl⟩ := mem_andThen.1 read
  obtain ⟨rfl, rfl, first⟩ := (mem_digitFrom (Nat.mod_lt _ (by decide))).1 tens
  obtain ⟨rfl, rfl, second⟩ := (mem_digitFrom (Nat.mod_lt _ (by decide))).1 units
  exact .inl ⟨by omega, rfl, accept n small (by omega) second⟩

theorem takes_digitFrom_anyDigit {a b : Nat}
    (accept : ∀ n < 100, a ≤ n / 10 ∧ n / 10 ≤ b → accepts n) :
    Takes (pair (digitFrom a b) anyDigit) accepts := by
  intro n small more found rest read
  rw [digitsOfWidth_two] at read
  obtain ⟨t, _, u, tens, units, rfl⟩ := mem_andThen.1 read
  obtain ⟨rfl, rfl, first⟩ := (mem_digitFrom (Nat.mod_lt _ (by decide))).1 tens
  obtain ⟨rfl, rfl⟩ := (mem_anyDigit (Nat.mod_lt _ (by decide))).1 units
  exact .inl ⟨by omega, rfl, accept n small (by omega)⟩

theorem Takes.mem_before {reader : Reader Nat} (takes : Takes reader accepts) {n found : Nat}
    (small : n < 100) {separators more rest : List Char}
    (apart : separators.any isAsciiDigit = false) {separator : Char}
    (read : (found, rest) ∈
      reader.before separators (digitsOfWidth 10 2 n ++ separator :: more)) :
    found = n ∧ rest = more ∧ accepts n := by
  obtain ⟨c, separates, read⟩ := Reader.mem_before.1 read
  rcases takes n small _ _ _ read with ⟨same, rest, accepted⟩ | ⟨d, digit, rest⟩
  · exact ⟨same, (List.cons.inj rest).2, accepted⟩
  · have other := List.any_eq_false.1 apart c separates
    rw [(List.cons.inj rest).1] at other
    exact absurd (Text.isAsciiDigit_digitChar digit) other

end Reader

open Reader

theorem takes_month : Takes month fun n => 1 ≤ n ∧ n ≤ 12 := by
  apply Takes.orElse
  · exact takes_digitFrom_digitFrom (by omega)
  apply Takes.orElse
  · exact takes_digitFrom_digitFrom (by omega)
  · exact takes_digitFrom 1 9

theorem takes_day : Takes day fun n => 1 ≤ n ∧ n ≤ 31 := by
  apply Takes.orElse
  · exact takes_digitFrom_digitFrom (by omega)
  apply Takes.orElse
  · exact takes_digitFrom_anyDigit (by omega)
  apply Takes.orElse
  · exact takes_digitFrom_digitFrom (by omega)
  apply Takes.orElse
  · exact takes_digitFrom 1 9
  · intro n small more found rest read
    obtain ⟨_, _, _, blank, -, -⟩ := mem_andThen.1 read
    rw [digitsOfWidth_two, oneOf, mem_satisfying] at blank
    obtain ⟨c, same, isBlank⟩ := blank
    have digit := Text.isAsciiDigit_digitChar (show n / 10 % 10 < 10 by omega)
    have other : c ≠ ' ' := by
      rintro rfl
      rw [(List.cons.inj same).1] at digit
      cases digit
    simp [other] at isBlank

theorem takes_hour : Takes hour fun n => n < 24 := by
  apply Takes.orElse
  · exact takes_digitFrom_digitFrom (by omega)
  apply Takes.orElse
  · exact takes_digitFrom_anyDigit (by omega)
  · exact takes_anyDigit

theorem takes_minute : Takes minute fun n => n < 60 := by
  apply Takes.orElse
  · exact takes_digitFrom_anyDigit (by omega)
  · exact takes_anyDigit

theorem takes_second : Takes second fun n => n < 62 := by
  apply Takes.orElse
  · exact takes_digitFrom_digitFrom (by omega)
  · intro n small more found rest read
    rcases takes_minute n small more found rest read with ⟨same, after, below⟩ | left
    · exact .inl ⟨same, after, below.trans (by decide)⟩
    · exact .inr left

/-! ## Texts of the form -/

theorem mem_date {d : Date} {year : Field 4} {month day : Field 2} {more rest : List Char}
    (read : (d, rest) ∈ date (digitsOfWidth 10 4 year.value ++ '-' ::
      (digitsOfWidth 10 2 month.value ++ '-' :: (digitsOfWidth 10 2 day.value ++ 'T' :: more)))) :
    d = ⟨year.value, month.value, day.value⟩ ∧ rest = more := by
  obtain ⟨y, _, ⟨m, e⟩, years, monthDay, rfl⟩ := mem_andThen.1 read
  obtain ⟨c, -, years⟩ := mem_before.1 years
  rw [year_digitsOfWidth year.value_lt, List.mem_singleton, Prod.mk.injEq, List.cons.injEq] at years
  obtain ⟨rfl, -, rfl⟩ := years
  obtain ⟨_, _, _, months, days, same⟩ := mem_andThen.1 monthDay
  obtain ⟨rfl, rfl, -⟩ := takes_month.mem_before month.value_lt rfl months
  obtain ⟨rfl, rfl, -⟩ := takes_day.mem_before day.value_lt rfl days
  obtain ⟨rfl, rfl⟩ := Prod.mk.inj same
  exact ⟨rfl, rfl⟩

theorem mem_clock {fixed : FixedForm} {time : Nat × Nat × Nat × Nat} {rest : List Char}
    (read : (time, rest) ∈ clock fixed.wall.clockChars) :
    time = (fixed.hour.value, fixed.minute.value, fixed.second.value, fixed.micro.value) ∧
      rest = [] ∧ fixed.hour.value < 24 ∧ fixed.minute.value < 60 := by
  obtain ⟨_, _, _, hours, read, rfl⟩ := mem_andThen.1 read
  obtain ⟨rfl, rfl, hour⟩ := takes_hour.mem_before fixed.hour.value_lt rfl hours
  obtain ⟨_, _, _, minutes, read, rfl⟩ := mem_andThen.1 read
  obtain ⟨rfl, rfl, minute⟩ := takes_minute.mem_before fixed.minute.value_lt rfl minutes
  obtain ⟨_, _, _, seconds, read, rfl⟩ := mem_andThen.1 read
  obtain ⟨rfl, rfl, -⟩ := takes_second.mem_before fixed.second.value_lt rfl seconds
  obtain ⟨c, -, micros⟩ := mem_before.1 read
  have written : digitsOfWidth 10 6 fixed.wall.micro = digitsOfWidth 10 6 fixed.micro.value := rfl
  rw [written, fraction_digitsOfWidth fixed.micro.value_lt, List.mem_singleton, Prod.mk.injEq,
    List.cons.injEq] at micros
  obtain ⟨rfl, -, rfl⟩ := micros
  exact ⟨rfl, rfl, hour, minute⟩

theorem mem_form {fixed : FixedForm} {w : WallTime} {rest : List Char}
    (read : (w, rest) ∈ form fixed.chars) :
    w = fixed.wall ∧ rest = [] ∧ w.hour < 24 ∧ w.minute < 60 := by
  -- Digits cannot be shifted from one field to the next: what is read are the fields.
  rw [← fixed.chars_wall] at read
  obtain ⟨_, _, _, dates, clocks, rfl⟩ := mem_andThen.1 read
  obtain ⟨rfl, rfl⟩ := mem_date dates
  obtain ⟨rfl, rfl, hour, minute⟩ := mem_clock clocks
  exact ⟨rfl, rfl, hour, minute⟩

theorem readChars_eq_ok {cs : List Char} {t : Instant} : readChars cs = .ok t ↔
    ∃ w others, form cs = (w, []) :: others ∧ w.date.year ≠ 0 ∧ w.date.IsValid ∧ w.second < 60 ∧
      Instant.ofMicros? w.toMicros = some t := by
  rw [readChars]
  cases read : form cs with
  | nil => simp
  | cons found others =>
      obtain ⟨w, rest⟩ := found
      simp only [List.cons.injEq, Prod.mk.injEq]
      constructor
      · intro ok
        split at ok
        · cases ok
        rename_i whole
        split at ok
        · cases ok
        rename_i nonzero
        split at ok
        · cases ok
        rename_i valid
        split at ok
        · cases ok
        rename_i leap
        split at ok
        next found =>
            obtain rfl := Except.ok.inj ok
            exact ⟨w, others, ⟨⟨rfl, by simpa using whole⟩, rfl⟩, nonzero, not_not.1 valid,
              Nat.not_le.1 leap, found⟩
        next => cases ok
      · rintro ⟨_, _, ⟨⟨rfl, rfl⟩, rfl⟩, nonzero, valid, leap, found⟩
        simp [nonzero, valid, Nat.not_le.2 leap, found]

theorem read_fixed_eq_ok {fixed : FixedForm} {t : Instant}
    (read : Timestamp.read fixed.text = .ok t) :
    fixed.wall.IsValid ∧ t.toWall = fixed.wall := by
  rw [Timestamp.read, FixedForm.text, String.toList_ofList] at read
  obtain ⟨w, others, formed, -, valid, second, found⟩ := readChars_eq_ok.1 read
  obtain ⟨rfl, -, hour, minute⟩ := mem_form (formed ▸ List.mem_cons_self)
  have whole : fixed.wall.IsValid := ⟨valid, hour, minute, second, fixed.micro.value_lt⟩
  refine ⟨whole, ?_⟩
  rw [Instant.toWall, Instant.micros_of_ofMicros? found, WallTime.ofMicros_toMicros whole]

theorem exists_read_fixed {fixed : FixedForm} (year : 1 ≤ fixed.year.value)
    (valid : fixed.wall.IsValid) : ∃ t, Timestamp.read fixed.text = .ok t := by
  have bound : fixed.year.value < 10000 := fixed.year.value_lt
  have years : 1 ≤ fixed.wall.date.year ∧ fixed.wall.date.year ≤ 9999 := by
    simp only [FixedForm.wall]
    omega
  obtain ⟨t, found, -⟩ := Instant.exists_toWall_eq valid years.1 years.2
  obtain ⟨others, formed⟩ := List.head?_eq_some_iff.1 (prefers_form valid (by omega))
  rw [fixed.chars_wall] at formed
  refine ⟨t, ?_⟩
  rw [Timestamp.read, FixedForm.text, String.toList_ofList]
  exact readChars_eq_ok.2 ⟨_, others, formed, by omega, valid.date, valid.second, found⟩

theorem ofInstant_of_toWall {fixed : FixedForm} {t : Instant} (same : t.toWall = fixed.wall)
    (year : 1000 ≤ fixed.year.value) : ofInstant t = fixed.text := by
  have fourDigits : t.HasFourDigitYear := by
    rw [Instant.HasFourDigitYear, Instant.year, same]
    exact Int.ofNat_le.2 year
  rw [FixedForm.text, ← fixed.chars_wall, ← same, ← toList_ofInstant_eq_chars fourDigits,
    String.ofList_toList]

/-- A moment whose year in UTC has four digits is written in the form, and its instant is read back.
A text of the form, of the year 1000 or later, is read just when its fields are those of a day of
the calendar and of a time of day. It is then the text of the instant that was read. -/
theorem read_write_fixed :
    (∀ m : Moment, 1000 ≤ m.utcYear → m.utcYear ≤ 9999 → ∃ fixed : FixedForm, ∃ t,
      write m = .ok fixed.text ∧ read fixed.text = .ok t ∧ t.micros = m.utcMicros) ∧
    ∀ fixed : FixedForm, 1000 ≤ fixed.year.value →
      ((∃ t, read fixed.text = .ok t) ↔ fixed.wall.IsValid) ∧
      ∀ t, read fixed.text = .ok t → t.toWall = fixed.wall ∧ write t = .ok fixed.text := by
  refine ⟨fun m first last => ?_, fun fixed year => ⟨⟨?_, ?_⟩, fun t found => ?_⟩⟩
  · obtain ⟨t, time⟩ := Moment.exists_toInstant_iff.2 ⟨le_trans (by decide) first, last⟩
    have micros := Moment.micros_of_toInstant time
    have year : t.HasFourDigitYear := by
      rwa [Instant.HasFourDigitYear, Instant.year, Instant.toWall, micros]
    have text : (FixedForm.ofWall t.toWall).text = ofInstant t := by
      rw [FixedForm.text, FixedForm.chars_ofWall, ← toList_ofInstant_eq_chars year,
        String.ofList_toList]
    refine ⟨.ofWall t.toWall, t, ?_, ?_, micros⟩
    · rw [text, write, time]
      rfl
    · rw [text, read_ofInstant year]
  · rintro ⟨t, found⟩
    exact (read_fixed_eq_ok found).1
  · exact exists_read_fixed (le_trans (by decide) year)
  · obtain ⟨-, same⟩ := read_fixed_eq_ok found
    refine ⟨same, ?_⟩
    rw [write, Moment.toInstant_ofInstant, ← ofInstant_of_toWall same year]
    rfl

def earlyNewYear : Moment := ⟨⟨946686600000000, by decide, by decide⟩, some 3600⟩

def endOfLeapDay (year : Nat) : FixedForm := .ofWall ⟨⟨year, 2, 29⟩, 23, 59, 59, 999999⟩

theorem read_write_fixed_leapDays :
    (earlyNewYear.utcYear = 1999 ∧ ∃ t, write earlyNewYear = .ok "1999-12-31T23:30:00.000000Z" ∧
      read "1999-12-31T23:30:00.000000Z" = .ok t ∧ t.micros = earlyNewYear.utcMicros) ∧
    (∃ t, read "2000-02-29T23:59:59.999999Z" = .ok t ∧
      write t = .ok "2000-02-29T23:59:59.999999Z") ∧
    ¬ ∃ t, read "2100-02-29T23:59:59.999999Z" = .ok t := by
  have year : earlyNewYear.utcYear = 1999 := by decide +kernel
  have text : (endOfLeapDay 2000).text = "2000-02-29T23:59:59.999999Z" := by decide +kernel
  have text' : (endOfLeapDay 2100).text = "2100-02-29T23:59:59.999999Z" := by decide +kernel
  obtain ⟨moments, texts⟩ := read_write_fixed
  refine ⟨⟨year, ?_⟩, ?_, ?_⟩
  · obtain ⟨fixed, t, written, found, micros⟩ := moments earlyNewYear (by omega) (by omega)
    have shown : write earlyNewYear = .ok "1999-12-31T23:30:00.000000Z" := by decide +kernel
    rw [← Except.ok.inj (shown.symm.trans written)] at found
    exact ⟨t, shown, found, micros⟩
  · obtain ⟨accepted, same⟩ := texts (endOfLeapDay 2000) (by decide +kernel)
    rw [text] at accepted same
    obtain ⟨t, found⟩ := accepted.2 ⟨by decide +kernel, by decide +kernel, by decide +kernel,
      by decide +kernel, by decide +kernel⟩
    exact ⟨t, found, (same t found).2⟩
  · obtain ⟨accepted, -⟩ := texts (endOfLeapDay 2100) (by decide +kernel)
    rw [text'] at accepted
    intro read
    have noLeapDay : ¬ (endOfLeapDay 2100).wall.date.IsValid := by decide +kernel
    exact noLeapDay (accepted.1 read).date

end Timestamp

end Liveness.Time
