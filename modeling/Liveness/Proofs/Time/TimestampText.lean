import Liveness.Proofs.Numeric.PaddedDigits
import Liveness.Proofs.Text.Digit
import Liveness.Proofs.Time.WallTime
import Liveness.Time.Timestamp

namespace Liveness.Time

open Numeric (digitsOfWidth)

def Instant.HasFourDigitYear (t : Instant) : Prop := 1000 ≤ t.year

instance (t : Instant) : Decidable t.HasFourDigitYear := inferInstanceAs (Decidable (1000 ≤ t.year))

def Instant.yearDigits (t : Instant) : List Char := Nat.toDigits 10 t.year.toNat

def WallTime.clockChars (w : WallTime) : List Char :=
  digitsOfWidth 10 2 w.hour ++ ':' :: (digitsOfWidth 10 2 w.minute ++ ':' ::
    (digitsOfWidth 10 2 w.second ++ '.' :: (digitsOfWidth 10 6 w.micro ++ ['Z'])))

def WallTime.dayChars (w : WallTime) : List Char :=
  digitsOfWidth 10 2 w.date.month ++ '-' :: (digitsOfWidth 10 2 w.date.day ++ 'T' :: w.clockChars)

/-- The fields of a wall time, each of a fixed width, with their separators. -/
def WallTime.chars (w : WallTime) : List Char :=
  digitsOfWidth 10 4 w.date.year.toNat ++ '-' :: (digitsOfWidth 10 2 w.date.month ++ '-' ::
    (digitsOfWidth 10 2 w.date.day ++ 'T' :: w.clockChars))

theorem WallTime.IsValid.month_le {w : WallTime} (valid : w.IsValid) : w.date.month ≤ 12 :=
  valid.date.2.1

theorem WallTime.IsValid.day_le {w : WallTime} (valid : w.IsValid) : w.date.day ≤ 31 := by
  have last := valid.date.2.2.2
  have longest : daysInMonth w.date.year w.date.month ≤ 31 := by
    unfold daysInMonth
    split
    · split <;> omega
    · omega
    · omega
    · omega
    · omega
    · omega
  exact last.trans longest

theorem Instant.HasFourDigitYear.yearDigits_eq {t : Instant} (year : t.HasFourDigitYear) :
    t.yearDigits = digitsOfWidth 10 4 t.year.toNat := by
  have bounds := t.year_bounds
  rw [HasFourDigitYear] at year
  have padded : toString t.year.toNat = Numeric.padLeft 4 t.year.toNat :=
    Numeric.toString_eq_padLeft (by omega) (by omega)
  rw [yearDigits, ← Numeric.toList_padLeft (by omega) (by omega), ← padded]
  exact String.toList_ofList.symm

namespace Timestamp

theorem toList_ofInstant (t : Instant) :
    (ofInstant t).toList = t.yearDigits ++ '-' :: t.toWall.dayChars := by
  have valid := t.toWall_isValid
  have bounds := t.year_bounds
  have month := valid.month_le
  have day := valid.day_le
  have hour := valid.hour
  have minute := valid.minute
  have second := valid.second
  have micro := valid.micro
  have year : (toString t.year).toList = t.yearDigits := by
    obtain ⟨n, year⟩ := Int.eq_ofNat_of_zero_le (show 0 ≤ t.year by omega)
    rw [Instant.yearDigits, year]
    exact String.toList_ofList
  rw [ofInstant, String.toList_append, String.toList_append, year]
  delta WallTime.afterYear
  simp only [String.toList_append]
  rw [Numeric.toList_padLeft (by omega) (by omega), Numeric.toList_padLeft (by omega) (by omega),
    Numeric.toList_padLeft (by omega) (by omega), Numeric.toList_padLeft (by omega) (by omega),
    Numeric.toList_padLeft (by omega) (by omega), Numeric.toList_padLeft (by omega) (by omega)]
  simp [WallTime.dayChars, WallTime.clockChars]

theorem toList_ofInstant_eq_chars {t : Instant} (h : t.HasFourDigitYear) :
    (ofInstant t).toList = t.toWall.chars := by
  rw [toList_ofInstant, h.yearDigits_eq]
  rfl

/-! ## The order of texts -/

theorem field_lt_iff {width a b : Nat} (ha : a < 10 ^ width) (hb : b < 10 ^ width)
    (separator : Char) (x y : List Char) :
    digitsOfWidth 10 width a ++ separator :: x < digitsOfWidth 10 width b ++ separator :: y ↔
      a < b ∨ a = b ∧ x < y := by
  rw [Numeric.append_lt_append_iff (by simp), Numeric.digitsOfWidth_lt_iff ha hb,
    Numeric.digitsOfWidth_inj ha hb, List.cons_lt_cons_iff]
  simp

theorem dayChars_lt_dayChars_iff {a b : WallTime} (va : a.IsValid) (vb : b.IsValid)
    (year : a.date.year = b.date.year) : a.dayChars < b.dayChars ↔ a.Before b := by
  have monthA := va.month_le
  have monthB := vb.month_le
  have dayA := va.day_le
  have dayB := vb.day_le
  obtain ⟨-, hourA, minuteA, secondA, microA⟩ := va
  obtain ⟨-, hourB, minuteB, secondB, microB⟩ := vb
  have last : ¬ ([] : List Char) < [] := List.lt_irrefl _
  simp only [WallTime.dayChars, WallTime.clockChars, WallTime.Before, year]
  rw [field_lt_iff (by omega) (by omega), field_lt_iff (by omega) (by omega),
    field_lt_iff (by omega) (by omega), field_lt_iff (by omega) (by omega),
    field_lt_iff (by omega) (by omega), field_lt_iff (by omega) (by omega)]
  simp only [last, and_false, or_false, lt_irrefl, false_or, true_and]

theorem chars_lt_chars_iff {a b : WallTime} (va : a.IsValid) (vb : b.IsValid)
    (ya : 0 ≤ a.date.year ∧ a.date.year < 10000) (yb : 0 ≤ b.date.year ∧ b.date.year < 10000) :
    a.chars < b.chars ↔ a.Before b := by
  have chars (w : WallTime) :
      w.chars = digitsOfWidth 10 4 w.date.year.toNat ++ '-' :: w.dayChars := rfl
  rw [chars, chars, field_lt_iff (by omega) (by omega)]
  rcases lt_trichotomy a.date.year b.date.year with less | same | greater
  · exact iff_of_true (.inl (by omega)) (.inl less)
  · rw [same, dayChars_lt_dayChars_iff va vb same]
    simp
  · refine iff_of_false ?_ fun before => ?_
    · omega
    · rcases before with less | ⟨same, -⟩ <;> omega

theorem ofInstant_lt_ofInstant_iff {a b : Instant} (ha : a.HasFourDigitYear)
    (hb : b.HasFourDigitYear) : ofInstant a < ofInstant b ↔ a.micros < b.micros := by
  have yearA := a.year_bounds
  have yearB := b.year_bounds
  rw [String.lt_iff, toList_ofInstant_eq_chars ha, toList_ofInstant_eq_chars hb,
    Instant.micros_lt_micros_iff]
  refine chars_lt_chars_iff a.toWall_isValid b.toWall_isValid ?_ ?_
  all_goals
    simp only [Instant.year] at yearA yearB
    omega

theorem ofInstant_inj {a b : Instant} (ha : a.HasFourDigitYear) (hb : b.HasFourDigitYear) :
    ofInstant a = ofInstant b ↔ a = b := by
  constructor
  · intro same
    have forward := ofInstant_lt_ofInstant_iff ha hb
    have backward := ofInstant_lt_ofInstant_iff hb ha
    rw [same] at forward backward
    have irrefl : ¬ ofInstant b < ofInstant b := by
      rw [String.lt_iff]
      exact List.lt_irrefl _
    apply Instant.ext
    exact le_antisymm (not_lt.mp (backward.not.mp irrefl)) (not_lt.mp (forward.not.mp irrefl))
  · rintro rfl
    rfl

/-! ## Reading back -/

namespace Reader

variable {α β γ : Type}

def Prefers (reader : Reader α) (cs : List Char) (value : α) (rest : List Char) : Prop :=
  (reader cs).head? = some (value, rest)

theorem Prefers.andThen {first : Reader α} {second : Reader β} {cs middle rest : List Char}
    {a : α} {b : β} (combine : α → β → γ) (one : Prefers first cs a middle)
    (two : Prefers second middle b rest) :
    Prefers (Reader.andThen combine first second) cs (combine a b) rest := by
  obtain ⟨others, heads⟩ := List.head?_eq_some_iff.mp one
  obtain ⟨more, tails⟩ := List.head?_eq_some_iff.mp two
  simp [Prefers, Reader.andThen, heads, tails]

theorem Prefers.orElse {first second : Reader α} {cs rest : List Char} {a : α}
    (one : Prefers first cs a rest) : Prefers (Reader.orElse first second) cs a rest := by
  obtain ⟨others, heads⟩ := List.head?_eq_some_iff.mp one
  simp [Prefers, Reader.orElse, heads]

theorem Prefers.orElse_right {first second : Reader α} {cs rest : List Char} {a : α}
    (none : first cs = []) (two : Prefers second cs a rest) :
    Prefers (Reader.orElse first second) cs a rest := by
  simpa [Prefers, Reader.orElse, none] using two

theorem prefers_oneOf {chars : List Char} {c : Char} (h : c ∈ chars) (rest : List Char) :
    Prefers (oneOf chars) (c :: rest) () rest := by
  simp [Prefers, oneOf, satisfying, h]

theorem Prefers.before {reader : Reader α} {cs rest : List Char} {a : α} {c : Char}
    (one : Prefers reader cs a (c :: rest)) (chars : List Char) (h : c ∈ chars) :
    Prefers (reader.before chars) cs a rest :=
  one.andThen _ (prefers_oneOf h rest)

theorem anyDigit_digitChar {d : Nat} (h : d < 10) (rest : List Char) :
    anyDigit (Nat.digitChar d :: rest) = [(d, rest)] := by
  simp [anyDigit, satisfying, Text.decimalDigit?_digitChar h]

theorem digitFrom_digitChar (least greatest : Nat) {d : Nat} (h : d < 10) (rest : List Char) :
    digitFrom least greatest (Nat.digitChar d :: rest) =
      if least ≤ d ∧ d ≤ greatest then [(d, rest)] else [] := by
  by_cases within : least ≤ d ∧ d ≤ greatest <;>
    simp [digitFrom, satisfying, Text.asciiDigit?_digitChar h, Option.filter_some, within]

theorem andThen_eq_nil {combine : α → β → γ} {first : Reader α} {second : Reader β}
    {cs : List Char} (none : first cs = []) : andThen combine first second cs = [] := by
  simp [andThen, none]

theorem prefers_anyDigit {d : Nat} (h : d < 10) (rest : List Char) :
    Prefers anyDigit (Nat.digitChar d :: rest) d rest := by
  simp [Prefers, anyDigit_digitChar h]

theorem prefers_digitFrom {least greatest d : Nat} (within : least ≤ d ∧ d ≤ greatest) (h : d < 10)
    (rest : List Char) : Prefers (digitFrom least greatest) (Nat.digitChar d :: rest) d rest := by
  simp [Prefers, digitFrom_digitChar least greatest h, within]

theorem digitFrom_eq_nil {least greatest d : Nat} (outside : d < least ∨ greatest < d) (h : d < 10)
    (rest : List Char) : digitFrom least greatest (Nat.digitChar d :: rest) = [] := by
  rw [digitFrom_digitChar least greatest h, if_neg (by omega)]

theorem Prefers.twoDigits {tens units : Reader Nat} {n : Nat} {rest : List Char} (h : n < 100)
    (one : Prefers tens (Nat.digitChar (n / 10 % 10) :: Nat.digitChar (n % 10) :: rest)
      (n / 10 % 10) (Nat.digitChar (n % 10) :: rest))
    (two : Prefers units (Nat.digitChar (n % 10) :: rest) (n % 10) rest) :
    Prefers (pair tens units) (digitsOfWidth 10 2 n ++ rest) n rest := by
  have both := one.andThen (fun t u => 10 * t + u) two
  rwa [show 10 * (n / 10 % 10) + n % 10 = n by omega] at both

theorem prefers_digitFrom_digitFrom {a b c d n : Nat} (h : n < 100)
    (tens : a ≤ n / 10 ∧ n / 10 ≤ b) (units : c ≤ n % 10 ∧ n % 10 ≤ d) (rest : List Char) :
    Prefers (pair (digitFrom a b) (digitFrom c d)) (digitsOfWidth 10 2 n ++ rest) n rest := by
  apply Prefers.twoDigits h
  · exact prefers_digitFrom (by omega) (by omega) _
  · exact prefers_digitFrom units (by omega) _

theorem prefers_digitFrom_anyDigit {a b n : Nat} (h : n < 100) (tens : a ≤ n / 10 ∧ n / 10 ≤ b)
    (rest : List Char) :
    Prefers (pair (digitFrom a b) anyDigit) (digitsOfWidth 10 2 n ++ rest) n rest := by
  apply Prefers.twoDigits h
  · exact prefers_digitFrom (by omega) (by omega) _
  · exact prefers_anyDigit (by omega) _

theorem Prefers.skipTens {a b n : Nat} {units second : Reader Nat} {rest : List Char} (h : n < 100)
    (outside : n / 10 < a ∨ b < n / 10)
    (two : Prefers second (digitsOfWidth 10 2 n ++ rest) n rest) :
    Prefers (Reader.orElse (pair (digitFrom a b) units) second) (digitsOfWidth 10 2 n ++ rest) n
      rest :=
  two.orElse_right (andThen_eq_nil (digitFrom_eq_nil (by omega) (by omega) _))

end Reader

open Reader

theorem year_digitsOfWidth {n : Nat} (h : n < 10000) (rest : List Char) :
    year (digitsOfWidth 10 4 n ++ rest) = [(n, rest)] := by
  have value :
      10 * (10 * (10 * (n / 10 / 10 / 10 % 10) + n / 10 / 10 % 10) + n / 10 % 10) + n % 10 =
      n := by omega
  change year (Nat.digitChar (n / 10 / 10 / 10 % 10) :: Nat.digitChar (n / 10 / 10 % 10) ::
    Nat.digitChar (n / 10 % 10) :: Nat.digitChar (n % 10) :: rest) = _
  simp [year, pair, andThen, anyDigit_digitChar, Nat.mod_lt, value]

theorem prefers_year {n : Nat} (h : n < 10000) (rest : List Char) :
    Prefers year (digitsOfWidth 10 4 n ++ rest) n rest := by
  rw [Prefers, year_digitsOfWidth h, List.head?_cons]

theorem prefers_month {n : Nat} (one : 1 ≤ n) (twelve : n ≤ 12) (rest : List Char) :
    Prefers month (digitsOfWidth 10 2 n ++ rest) n rest := by
  by_cases ten : 10 ≤ n
  · exact (prefers_digitFrom_digitFrom (by omega) (by omega) (by omega) rest).orElse
  · apply Prefers.skipTens (by omega) (by omega)
    exact (prefers_digitFrom_digitFrom (by omega) (by omega) (by omega) rest).orElse

theorem prefers_day {n : Nat} (one : 1 ≤ n) (last : n ≤ 31) (rest : List Char) :
    Prefers day (digitsOfWidth 10 2 n ++ rest) n rest := by
  by_cases thirty : 30 ≤ n
  · exact (prefers_digitFrom_digitFrom (by omega) (by omega) (by omega) rest).orElse
  · apply Prefers.skipTens (by omega) (by omega)
    by_cases ten : 10 ≤ n
    · exact (prefers_digitFrom_anyDigit (by omega) (by omega) rest).orElse
    · apply Prefers.skipTens (by omega) (by omega)
      exact (prefers_digitFrom_digitFrom (by omega) (by omega) (by omega) rest).orElse

theorem prefers_hour {n : Nat} (h : n < 24) (rest : List Char) :
    Prefers hour (digitsOfWidth 10 2 n ++ rest) n rest := by
  by_cases twenty : 20 ≤ n
  · exact (prefers_digitFrom_digitFrom (by omega) (by omega) (by omega) rest).orElse
  · apply Prefers.skipTens (by omega) (by omega)
    exact (prefers_digitFrom_anyDigit (by omega) (by omega) rest).orElse

theorem prefers_minute {n : Nat} (h : n < 60) (rest : List Char) :
    Prefers minute (digitsOfWidth 10 2 n ++ rest) n rest :=
  (prefers_digitFrom_anyDigit (by omega) (by omega) rest).orElse

theorem prefers_second {n : Nat} (h : n < 60) (rest : List Char) :
    Prefers second (digitsOfWidth 10 2 n ++ rest) n rest :=
  (prefers_minute h rest).skipTens (by omega) (by omega)

theorem takeWhile_digitsOfWidth (width n : Nat) :
    (digitsOfWidth 10 width n).takeWhile Text.isAsciiDigit = digitsOfWidth 10 width n := by
  induction width generalizing n with
  | zero => rfl
  | succ width ih =>
      have digit := Text.asciiDigit?_digitChar (Nat.mod_lt n (show 0 < 10 by omega))
      rw [digitsOfWidth, List.takeWhile_append, ih]
      simp [Text.isAsciiDigit, digit]

theorem ofDigits_digitsOfWidth {width n : Nat} (h : n < 10 ^ width) :
    Text.ofDigits 10 ((digitsOfWidth 10 width n).filterMap Text.asciiDigit?) = n := by
  induction width generalizing n with
  | zero =>
      simp only [Nat.pow_zero] at h
      obtain rfl : n = 0 := by omega
      rfl
  | succ width ih =>
      rw [Nat.pow_succ] at h
      have digit := Text.asciiDigit?_digitChar (Nat.mod_lt n (show 0 < 10 by omega))
      have front := ih (n := n / 10) (by omega)
      simp only [Text.ofDigits] at front ⊢
      simp only [digitsOfWidth, List.filterMap_append, List.foldl_append, front,
        List.filterMap_cons, digit, List.filterMap_nil, List.foldl_cons, List.foldl_nil]
      omega

theorem length_filterMap_digitsOfWidth (width n : Nat) :
    ((digitsOfWidth 10 width n).filterMap Text.asciiDigit?).length = width := by
  induction width generalizing n with
  | zero => rfl
  | succ width ih =>
      have digit := Text.asciiDigit?_digitChar (Nat.mod_lt n (show 0 < 10 by omega))
      simp [digitsOfWidth, ih, digit]

theorem fraction_digitsOfWidth {n : Nat} (h : n < 1000000) (rest : List Char) :
    fraction (digitsOfWidth 10 6 n ++ rest) = [(n, rest)] := by
  have six : (digitsOfWidth 10 6 n ++ rest).take 6 = digitsOfWidth 10 6 n := by
    rw [List.take_append_of_le_length (by simp), List.take_of_length_le (by simp)]
  have after : (digitsOfWidth 10 6 n ++ rest).drop 6 = rest := by
    rw [List.drop_append_of_le_length (by simp), List.drop_of_length_le (by simp), List.nil_append]
  have count := length_filterMap_digitsOfWidth 6 n
  simp only [fraction, six, takeWhile_digitsOfWidth, count, after]
  rw [if_neg (by simpa [← List.length_eq_zero_iff] using by omega),
    ofDigits_digitsOfWidth (by omega)]
  simp

theorem prefers_fraction {n : Nat} (h : n < 1000000) (rest : List Char) :
    Prefers fraction (digitsOfWidth 10 6 n ++ rest) n rest := by
  rw [Prefers, fraction_digitsOfWidth h, List.head?_cons]

theorem prefers_clock {w : WallTime} (valid : w.IsValid) :
    Prefers clock w.clockChars (w.hour, w.minute, w.second, w.micro) [] := by
  have colon : ':' ∈ [':'] := List.mem_singleton_self _
  have point : '.' ∈ ['.'] := List.mem_singleton_self _
  apply Prefers.andThen Prod.mk ((prefers_hour valid.hour _).before _ colon)
  apply Prefers.andThen Prod.mk ((prefers_minute valid.minute _).before _ colon)
  apply Prefers.andThen Prod.mk ((prefers_second valid.second _).before _ point)
  exact (prefers_fraction valid.micro _).before _ (by simp)

theorem prefers_date {d : Date} (valid : d.IsValid) (last : d.day ≤ 31)
    (year : 0 ≤ d.year ∧ d.year < 10000) (rest : List Char) :
    Prefers date (digitsOfWidth 10 4 d.year.toNat ++ '-' :: (digitsOfWidth 10 2 d.month ++ '-' ::
      (digitsOfWidth 10 2 d.day ++ 'T' :: rest))) d rest := by
  have monthDay := Prefers.andThen Prod.mk
    ((prefers_month valid.1 valid.2.1 ('-' :: (digitsOfWidth 10 2 d.day ++ 'T' :: rest))).before
      ['-'] (by simp))
    ((prefers_day valid.2.2.1 last ('T' :: rest)).before ['T', 't'] (by simp))
  have whole := Prefers.andThen
    (fun (y : Nat) (monthDay : Nat × Nat) => (⟨y, monthDay.1, monthDay.2⟩ : Date))
    ((prefers_year (n := d.year.toNat) (by omega) _).before ['-'] (List.mem_singleton_self _))
    monthDay
  rwa [Int.toNat_of_nonneg year.1] at whole

theorem prefers_form {w : WallTime} (valid : w.IsValid)
    (year : 0 ≤ w.date.year ∧ w.date.year < 10000) : Prefers form w.chars w [] :=
  (prefers_date valid.date valid.day_le year _).andThen _ (prefers_clock valid)

theorem read_ofInstant {t : Instant} (h : t.HasFourDigitYear) : read (ofInstant t) = .ok t := by
  have bounds := t.year_bounds
  have valid := t.toWall_isValid
  simp only [Instant.year] at bounds
  obtain ⟨others, formed⟩ := List.head?_eq_some_iff.mp (prefers_form valid (by omega))
  rw [read, readChars, toList_ofInstant_eq_chars h, formed]
  have nonzero : t.toWall.date.year ≠ 0 := by omega
  have second := valid.second
  simp only [List.isEmpty_nil, not_true_eq_false, if_false, nonzero, valid.date,
    show ¬ 60 ≤ t.toWall.second by omega, t.toMicros_toWall, t.ofMicros?_micros]

/-! ## Years with fewer digits -/

namespace Reader

variable {α β γ : Type}

theorem mem_andThen {combine : α → β → γ} {first : Reader α} {second : Reader β}
    {cs rest : List Char}
    {c : γ} : (c, rest) ∈ andThen combine first second cs ↔ ∃ a middle b, (a, middle) ∈ first cs ∧
      (b, rest) ∈ second middle ∧ combine a b = c := by
  simp only [andThen, List.mem_flatMap, List.mem_map, Prod.exists, Prod.mk.injEq]
  constructor
  · rintro ⟨a, middle, one, b, _, two, rfl, rfl⟩
    exact ⟨a, middle, b, one, two, rfl⟩
  · rintro ⟨a, middle, b, one, two, rfl⟩
    exact ⟨a, middle, one, b, rest, two, rfl, rfl⟩

theorem mem_satisfying {value? : Char → Option α} {cs rest : List Char} {a : α} :
    (a, rest) ∈ satisfying value? cs ↔ ∃ c, cs = c :: rest ∧ value? c = some a := by
  cases cs with
  | nil => simp [satisfying]
  | cons c cs =>
      cases value : value? c with
      | none =>
          simp only [satisfying, value, List.not_mem_nil, List.cons.injEq, false_iff]
          rintro ⟨_, ⟨rfl, -⟩, value'⟩
          rw [value] at value'
          cases value'
      | some b =>
          simp only [satisfying, value, List.mem_singleton, Prod.mk.injEq, List.cons.injEq]
          constructor
          · rintro ⟨rfl, rfl⟩
            exact ⟨c, ⟨rfl, rfl⟩, value⟩
          · rintro ⟨_, ⟨rfl, rfl⟩, value'⟩
            rw [value] at value'
            exact ⟨(Option.some.inj value').symm, rfl⟩

end Reader

theorem exists_digits_of_mem_year {n : Nat} {cs rest : List Char} (found : (n, rest) ∈ year cs) :
    ∃ digits, digits.length = 4 ∧ (∀ c ∈ digits, Text.decimalDigit? c ≠ none) ∧
      cs = digits ++ rest := by
  simp only [year, pair, anyDigit, mem_andThen, mem_satisfying] at found
  obtain ⟨_, _, _, ⟨_, _, _, ⟨_, _, _, ⟨a, rfl, isA⟩, ⟨b, rfl, isB⟩, -⟩, ⟨c, rfl, isC⟩, -⟩,
    ⟨d, rfl, isD⟩, -⟩ := found
  exact ⟨[a, b, c, d], rfl, by simp [isA, isB, isC, isD], rfl⟩

theorem year_eq_nil {digits : List Char} (short : digits.length < 4) (rest : List Char) :
    year (digits ++ '-' :: rest) = [] := by
  rw [List.eq_nil_iff_forall_not_mem]
  rintro ⟨n, more⟩ found
  obtain ⟨digits', four, areDigits, same⟩ := exists_digits_of_mem_year found
  have dash : (digits' ++ more)[digits.length]? = some '-' := by
    rw [← same, List.getElem?_append_right le_rfl, Nat.sub_self]
    rfl
  rw [List.getElem?_append_left (by omega)] at dash
  exact areDigits _ (List.mem_of_getElem? dash) (by decide)

theorem read_ofInstant_of_short {t : Instant} (short : ¬ t.HasFourDigitYear) :
    read (ofInstant t) = .error (.mismatch (ofInstant t)) := by
  have bounds := t.year_bounds
  unfold Instant.HasFourDigitYear at short
  have few : t.yearDigits.length ≤ 3 :=
    (Nat.length_toDigits_le_iff (by omega) (by omega)).2 (by omega)
  have unread : form (ofInstant t).toList = [] := by
    rw [toList_ofInstant]
    exact andThen_eq_nil (andThen_eq_nil (andThen_eq_nil (year_eq_nil (by omega) _)))
  rw [read, readChars, unread]
  simp

end Timestamp

end Liveness.Time
