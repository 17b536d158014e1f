import Liveness.Proofs.Numeric.Rounding
import Liveness.Proofs.Text.Digit
import Liveness.Time.Duration

namespace Liveness.Time

open Numeric (Binary64)
open Text (asciiDigit? isAsciiDigit ofDigits)

/-! ## Seconds counted on a float -/

namespace Duration

variable {d e : Duration}

def HasNineDigitDays (d : Duration) : Prop :=
  -999999999 ≤ d.micros.fdiv 86400000000 ∧ d.micros.fdiv 86400000000 ≤ 999999999

instance (d : Duration) : Decidable d.HasNineDigitDays :=
  inferInstanceAs (Decidable (_ ∧ _))

theorem ageSeconds_of_nonneg {k : Nat} (nonneg : 0 ≤ d.micros)
    (small : d.micros.natAbs < 2 ^ k * 1000000) (few : k ≤ 1023) :
    d.ageSeconds = ⌊Binary64.nearest d.micros.natAbs 1000000⌋.toNat := by
  rw [ageSeconds, seconds, decide_eq_false nonneg.not_gt,
    Binary64.truncate?_ofRatio (by decide) small few]
  rfl

theorem ageSeconds_of_neg (negative : d.micros < 0) : d.ageSeconds = 0 := by
  rw [ageSeconds, seconds, decide_eq_true negative, Int.toNat_eq_zero]
  cases whole : (Binary64.ofRatio true d.micros.natAbs 1000000).truncate? with
  | none => rfl
  | some n => exact Binary64.truncate?_ofRatio_nonpos whole

theorem ageSeconds_eq (small : d.micros.natAbs < 2 ^ 34 * 1000000) :
    (d.ageSeconds : Int) = max 0 (d.micros.fdiv 1000000) := by
  rw [Int.fdiv_eq_ediv_of_nonneg _ (by decide)]
  rcases le_or_gt 0 d.micros with nonneg | negative
  · rw [ageSeconds_of_nonneg nonneg small (by decide),
      Binary64.floor_nearest (by decide) small (by decide), Int.toNat_natCast]
    omega
  · rw [ageSeconds_of_neg negative]
    omega

theorem HasNineDigitDays.natAbs_lt (held : d.HasNineDigitDays) :
    d.micros.natAbs < 2 ^ 47 * 1000000 := by
  rw [HasNineDigitDays, Int.fdiv_eq_ediv_of_nonneg _ (by decide)] at held
  omega

theorem ageSeconds_mono (held : e.HasNineDigitDays) (le : d.micros ≤ e.micros) :
    d.ageSeconds ≤ e.ageSeconds := by
  rcases le_or_gt 0 d.micros with nonneg | negative
  · have small := held.natAbs_lt
    have magnitudes : d.micros.natAbs ≤ e.micros.natAbs := by omega
    rw [ageSeconds_of_nonneg nonneg (magnitudes.trans_lt small) (by decide),
      ageSeconds_of_nonneg (nonneg.trans le) small (by decide)]
    exact Int.toNat_le_toNat (Int.floor_mono (Binary64.nearest_mono (by decide) magnitudes))
  · rw [ageSeconds_of_neg negative]
    exact Nat.zero_le _

end Duration

/-! ## Reading what is shown -/

/-- The numbers that an age is shown by. -/
structure ShownAge where
  hours : Option Nat
  minutes : Nat
  seconds : Nat
deriving DecidableEq

namespace ShownAge

def total (shown : ShownAge) : Nat :=
  shown.hours.getD 0 * 3600 + shown.minutes * 60 + shown.seconds

def readMarked? (mark : Char) (text : List Char) : Option (Nat × List Char) :=
  let digits := text.takeWhile isAsciiDigit
  match text.dropWhile isAsciiDigit with
  | [] => none
  | c :: rest =>
    if c = mark ∧ digits ≠ [] then some (ofDigits 10 (digits.filterMap asciiDigit?), rest) else none

def readMinutes? (hours : Option Nat) (text : List Char) : Option ShownAge := do
  let (minutes, rest) ← readMarked? 'm' text
  let (seconds, rest) ← readMarked? 's' rest
  if rest = [] then return ⟨hours, minutes, seconds⟩ else none

def read? (text : String) : Option ShownAge :=
  match readMarked? 'h' text.toList with
  | some (hours, rest) => readMinutes? (some hours) rest
  | none => readMinutes? none text.toList

variable {mark c : Char} {n : Nat} {rest : List Char}

theorem readMarked?_number (other : isAsciiDigit c = false) : readMarked? mark
    (Nat.toDigits 10 n ++ c :: rest) = if c = mark then some (n, rest) else none := by
  have digits := Text.isAsciiDigit_of_mem_toDigits n
  have stop : ¬ isAsciiDigit c = true := by simp [other]
  rw [readMarked?, List.takeWhile_append_of_pos digits, List.dropWhile_append_of_pos digits,
    List.takeWhile_cons_of_neg stop, List.dropWhile_cons_of_neg stop, List.append_nil]
  simp only [Text.ofDigits_toDigits, ne_eq, Nat.toDigits_ne_nil, not_false_eq_true, and_true]

def ofSeconds (seconds : Nat) : ShownAge :=
  ⟨if seconds / 3600 = 0 then none else some (seconds / 3600), seconds % 3600 / 60, seconds % 60⟩

theorem total_ofSeconds (n : Nat) : (ofSeconds n).total = n := by
  simp only [total, ofSeconds]
  split
  · rw [Option.getD_none]
    omega
  · rw [Option.getD_some]
    omega

theorem isSome_hours_ofSeconds (n : Nat) : (ofSeconds n).hours.isSome ↔ 3600 ≤ n := by
  have reached : 3600 ≤ n ↔ ¬ n / 3600 = 0 := by omega
  rw [reached, ofSeconds]
  split
  next short => simp [short]
  next long => simp [long]

def minutesChars (total : Nat) : List Char :=
  Nat.toDigits 10 (total % 3600 / 60) ++ 'm' :: (Nat.toDigits 10 (total % 60) ++ ['s'])

theorem toList_ageText (d : Duration) : d.ageText.toList =
    if d.ageSeconds / 3600 = 0 then minutesChars d.ageSeconds
    else Nat.toDigits 10 (d.ageSeconds / 3600) ++ 'h' :: minutesChars d.ageSeconds := by
  rw [Duration.ageText]
  split <;> simp [minutesChars, toString]

theorem readMinutes?_minutesChars (hours : Option Nat) (n : Nat) :
    readMinutes? hours (minutesChars n) = some ⟨hours, n % 3600 / 60, n % 60⟩ := by
  have minutes : readMarked? 'm' (minutesChars n) =
      some (n % 3600 / 60, Nat.toDigits 10 (n % 60) ++ ['s']) := by
    rw [minutesChars, readMarked?_number (by decide), if_pos rfl]
  have seconds : readMarked? 's' (Nat.toDigits 10 (n % 60) ++ ['s']) = some (n % 60, []) := by
    rw [readMarked?_number (by decide), if_pos rfl]
  simp [readMinutes?, minutes, seconds]

theorem read?_ageText (d : Duration) : read? d.ageText = some (ofSeconds d.ageSeconds) := by
  -- The marks tell the numbers apart: no hours are read where the first mark is that of minutes.
  rw [read?, toList_ageText]
  by_cases short : d.ageSeconds / 3600 = 0
  · have unmarked : readMarked? 'h' (minutesChars d.ageSeconds) = none := by
      rw [minutesChars, readMarked?_number (by decide), if_neg (by decide)]
    rw [if_pos short, unmarked, ofSeconds, if_pos short]
    exact readMinutes?_minutesChars none d.ageSeconds
  · rw [if_neg short, readMarked?_number (by decide), if_pos rfl, ofSeconds, if_neg short]
    exact readMinutes?_minutesChars (some (d.ageSeconds / 3600)) d.ageSeconds

end ShownAge

/-- What is shown can be read back: hours unless there are none, minutes and seconds. Below `2 ^ 34`
seconds they come to the whole seconds of the duration, although these are counted on a float, and
a longer duration never shows less. -/
theorem ageText_tells_seconds :
    (∀ d : Duration, d.micros.natAbs < 2 ^ 34 * 1000000 →
      ∃ shown, ShownAge.read? d.ageText = some shown ∧
        (shown.total : Int) = max 0 (d.micros.fdiv 1000000) ∧
        shown.minutes < 60 ∧ shown.seconds < 60 ∧
        (shown.hours.isSome ↔ 3600 * 1000000 ≤ d.micros)) ∧
    ∀ d e : Duration, e.HasNineDigitDays → d.micros ≤ e.micros →
      ∃ shown shown', ShownAge.read? d.ageText = some shown ∧
        ShownAge.read? e.ageText = some shown' ∧ shown.total ≤ shown'.total := by
  refine ⟨fun d small => ⟨_, ShownAge.read?_ageText d, ?_, ?_, ?_, ?_⟩, fun d e held le =>
    ⟨_, _, ShownAge.read?_ageText d, ShownAge.read?_ageText e, ?_⟩⟩
  · rw [ShownAge.total_ofSeconds, Duration.ageSeconds_eq small]
  · exact Nat.div_lt_of_lt_mul (Nat.mod_lt _ (by decide))
  · exact Nat.mod_lt _ (by decide)
  · have whole := Duration.ageSeconds_eq small
    rw [Int.fdiv_eq_ediv_of_nonneg _ (by decide)] at whole
    rw [ShownAge.isSome_hours_ofSeconds]
    omega
  · rw [ShownAge.total_ofSeconds, ShownAge.total_ofSeconds]
    exact Duration.ageSeconds_mono held le

theorem ageText_tells_seconds_lastMicroseconds :
    let d : Duration := ⟨17179869183999999⟩
    let longest : Duration := ⟨86399999999999999999⟩
    let shown : ShownAge := ⟨some 4772185, 53, 3⟩
    let shown' : ShownAge := ⟨some 24000000000, 0, 0⟩
    d.micros.natAbs < 2 ^ 34 * 1000000 ∧ longest.HasNineDigitDays ∧ d.micros ≤ longest.micros ∧
      d.ageText = "4772185h53m3s" ∧ ShownAge.read? d.ageText = some shown ∧
      (shown.total : Int) = max 0 (d.micros.fdiv 1000000) ∧
      shown.minutes < 60 ∧ shown.seconds < 60 ∧
      (shown.hours.isSome ↔ 3600 * 1000000 ≤ d.micros) ∧
      ShownAge.read? longest.ageText = some shown' ∧ shown.total ≤ shown'.total := by
  intro d longest shown shown'
  have small : d.micros.natAbs < 2 ^ 34 * 1000000 := by decide
  have held : longest.HasNineDigitDays := by decide
  have le : d.micros ≤ longest.micros := by decide
  have text : d.ageText = "4772185h53m3s" := by decide +kernel
  have read : ShownAge.read? d.ageText = some shown := by decide +kernel
  have read' : ShownAge.read? longest.ageText = some shown' := by decide +kernel
  obtain ⟨exactly, grows⟩ := ageText_tells_seconds
  obtain ⟨_, same, total, minutes, seconds, hours⟩ := exactly d small
  cases same.symm.trans read
  obtain ⟨_, _, same, same', least⟩ := grows d longest held le
  cases same.symm.trans read
  cases same'.symm.trans read'
  exact ⟨small, held, le, text, read, total, minutes, seconds, hours, read', least⟩

example : (⟨17179869184999999⟩ : Duration).ageText = "4772185h53m5s" := by decide +kernel

end Liveness.Time
