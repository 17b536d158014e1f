import Liveness.Proofs.Json.Numbers
import Liveness.Proofs.Numeric.Rounding

namespace Liveness.Numeric

/-! ## Digits that are not zero -/

theorem roundHalfEven_ne_zero {num den : Nat} (positive : 0 < den) (h : den ≤ num) :
    roundHalfEven num den ≠ 0 := by
  have quotient : 1 ≤ num / den := (Nat.one_le_div_iff positive).mpr h
  exact Nat.ne_of_gt (quotient.trans (div_le_roundHalfEven num den))

namespace Decimal

theorem stripZeros_ne_zero (steps : Nat) {d : Decimal} (h : d.digits ≠ 0) :
    (stripZeros steps d).digits ≠ 0 := by
  induction steps generalizing d with
  | zero => exact h
  | succ steps ih =>
      rw [stripZeros]
      split
      · apply ih
        simp only
        omega
      · exact h

theorem candidate_ne_zero {closed : Prop} [Decidable closed] {low high den a b : Nat}
    {exponent : Int} {d : Decimal} (positive : 0 < low)
    (found : (if (if closed then decide (low ≤ a * den ∧ a * den ≤ high)
        else decide (low < a * den ∧ a * den < high)) = true then some (⟨a, exponent⟩ : Decimal)
      else if (if closed then decide (low ≤ b * den ∧ b * den ≤ high)
        else decide (low < b * den ∧ b * den < high)) = true then some ⟨b, exponent⟩
      else none) = some d) : d.digits ≠ 0 := by
  by_cases h : closed
  all_goals
    simp only [h, if_true, if_false, decide_eq_true_eq] at found
    split at found
    · rename_i inside
      obtain rfl := Option.some.inj found
      rintro rfl
      omega
    · split at found
      · rename_i inside
        obtain rfl := Option.some.inj found
        rintro rfl
        omega
      · cases found

theorem inUnits_pos {num : Nat} (positive : 0 < num) (den : Nat) (exponent : Int) :
    0 < (inUnits num den exponent).1 := by
  unfold inUnits
  split
  · exact positive
  · exact Nat.mul_pos positive (Nat.pow_pos (by omega))

theorem onGrid?_ne_zero {mantissa : Nat} (positive : mantissa ≠ 0) {binary exponent : Int}
    {d : Decimal} (found : onGrid? mantissa binary exponent = some d) : d.digits ≠ 0 := by
  have unit : 0 < (scaleDown 1 4 (-binary)).1 := by
    unfold scaleDown
    split
    · exact Nat.one_pos
    · exact Nat.mul_pos Nat.one_pos (Nat.pow_pos (by omega))
  have low : 0 < (roundingQuarters mantissa binary).1 := by
    simp only [roundingQuarters]
    split <;> omega
  simp only [onGrid?] at found
  exact candidate_ne_zero (inUnits_pos (Nat.mul_pos low unit) _ _) found

theorem shortestFrom_ne_zero {mantissa : Nat} (positive : mantissa ≠ 0) {binary top : Int}
    {count steps : Nat} {d : Decimal}
    (found : shortestFrom mantissa binary top count steps = some d) : d.digits ≠ 0 := by
  induction steps generalizing count with
  | zero => cases found
  | succ steps ih =>
      rw [shortestFrom] at found
      split at found
      · rename_i grid
        obtain rfl := Option.some.inj found
        exact onGrid?_ne_zero positive grid
      · exact ih found

/-! ## Rounding to a count of digits -/

theorem digitCount_eq_length {n : Nat} (positive : 0 < n) :
    digitCount n = (Nat.toDigits 10 n).length := if_neg (by omega)

theorem digitCount_pos {n : Nat} (positive : 0 < n) : 0 < digitCount n := by
  rw [digitCount_eq_length positive]
  exact Nat.length_toDigits_pos

theorem lt_pow_digitCount {n : Nat} (positive : 0 < n) : n < 10 ^ digitCount n := by
  have fits : (Nat.toDigits 10 n).length ≤ digitCount n :=
    Nat.le_of_eq (digitCount_eq_length positive).symm
  exact (Nat.length_toDigits_le_iff (by omega) (digitCount_pos positive)).1 fits

theorem pow_digitCount_le {n : Nat} (positive : 0 < n) : 10 ^ (digitCount n - 1) ≤ n := by
  by_cases one : digitCount n - 1 = 0
  · rw [one]
    exact positive
  · rw [← Nat.not_lt, ← Nat.length_toDigits_le_iff (by omega) (Nat.pos_of_ne_zero one),
      ← digitCount_eq_length positive]
    omega

theorem inUnits_le_of_le_floorLog10 {num den : Nat} (numPositive : 0 < num) (denPositive : 0 < den)
    {exponent : Int} (h : exponent ≤ floorLog10 num den) :
    0 < (inUnits num den exponent).2 ∧
      (inUnits num den exponent).2 ≤ (inUnits num den exponent).1 := by
  have power (k : Nat) : 0 < 10 ^ k := Nat.pow_pos (by omega)
  unfold floorLog10 at h
  unfold inUnits
  split at h
  · rename_i large
    have quotient : 0 < num / den := Nat.div_pos large denPositive
    have bound := pow_digitCount_le quotient
    have count := digitCount_pos quotient
    split
    · refine ⟨Nat.mul_pos denPositive (power _), ?_⟩
      calc den * 10 ^ exponent.toNat
        _ ≤ den * 10 ^ (digitCount (num / den) - 1) :=
          Nat.mul_le_mul_left _ (Nat.pow_le_pow_right (by omega) (by omega))
        _ ≤ den * (num / den) := Nat.mul_le_mul_left _ bound
        _ ≤ num := Nat.mul_div_le num den
    · refine ⟨denPositive, ?_⟩
      calc den ≤ num := large
        _ ≤ num * 10 ^ (-exponent).toNat := Nat.le_mul_of_pos_right _ (power _)
  · rename_i small
    have quotient : 0 < (den - 1) / num := Nat.div_pos (by omega) numPositive
    have bound := lt_pow_digitCount quotient
    have count := digitCount_pos quotient
    rw [if_neg (by omega)]
    refine ⟨denPositive, ?_⟩
    have below := (Nat.div_lt_iff_lt_mul numPositive).mp bound
    rw [Nat.mul_comm] at below
    calc den ≤ num * 10 ^ digitCount ((den - 1) / num) := by omega
      _ ≤ num * 10 ^ (-exponent).toNat :=
        Nat.mul_le_mul_left _ (Nat.pow_le_pow_right (by omega) (by omega))

theorem rounded_ne_zero {count num den : Nat} (some : 0 < count) (numPositive : 0 < num)
    (denPositive : 0 < den) : (rounded count num den).digits ≠ 0 := by
  obtain ⟨positive, le⟩ := inUnits_le_of_le_floorLog10 numPositive denPositive
    (show floorLog10 num den - count + 1 ≤ floorLog10 num den by omega)
  exact stripZeros_ne_zero _ (roundHalfEven_ne_zero positive le)

theorem shortest_ne_zero {mantissa : Nat} (positive : mantissa ≠ 0) (binary : Int) :
    (shortest mantissa binary).digits ≠ 0 := by
  rw [shortest, if_neg positive]
  simp only
  split
  · rename_i found
    exact stripZeros_ne_zero _ (shortestFrom_ne_zero positive found)
  · have scaled : 0 < (scaleDown mantissa 1 (-binary)).1 ∧
        0 < (scaleDown mantissa 1 (-binary)).2 := by
      unfold scaleDown
      split
      · exact ⟨by omega, Nat.mul_pos Nat.one_pos (Nat.pow_pos (by omega))⟩
      · exact ⟨Nat.mul_pos (by omega) (Nat.pow_pos (by omega)), Nat.one_pos⟩
    exact rounded_ne_zero (by omega) scaled.1 scaled.2

end Decimal

end Liveness.Numeric

namespace Liveness.Json

open Numeric (Decimal FloatFormat)
open Text (isAsciiDigit)

theorem toList_sign (negative : Bool) :
    (if negative then "-" else "").toList = signText negative := by
  cases negative <;> rfl

theorem toList_fraction (digits : List Char) :
    (if digits.isEmpty then "" else "." ++ String.ofList digits).toList = fractionText digits := by
  cases digits <;> simp [fractionText]

theorem isAsciiDigit_of_mem_zeros {k : Nat} {c : Char} (h : c ∈ List.replicate k '0') :
    isAsciiDigit c = true := by
  rw [List.eq_of_mem_replicate h]
  rfl

theorem padLeft_all (width n : Nat) :
    ∀ c ∈ (Numeric.padLeft width n).toList, isAsciiDigit c = true := by
  intro c member
  rw [Numeric.padLeft, String.toList_ofList, List.mem_append] at member
  rcases member with zeros | digits
  · exact isAsciiDigit_of_mem_zeros zeros
  · exact Text.isAsciiDigit_of_mem_toDigits n c digits

theorem padLeft_ne_nil (width n : Nat) : (Numeric.padLeft width n).toList ≠ [] := by
  rw [Numeric.padLeft, String.toList_ofList]
  exact List.append_ne_nil_of_right_ne_nil _ Nat.toDigits_ne_nil

def exponentParts (negative : Bool) (n : Nat) (positive : 0 < n) (top : Int) : FloatParts where
  negative := negative
  whole := (Nat.toDigits 10 n).take 1
  fraction := (Nat.toDigits 10 n).drop 1
  exponent := some (decide (top < 0), (Numeric.padLeft 2 top.natAbs).toList)
  isWhole := {
    nonempty := by
      rw [ne_eq, List.take_eq_nil_iff]
      exact fun h => h.elim (by decide) Nat.toDigits_ne_nil
    all := fun c member => Text.isAsciiDigit_of_mem_toDigits n c (List.mem_of_mem_take member)
    front := .inr (by
      rw [List.head?_take, if_neg (by decide)]
      exact Text.head?_toDigits_ne_zero positive) }
  fraction_all := fun c member =>
    Text.isAsciiDigit_of_mem_toDigits n c (List.mem_of_mem_drop member)
  exponent_all := by
    rintro e ⟨⟩
    dsimp only
    exact ⟨padLeft_ne_nil _ _, padLeft_all _ _⟩
  isFloat := .inr rfl

theorem isWhole_append_zeros {n k : Nat} (proper : n = 0 → k = 0) :
    IsWhole (Nat.toDigits 10 n ++ List.replicate k '0') where
  nonempty := List.append_ne_nil_of_left_ne_nil Nat.toDigits_ne_nil _
  all := by
    intro c member
    rcases List.mem_append.mp member with digits | zeros
    · exact Text.isAsciiDigit_of_mem_toDigits n c digits
    · exact isAsciiDigit_of_mem_zeros zeros
  front := by
    rcases Nat.eq_zero_or_pos n with rfl | positive
    · rw [proper rfl]
      exact .inl rfl
    · right
      cases digits : Nat.toDigits 10 n with
      | nil => exact absurd digits Nat.toDigits_ne_nil
      | cons c cs =>
          have front := Text.head?_toDigits_ne_zero positive
          rwa [digits] at front

def pointParts (negative : Bool) (n k : Nat) (proper : n = 0 → k = 0) : FloatParts where
  negative := negative
  whole := Nat.toDigits 10 n ++ List.replicate k '0'
  fraction := ['0']
  exponent := none
  isWhole := isWhole_append_zeros proper
  fraction_all := by
    rintro c member
    rw [List.mem_singleton.mp member]
    rfl
  exponent_all := by rintro e ⟨⟩
  isFloat := .inl (List.cons_ne_nil _ _)

def paddedDigits (n places : Nat) : List Char :=
  List.replicate (places + 1 - (Nat.toDigits 10 n).length) '0' ++ Nat.toDigits 10 n

theorem paddedDigits_all (n places : Nat) : ∀ c ∈ paddedDigits n places, isAsciiDigit c = true := by
  intro c member
  rcases List.mem_append.mp member with zeros | digits
  · exact isAsciiDigit_of_mem_zeros zeros
  · exact Text.isAsciiDigit_of_mem_toDigits n c digits

theorem places_lt_length_paddedDigits (n places : Nat) :
    places < (paddedDigits n places).length := by
  rw [paddedDigits, List.length_append, List.length_replicate]
  omega

theorem isWhole_take_paddedDigits {n places : Nat} (positive : 0 < n) :
    IsWhole ((paddedDigits n places).take ((paddedDigits n places).length - places)) where
  nonempty := by
    have long := places_lt_length_paddedDigits n places
    rw [ne_eq, ← List.length_eq_zero_iff, List.length_take]
    omega
  all := fun c member => paddedDigits_all n places c (List.mem_of_mem_take member)
  front := by
    have digits := Text.head?_toDigits_ne_zero positive
    by_cases short : (Nat.toDigits 10 n).length ≤ places
    · left
      obtain ⟨k, zeros⟩ : ∃ k, places + 1 - (Nat.toDigits 10 n).length = k + 1 :=
        Nat.exists_eq_succ_of_ne_zero (by omega)
      have length : (paddedDigits n places).length - places = 1 := by
        rw [paddedDigits, List.length_append, List.length_replicate]
        omega
      rw [length, paddedDigits, zeros, List.replicate_succ]
      rfl
    · right
      have none : places + 1 - (Nat.toDigits 10 n).length = 0 := by omega
      rw [paddedDigits, none, List.replicate_zero, List.nil_append, List.head?_take,
        if_neg (by omega)]
      exact digits

def fractionParts (negative : Bool) (n places : Nat) (positive : 0 < n) (some : 0 < places) :
    FloatParts where
  negative := negative
  whole := (paddedDigits n places).take ((paddedDigits n places).length - places)
  fraction := (paddedDigits n places).drop ((paddedDigits n places).length - places)
  exponent := none
  isWhole := isWhole_take_paddedDigits positive
  fraction_all := fun c member => paddedDigits_all n places c (List.mem_of_mem_drop member)
  exponent_all := by rintro e ⟨⟩
  isFloat := .inl (by
    have long := places_lt_length_paddedDigits n places
    rw [ne_eq, ← List.length_eq_zero_iff, List.length_drop]
    omega)

theorem render_zero (negative : Bool) {d : Decimal} (zero : d.digits = 0) (le : d.exponent ≤ 0) :
    (FloatFormat.exact.render negative d).toList =
      (pointParts negative 0 0 fun _ => rfl).chars := by
  have none : d.exponent.toNat = 0 := by omega
  simp [FloatFormat.render, FloatFormat.exact, zero, none, pointParts, FloatParts.chars,
    toList_sign, fractionText, exponentText]

/-- The three ways to place the point, one for each form of the text. -/
theorem render_eq_chars (negative : Bool) {d : Decimal} (proper : d.digits = 0 → d.exponent ≤ 0) :
    ∃ parts : FloatParts, (FloatFormat.exact.render negative d).toList = parts.chars := by
  by_cases zero : d.digits = 0
  · exact ⟨_, render_zero negative zero (proper zero)⟩
  · have positive : 0 < d.digits := Nat.pos_of_ne_zero zero
    simp only [FloatFormat.render, FloatFormat.exact, String.toList_append, toList_sign, zero,
      if_false, or_false]
    generalize d.exponent + (Nat.toDigits 10 d.digits).length - 1 = top
    split
    · refine ⟨exponentParts negative d.digits positive top, congrArg (signText negative ++ ·) ?_⟩
      simp only [FloatFormat.exponentText, exponentParts, fractionText, exponentText,
        String.toList_append, String.toList_ofList]
      rw [toList_fraction]
      by_cases down : top < 0 <;> simp [down, fractionText]
    · split
      · refine ⟨pointParts negative d.digits d.exponent.toNat fun h => absurd h zero,
          congrArg (signText negative ++ ·) ?_⟩
        simp [pointParts, fractionText, exponentText]
      · have some : 0 < (-d.exponent).toNat := by omega
        refine ⟨fractionParts negative d.digits (-d.exponent).toNat positive some,
          congrArg (signText negative ++ ·) ?_⟩
        have nonempty := (fractionParts negative d.digits (-d.exponent).toNat positive some).isFloat
        simp only [fractionParts, Option.isSome_none, Bool.false_eq_true, or_false] at nonempty
        simp only [fractionParts, exponentText, fractionText, List.isEmpty_iff, nonempty, if_false,
          List.append_nil, String.toList_append, String.toList_ofList]
        exact List.append_assoc _ _ _

theorem floatText_eq_chars (negative : Bool) (mantissa : Nat) (exponent : Int) :
    ∃ parts : FloatParts,
      (floatText (.finite negative mantissa exponent)).toList = parts.chars := by
  apply render_eq_chars
  intro zero
  by_cases none : mantissa = 0
  · simp [Decimal.shortest, none]
  · exact absurd zero (Decimal.shortest_ne_zero none exponent)

end Liveness.Json
