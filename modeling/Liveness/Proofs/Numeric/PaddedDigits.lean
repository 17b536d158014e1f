import Liveness.Numeric.Decimal
import Mathlib

namespace Liveness.Numeric

/-! ## Texts with a beginning of the same length -/

theorem append_lt_append_iff {a b x y : List Char} (h : a.length = b.length) :
    a ++ x < b ++ y ↔ a < b ∨ a = b ∧ x < y := by
  induction a generalizing b with
  | nil =>
      obtain rfl : b = [] := List.length_eq_zero_iff.mp h.symm
      simp
  | cons c a ih =>
      cases b with
      | nil => simp at h
      | cons d b =>
          simp only [List.length_cons, Nat.add_right_cancel_iff] at h
          simp only [List.cons_append, List.cons_lt_cons_iff, ih h, List.cons.injEq]
          tauto

/-! ## Digits of a fixed width -/

/-- The last digits of a number in a base, as many as the width tells. -/
def digitsOfWidth (base : Nat) : Nat → Nat → List Char
  | 0, _ => []
  | width + 1, n => digitsOfWidth base width (n / base) ++ [Nat.digitChar (n % base)]

@[simp]
theorem length_digitsOfWidth (base width n : Nat) :
    (digitsOfWidth base width n).length = width := by
  induction width generalizing n with
  | zero => rfl
  | succ width ih => simp [digitsOfWidth, ih]

theorem digitsOfWidth_zero (base width : Nat) :
    digitsOfWidth base width 0 = List.replicate width '0' := by
  induction width with
  | zero => rfl
  | succ width ih =>
      rw [digitsOfWidth, Nat.zero_div, ih, List.replicate_succ', Nat.zero_mod]
      rfl

theorem padded_toDigits {base width n : Nat} (proper : 1 < base) (positive : 0 < width)
    (h : n < base ^ width) :
    List.replicate (width - (Nat.toDigits base n).length) '0' ++ Nat.toDigits base n =
      digitsOfWidth base width n := by
  induction width generalizing n with
  | zero => omega
  | succ width ih =>
      by_cases small : n < base
      · rw [Nat.toDigits_of_lt_base small, digitsOfWidth, Nat.div_eq_of_lt small,
          digitsOfWidth_zero, Nat.mod_eq_of_lt small]
        rfl
      · have wide : 0 < width := by
          rcases Nat.eq_zero_or_pos width with rfl | wide
          · simp at h
            omega
          · exact wide
        have shorter : n / base < base ^ width := by
          rw [Nat.pow_succ] at h
          exact Nat.div_lt_of_lt_mul (by rwa [Nat.mul_comm])
        rw [Nat.toDigits_of_base_le proper (by omega), digitsOfWidth, ← ih wide shorter,
          List.length_append, List.length_singleton, Nat.add_sub_add_right, List.append_assoc]

theorem toList_padLeft {width n : Nat} (positive : 0 < width) (h : n < 10 ^ width) :
    (padLeft width n).toList = digitsOfWidth 10 width n := by
  simp only [padLeft, String.toList_ofList]
  exact padded_toDigits (by omega) positive h

/-! ## The order of decimal digits -/

theorem digitChar_lt_digitChar_iff {a b : Nat} (ha : a < 10) (hb : b < 10) :
    Nat.digitChar a < Nat.digitChar b ↔ a < b := by
  have table : ∀ a < 10, ∀ b < 10, (Nat.digitChar a < Nat.digitChar b ↔ a < b) := by decide
  exact table a ha b hb

theorem digitChar_inj {a b : Nat} (ha : a < 10) (hb : b < 10) :
    Nat.digitChar a = Nat.digitChar b ↔ a = b := by
  have table : ∀ a < 10, ∀ b < 10, (Nat.digitChar a = Nat.digitChar b ↔ a = b) := by decide
  exact table a ha b hb

theorem digitsOfWidth_inj {width a b : Nat} (ha : a < 10 ^ width) (hb : b < 10 ^ width) :
    digitsOfWidth 10 width a = digitsOfWidth 10 width b ↔ a = b := by
  induction width generalizing a b with
  | zero =>
      simp only [Nat.pow_zero] at ha hb
      simp only [digitsOfWidth, true_iff]
      omega
  | succ width ih =>
      rw [Nat.pow_succ] at ha hb
      simp only [digitsOfWidth, List.append_singleton_inj]
      rw [ih (by omega) (by omega), digitChar_inj (by omega) (by omega)]
      omega

theorem digitsOfWidth_lt_iff {width a b : Nat} (ha : a < 10 ^ width) (hb : b < 10 ^ width) :
    digitsOfWidth 10 width a < digitsOfWidth 10 width b ↔ a < b := by
  -- By induction on the width: the digits before the last one decide, unless they agree.
  induction width generalizing a b with
  | zero =>
      simp only [Nat.pow_zero] at ha hb
      simp only [digitsOfWidth, List.lt_irrefl, false_iff]
      omega
  | succ width ih =>
      rw [Nat.pow_succ] at ha hb
      simp only [digitsOfWidth]
      rw [append_lt_append_iff (by simp), ih (by omega) (by omega),
        digitsOfWidth_inj (by omega) (by omega), List.cons_lt_cons_iff,
        digitChar_lt_digitChar_iff (by omega) (by omega)]
      simp only [List.lt_irrefl, and_false, or_false]
      omega

theorem toString_eq_padLeft {n : Nat} (least : 1000 ≤ n) (greatest : n < 10000) :
    toString n = padLeft 4 n := by
  have digits : (Nat.toDigits 10 n).length = 4 := by
    rw [Nat.toDigits_of_base_le (by omega) (by omega),
      Nat.toDigits_of_base_le (by omega) (by omega),
      Nat.toDigits_of_base_le (by omega) (by omega), Nat.toDigits_of_lt_base (by omega)]
    rfl
  simp only [padLeft, digits, Nat.sub_self, List.replicate_zero, List.nil_append]
  rfl

end Liveness.Numeric
