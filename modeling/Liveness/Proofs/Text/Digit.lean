import Liveness.Text.Digit
import Mathlib

namespace Liveness.Text

theorem asciiDigit?_digitChar {d : Nat} (h : d < 10) : asciiDigit? (Nat.digitChar d) = some d := by
  have table : ∀ d < 10, asciiDigit? (Nat.digitChar d) = some d := by decide
  exact table d h

theorem decimalDigit?_digitChar {d : Nat} (h : d < 10) :
    decimalDigit? (Nat.digitChar d) = some d := by
  have table : ∀ d < 10, decimalDigit? (Nat.digitChar d) = some d := by decide
  exact table d h

theorem hexDigit?_digitChar {d : Nat} (h : d < 16) : hexDigit? (Nat.digitChar d) = some d := by
  have table : ∀ d < 16, hexDigit? (Nat.digitChar d) = some d := by decide
  exact table d h

theorem isAsciiDigit_digitChar {d : Nat} (h : d < 10) : isAsciiDigit (Nat.digitChar d) = true := by
  rw [isAsciiDigit, asciiDigit?_digitChar h]
  rfl

theorem exists_digitChar_of_isAsciiDigit {c : Char} (digit : isAsciiDigit c = true) :
    ∃ d < 10, c = Nat.digitChar d := by
  have table : ∀ n < 58, 48 ≤ n → ∃ d < 10, Char.ofNat n = Nat.digitChar d := by decide
  rw [isAsciiDigit, asciiDigit?] at digit
  split at digit
  next within =>
      rw [← Char.ofNat_toNat c]
      exact table c.toNat (Nat.lt_succ_of_le within.2) within.1
  next => cases digit

theorem ofDigits_append_singleton (base : Nat) (ds : List Nat) (d : Nat) :
    ofDigits base (ds ++ [d]) = ofDigits base ds * base + d := by
  simp [ofDigits]

/-- By the recursion that writes digits: the last one, and those of a tenth. -/
theorem toDigits_induction {motive : Nat → Prop} (small : ∀ n < 10, motive n)
    (large : ∀ n, 10 ≤ n → motive (n / 10) → motive n) (n : Nat) : motive n := by
  induction n using Nat.strongRecOn with
  | ind n ih =>
      by_cases h : n < 10
      · exact small n h
      · exact large n (by omega) (ih (n / 10) (by omega))

theorem filterMap_toDigits_concat {n : Nat} (h : 10 ≤ n) :
    (Nat.toDigits 10 n).filterMap asciiDigit? =
      (Nat.toDigits 10 (n / 10)).filterMap asciiDigit? ++ [n % 10] := by
  rw [Nat.toDigits_of_base_le (by omega) h, List.filterMap_append]
  simp [asciiDigit?_digitChar (show n % 10 < 10 by omega)]

theorem ofDigits_toDigits (n : Nat) :
    ofDigits 10 ((Nat.toDigits 10 n).filterMap asciiDigit?) = n := by
  induction n using toDigits_induction with
  | small n h => simp [Nat.toDigits_of_lt_base h, asciiDigit?_digitChar h, ofDigits]
  | large n h ih =>
      rw [filterMap_toDigits_concat h, ofDigits_append_singleton, ih]
      omega

theorem isAsciiDigit_of_mem_toDigits (n : Nat) :
    ∀ c ∈ Nat.toDigits 10 n, isAsciiDigit c = true := by
  induction n using toDigits_induction with
  | small n h => simp [Nat.toDigits_of_lt_base h, isAsciiDigit_digitChar h]
  | large n h ih =>
      rw [Nat.toDigits_of_base_le (by omega) h]
      simp only [List.mem_append, List.mem_singleton]
      rintro c (front | rfl)
      · exact ih c front
      · exact isAsciiDigit_digitChar (by omega)

theorem head?_toDigits_ne_zero {n : Nat} (positive : 0 < n) :
    (Nat.toDigits 10 n).head? ≠ some '0' := by
  induction n using toDigits_induction with
  | small n h =>
      have table : ∀ d < 10, 0 < d → Nat.digitChar d ≠ '0' := by decide
      simpa [Nat.toDigits_of_lt_base h] using table n h positive
  | large n h ih =>
      rw [Nat.toDigits_of_base_le (by omega) h]
      cases front : Nat.toDigits 10 (n / 10) with
      | nil => exact absurd front Nat.toDigits_ne_nil
      | cons c cs =>
          rw [front] at ih
          exact ih (by omega)

end Liveness.Text
