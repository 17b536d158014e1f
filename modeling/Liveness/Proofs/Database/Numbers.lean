import Liveness.Database.Cell
import Mathlib

namespace Liveness

open Numeric (Binary64)
open Text (digitLimit)

/-! ## Floats -/

namespace Numeric.Binary64

def magnitude : Nat := 2 ^ 53 * 2 ^ greatestExponent.toNat

/-- A finite float has a mantissa and an exponent that eight bytes hold. -/
def IsStored : Binary64 → Prop
  | .finite _ m e => m < 2 ^ 53 ∧ e ≤ greatestExponent
  | _ => True

instance : (x : Binary64) → Decidable x.IsStored
  | .finite _ m e => inferInstanceAs (Decidable (m < 2 ^ 53 ∧ e ≤ greatestExponent))
  | .infinite _ | .notANumber => .isTrue trivial

theorem natAbs_truncate?_le {negative : Bool} {m k : Nat} {e n : Int}
    (low : e.toNat ≤ k) (whole : (finite negative m e).truncate? = some n) :
    n.natAbs ≤ m * 2 ^ k := by
  have signed : (if negative then -(m : Int) else m).natAbs = m := by
    split <;> simp
  obtain ⟨⟨num, den⟩, ratio, rfl⟩ := Option.map_eq_some_iff.1 whole
  dsimp only
  rw [Int.natAbs_tdiv]
  refine (Nat.div_le_self ..).trans ?_
  rw [toRatio?] at ratio
  split at ratio
  · cases ratio
    rw [Int.natAbs_mul, signed, show Int.pow 2 e.toNat = 2 ^ e.toNat from rfl, Int.natAbs_pow]
    exact Nat.mul_le_mul_left m (Nat.pow_le_pow_right (by decide) low)
  · cases ratio
    rw [signed]
    exact Nat.le_mul_of_pos_right m (Nat.two_pow_pos k)

theorem natAbs_truncate?_lt {x : Binary64} {n : Int} (stored : x.IsStored)
    (whole : x.truncate? = some n) : n.natAbs < magnitude := by
  cases x with
  | infinite negative => cases whole
  | notANumber => cases whole
  | finite negative m e =>
      obtain ⟨small, low⟩ := stored
      have least := natAbs_truncate?_le (Int.toNat_le_toNat low) whole
      exact least.trans_lt (Nat.mul_lt_mul_of_pos_right small (Nat.two_pow_pos _))

theorem double_pow_le {k l : Nat} (h : k + 54 ≤ l) :
    2 ^ 53 * 2 ^ k + 2 ^ 53 * 2 ^ k ≤ 10 ^ l := by
  calc 2 ^ 53 * 2 ^ k + 2 ^ 53 * 2 ^ k = 2 ^ (k + 54) := by ring
    _ ≤ 10 ^ (k + 54) := Nat.pow_le_pow_left (by decide) _
    _ ≤ 10 ^ l := Nat.pow_le_pow_right (by decide) h

theorem double_magnitude_le : magnitude + magnitude ≤ 10 ^ digitLimit := by
  rw [magnitude]
  exact double_pow_le (by decide)

end Numeric.Binary64

/-! ## Cells -/

namespace Database.Cell

def IsNumeric : Cell → Prop
  | .null => True
  | .integer n => fitsInteger n = true
  | .real x => x.IsStored
  | .text _ => False

instance : (cell : Cell) → Decidable cell.IsNumeric
  | .null => .isTrue trivial
  | .integer n => inferInstanceAs (Decidable (fitsInteger n = true))
  | .real x => inferInstanceAs (Decidable x.IsStored)
  | .text _ => .isFalse not_false

theorem natAbs_lt_of_fitsInteger {n : Int} (fits : fitsInteger n = true) :
    n.natAbs < Binary64.magnitude := by
  have least : leastInteger = -9223372036854775808 := rfl
  have greatest : greatestInteger = 9223372036854775807 := rfl
  have word : 9223372036854775808 < Binary64.magnitude := by
    have power : 2 ^ 11 ≤ 2 ^ Binary64.greatestExponent.toNat :=
      Nat.pow_le_pow_right (by decide) (by decide)
    rw [Binary64.magnitude]
    omega
  rw [fitsInteger, Bool.and_eq_true, decide_eq_true_eq, decide_eq_true_eq] at fits
  omega

theorem natAbs_toInt_lt {cell : Cell} {n : Int} (numeric : cell.IsNumeric)
    (read : cell.toInt = .ok n) : n.natAbs < Binary64.magnitude := by
  cases cell with
  | null => cases read
  | text s => cases numeric
  | integer m =>
      cases read
      exact natAbs_lt_of_fitsInteger numeric
  | real x =>
      rw [toInt] at read
      split at read
      next m whole =>
          cases read
          exact Binary64.natAbs_truncate?_lt numeric whole
      next => cases read

end Database.Cell

end Liveness
