import Liveness.Numeric.Binary64
import Mathlib

namespace Liveness.Numeric

variable {num num' den j : Nat} {e : Int}

/-! ## Rounding to a whole number -/

theorem div_le_roundHalfEven (num den : Nat) : num / den ≤ roundHalfEven num den := by
  rw [roundHalfEven]
  split_ifs <;> omega

theorem roundHalfEven_le_div (num den : Nat) : roundHalfEven num den ≤ num / den + 1 := by
  rw [roundHalfEven]
  split_ifs <;> omega

theorem roundHalfEven_mono (le : num ≤ num') : roundHalfEven num den ≤ roundHalfEven num' den := by
  -- Equal quotients leave the order to the remainders, and the tie to the common quotient.
  rcases (Nat.div_le_div_right (c := den) le).lt_or_eq with less | same
  · calc roundHalfEven num den ≤ num / den + 1 := roundHalfEven_le_div num den
      _ ≤ num' / den := less
      _ ≤ roundHalfEven num' den := div_le_roundHalfEven num' den
  · have rest : num % den ≤ num' % den := by
      have whole := Nat.div_add_mod num den
      have whole' := Nat.div_add_mod num' den
      rw [same] at whole
      omega
    simp only [roundHalfEven, same]
    split_ifs <;> omega

theorem roundHalfEven_mul (positive : 0 < den) : roundHalfEven (j * den) den = j := by
  simp [roundHalfEven, positive]

theorem roundHalfEven_le_half (num den : Nat) :
    2 * (den * roundHalfEven num den) ≤ 2 * num + den := by
  have whole := Nat.div_add_mod num den
  rw [roundHalfEven]
  split_ifs with below above
  · omega
  · rw [Nat.mul_add]
    omega
  · have tie : num / den % 2 ≤ 1 := by omega
    have least := Nat.mul_le_mul_left den tie
    rw [Nat.mul_add]
    omega

/-! ## Powers of two -/

theorem scaleDown_mono (le : num ≤ num') : (scaleDown num den e).1 ≤ (scaleDown num' den e).1 := by
  rw [scaleDown, scaleDown]
  split
  · exact le
  · exact Nat.mul_le_mul_right _ le

theorem snd_scaleDown (num num' den : Nat) (e : Int) :
    (scaleDown num den e).2 = (scaleDown num' den e).2 := by
  rw [scaleDown, scaleDown]
  split <;> rfl

theorem scaleDown_pos (num : Nat) (e : Int) (positive : 0 < den) : 0 < (scaleDown num den e).2 := by
  rw [scaleDown]
  split
  · exact Nat.mul_pos positive (Nat.two_pow_pos _)
  · exact positive

theorem two_pow_toNat (nonneg : 0 ≤ e) : (2 : ℚ) ^ e.toNat = 2 ^ e := by
  rw [← zpow_natCast, Int.toNat_of_nonneg nonneg]

theorem scaleDown_ratio (num den : Nat) (e : Int) :
    ((scaleDown num den e).1 : ℚ) / (scaleDown num den e).2 = num / den / 2 ^ e := by
  rw [scaleDown]
  split
  next nonneg =>
      push_cast [Nat.pow_eq]
      rw [two_pow_toNat nonneg, div_div]
  next negative =>
      push_cast [Nat.pow_eq]
      rw [two_pow_toNat (by omega), zpow_neg]
      ring

theorem log2_bounds (positive : 0 < num) :
    (2 : ℚ) ^ (num.log2 : Int) ≤ num ∧ (num : ℚ) < 2 ^ ((num.log2 : Int) + 1) := by
  constructor
  · exact_mod_cast Nat.log2_self_le positive.ne'
  · exact_mod_cast Nat.lt_log2_self (n := num)

theorem ratio_log2_bounds (positive : 0 < num) (positive' : 0 < den) :
    (2 : ℚ) ^ ((num.log2 : Int) - den.log2 - 1) < num / den ∧
      (num : ℚ) / den < 2 ^ ((num.log2 : Int) - den.log2 + 1) := by
  obtain ⟨least, greatest⟩ := log2_bounds positive
  obtain ⟨least', greatest'⟩ := log2_bounds positive'
  have part : (0 : ℚ) < den := by exact_mod_cast positive'
  constructor
  · rw [lt_div_iff₀ part]
    calc (2 : ℚ) ^ ((num.log2 : Int) - den.log2 - 1) * den
        < 2 ^ ((num.log2 : Int) - den.log2 - 1) * 2 ^ ((den.log2 : Int) + 1) := by gcongr
      _ = 2 ^ (num.log2 : Int) := by
        rw [← zpow_add₀ two_ne_zero]
        congr 1
        omega
      _ ≤ num := least
  · rw [div_lt_iff₀ part]
    calc (num : ℚ) < 2 ^ ((num.log2 : Int) + 1) := greatest
      _ = 2 ^ ((num.log2 : Int) - den.log2 + 1) * 2 ^ (den.log2 : Int) := by
        rw [← zpow_add₀ two_ne_zero]
        congr 1
        omega
      _ ≤ 2 ^ ((num.log2 : Int) - den.log2 + 1) * den := by gcongr

theorem floorLog2_spec (positive : 0 < num) (positive' : 0 < den) :
    (2 : ℚ) ^ floorLog2 num den ≤ num / den ∧ (num : ℚ) / den < 2 ^ (floorLog2 num den + 1) := by
  obtain ⟨below, above⟩ := ratio_log2_bounds positive positive'
  have scaled := scaleDown_ratio num den ((num.log2 : Int) - den.log2)
  have part : (0 : ℚ) < (scaleDown num den ((num.log2 : Int) - den.log2)).2 := by
    exact_mod_cast scaleDown_pos num _ positive'
  have power : (0 : ℚ) < 2 ^ ((num.log2 : Int) - den.log2) := by positivity
  rw [floorLog2]
  split
  next reached =>
      refine ⟨?_, above⟩
      rw [← one_le_div power, ← scaled, one_le_div part]
      exact_mod_cast reached
  next missed =>
      refine ⟨below.le, ?_⟩
      rw [sub_add_cancel, ← div_lt_one power, ← scaled, div_lt_one part]
      exact_mod_cast not_le.1 missed

/-! ## Units of a power of two -/

/-- The number of units `2 ^ e` that is nearest to `num / den`. -/
def countUnits (num den : Nat) (e : Int) : Nat :=
  roundHalfEven (scaleDown num den e).1 (scaleDown num den e).2

theorem countUnits_mono (le : num ≤ num') : countUnits num den e ≤ countUnits num' den e := by
  rw [countUnits, countUnits, snd_scaleDown num num']
  exact roundHalfEven_mono (scaleDown_mono le)

theorem le_countUnits (positive : 0 < den) (le : (j : ℚ) * 2 ^ e ≤ num / den) :
    j ≤ countUnits num den e := by
  have part := scaleDown_pos num e positive
  have scaled : (j : ℚ) ≤ (scaleDown num den e).1 / (scaleDown num den e).2 := by
    rwa [scaleDown_ratio, le_div_iff₀ (by positivity)]
  rw [le_div_iff₀ (by exact_mod_cast part)] at scaled
  rw [countUnits, ← roundHalfEven_mul (j := j) part]
  exact roundHalfEven_mono (by exact_mod_cast scaled)

theorem countUnits_le (positive : 0 < den) (le : (num : ℚ) / den ≤ j * 2 ^ e) :
    countUnits num den e ≤ j := by
  have part := scaleDown_pos num e positive
  have scaled : ((scaleDown num den e).1 : ℚ) / (scaleDown num den e).2 ≤ j := by
    rwa [scaleDown_ratio, div_le_iff₀ (by positivity)]
  rw [div_le_iff₀ (by exact_mod_cast part)] at scaled
  rw [countUnits, ← roundHalfEven_mul (j := j) part]
  exact roundHalfEven_mono (by exact_mod_cast scaled)

theorem countUnits_le_half (positive : 0 < den) :
    (countUnits num den e : ℚ) * 2 ^ e ≤ num / den + 2 ^ e / 2 := by
  have part : (0 : ℚ) < (scaleDown num den e).2 := by exact_mod_cast scaleDown_pos num e positive
  have half : 2 * ((scaleDown num den e).2 * (countUnits num den e : ℚ)) ≤
      2 * (scaleDown num den e).1 + (scaleDown num den e).2 := by
    exact_mod_cast roundHalfEven_le_half (scaleDown num den e).1 (scaleDown num den e).2
  have power : (0 : ℚ) < 2 ^ e := by positivity
  have count : (countUnits num den e : ℚ) ≤ num / den / 2 ^ e + 1 / 2 := by
    rw [← scaleDown_ratio, ← sub_le_iff_le_add, le_div_iff₀ part]
    linarith
  calc (countUnits num den e : ℚ) * 2 ^ e ≤ (num / den / 2 ^ e + 1 / 2) * 2 ^ e := by gcongr
    _ = num / den + 2 ^ e / 2 := by field_simp

namespace Binary64

/-! ## The nearest float -/

/-- The exponent of the last place of the float of `num / den`. -/
def unitExponent (num den : Nat) : Int := max (floorLog2 num den - 52) leastExponent

/-- The magnitude of the float of `num / den`, were the exponent not limited above. -/
def nearest (num den : Nat) : ℚ :=
  countUnits num den (unitExponent num den) * 2 ^ unitExponent num den

theorem nearest_nonneg (num den : Nat) : 0 ≤ nearest num den := by
  rw [nearest]
  positivity

theorem nearest_zero (positive : 0 < den) : nearest 0 den = 0 := by
  have count : countUnits 0 den (unitExponent 0 den) ≤ 0 := countUnits_le positive (by simp)
  rw [nearest, Nat.le_zero.1 count, Nat.cast_zero, zero_mul]

theorem unitExponent_mono (positive : 0 < num) (positive' : 0 < den) (le : num ≤ num') :
    unitExponent num den ≤ unitExponent num' den := by
  have least := (floorLog2_spec positive positive').1
  have greatest := (floorLog2_spec (positive.trans_le le) positive').2
  have order : (2 : ℚ) ^ floorLog2 num den < 2 ^ (floorLog2 num' den + 1) := by
    calc (2 : ℚ) ^ floorLog2 num den ≤ num / den := least
      _ ≤ num' / den := by gcongr
      _ < 2 ^ (floorLog2 num' den + 1) := greatest
  rw [zpow_lt_zpow_iff_right₀ one_lt_two] at order
  rw [unitExponent, unitExponent]
  omega

theorem unitExponent_le {k : Nat} (positive : 0 < num) (positive' : 0 < den)
    (small : num < 2 ^ k * den) : unitExponent num den ≤ (k : Int) - 53 := by
  have least := (floorLog2_spec positive positive').1
  have part : (0 : ℚ) < den := by exact_mod_cast positive'
  have order : (2 : ℚ) ^ floorLog2 num den < 2 ^ (k : Int) := by
    refine least.trans_lt ?_
    rw [div_lt_iff₀ part]
    exact_mod_cast small
  rw [zpow_lt_zpow_iff_right₀ one_lt_two] at order
  rw [unitExponent, leastExponent]
  omega

theorem countUnits_unitExponent_le (positive : 0 < num) (positive' : 0 < den) :
    countUnits num den (unitExponent num den) ≤ 2 ^ 53 := by
  have greatest := (floorLog2_spec positive positive').2
  apply countUnits_le positive'
  push_cast
  calc (num : ℚ) / den ≤ 2 ^ (floorLog2 num den + 1) := greatest.le
    _ ≤ 2 ^ (53 + unitExponent num den) := by
      apply zpow_le_zpow_right₀ one_le_two
      rw [unitExponent]
      omega
    _ = 2 ^ 53 * 2 ^ unitExponent num den := zpow_add₀ two_ne_zero 53 _

theorem le_countUnits_unitExponent (positive : 0 < num) (positive' : 0 < den)
    (normal : leastExponent < unitExponent num den) :
    2 ^ 52 ≤ countUnits num den (unitExponent num den) := by
  have least := (floorLog2_spec positive positive').1
  apply le_countUnits positive'
  push_cast
  calc (2 : ℚ) ^ 52 * 2 ^ unitExponent num den = 2 ^ (52 + unitExponent num den) :=
        (zpow_add₀ two_ne_zero 52 _).symm
    _ = 2 ^ floorLog2 num den := by
      congr 1
      rw [unitExponent] at normal ⊢
      omega
    _ ≤ num / den := least

theorem nearest_mono (positive : 0 < den) (le : num ≤ num') :
    nearest num den ≤ nearest num' den := by
  -- In the same unit the counts decide; a greater unit begins where the smaller one ends.
  rcases Nat.eq_zero_or_pos num with rfl | nonzero
  · rw [nearest_zero positive]
    exact nearest_nonneg num' den
  · rcases (unitExponent_mono nonzero positive le).lt_or_eq with less | same
    · have normal : leastExponent < unitExponent num' den :=
        (le_max_right _ _).trans_lt less
      have count : (countUnits num den (unitExponent num den) : ℚ) ≤ 2 ^ 53 := by
        exact_mod_cast countUnits_unitExponent_le nonzero positive
      have count' : (2 : ℚ) ^ 52 ≤ countUnits num' den (unitExponent num' den) := by
        exact_mod_cast le_countUnits_unitExponent (nonzero.trans_le le) positive normal
      calc nearest num den ≤ 2 ^ 53 * 2 ^ unitExponent num den := by
            rw [nearest]
            gcongr
        _ = 2 ^ 52 * 2 ^ (unitExponent num den + 1) := by
            rw [zpow_add_one₀ two_ne_zero]
            ring
        _ ≤ 2 ^ 52 * 2 ^ unitExponent num' den := by
            gcongr
            · exact one_le_two
            · exact less
        _ ≤ nearest num' den := by
            rw [nearest]
            gcongr
    · rw [nearest, nearest, ← same]
      gcongr
      exact countUnits_mono le

theorem div_le_nearest (positive : 0 < den) (whole : unitExponent num den ≤ 0) :
    ((num / den : Nat) : ℚ) ≤ nearest num den := by
  -- Where a unit is at most one, whole numbers are counted exactly.
  have power : (2 : ℚ) ^ (-unitExponent num den).toNat * 2 ^ unitExponent num den = 1 := by
    rw [two_pow_toNat (by omega), ← zpow_add₀ two_ne_zero, neg_add_cancel, zpow_zero]
  have units : (((num / den) * 2 ^ (-unitExponent num den).toNat : Nat) : ℚ) *
      2 ^ unitExponent num den = (num / den : Nat) := by
    push_cast
    rw [mul_assoc, power, mul_one]
  have counted := le_countUnits positive (units.trans_le Nat.cast_div_le)
  rw [nearest, ← units]
  gcongr

theorem nearest_lt_succ {k : Nat} (nonzero : 0 < num) (positive : 0 < den)
    (small : num < 2 ^ k * den) (fine : den * 2 ^ k < 2 ^ 54) :
    nearest num den < (num / den : Nat) + 1 := by
  -- Half a unit of any ratio below `2 ^ k` is less than one part, by the last hypothesis.
  have part : (0 : ℚ) < den := by exact_mod_cast positive
  have half : (2 : ℚ) ^ unitExponent num den / 2 < 1 / den := by
    rw [lt_div_iff₀ part]
    calc (2 : ℚ) ^ unitExponent num den / 2 * den ≤ 2 ^ ((k : Int) - 53) / 2 * den := by
          gcongr
          · exact one_le_two
          · exact unitExponent_le nonzero positive small
      _ = den * 2 ^ k / 2 ^ 54 := by
          rw [zpow_sub₀ two_ne_zero]
          norm_num
          ring
      _ < 1 := by
          rw [div_lt_one (by positivity)]
          exact_mod_cast fine
  have next : (num : ℚ) / den + 1 / den ≤ (num / den : Nat) + 1 := by
    rw [← add_div, div_le_iff₀ part]
    exact_mod_cast Nat.succ_le_of_lt (Nat.lt_div_mul_add positive |>.trans_eq (by ring))
  calc nearest num den ≤ num / den + 2 ^ unitExponent num den / 2 := countUnits_le_half positive
    _ < num / den + 1 / den := by gcongr
    _ ≤ (num / den : Nat) + 1 := next

theorem floor_nearest {k : Nat} (positive : 0 < den) (small : num < 2 ^ k * den)
    (fine : den * 2 ^ k < 2 ^ 54) : ⌊nearest num den⌋ = (num / den : Nat) := by
  rcases Nat.eq_zero_or_pos num with rfl | nonzero
  · simp [nearest_zero positive]
  · have few : k < 54 := by
      rw [← Nat.pow_lt_pow_iff_right (a := 2) (by decide)]
      exact (Nat.le_mul_of_pos_left (2 ^ k) positive).trans_lt fine
    have unit := unitExponent_le nonzero positive small
    rw [Int.floor_eq_iff, Int.cast_natCast]
    exact ⟨div_le_nearest positive (by omega), nearest_lt_succ nonzero positive small fine⟩

/-! ## Whole parts -/

theorem ofRatio_eq (negative : Bool) (nonzero : num ≠ 0) : ofRatio negative num den =
    pack negative (countUnits num den (unitExponent num den)) (unitExponent num den) := by
  rw [ofRatio, if_neg nonzero]
  rfl

theorem truncate?_finite (m : Nat) (e : Int) :
    (finite false m e).truncate? = some ⌊(m : ℚ) * 2 ^ e⌋ := by
  simp only [truncate?, toRatio?, Bool.false_eq_true, if_false]
  split
  next nonneg =>
      have exact : (m : ℚ) * 2 ^ e = ((m * Int.pow 2 e.toNat : Int) : ℚ) := by
        push_cast [Int.pow_eq]
        rw [two_pow_toNat nonneg]
      rw [exact, Int.floor_intCast]
      exact congrArg some (Int.tdiv_one _)
  next negative =>
      have ratio : (m : ℚ) * 2 ^ e = (m : ℚ) / ((2 ^ (-e).toNat : Nat) : ℚ) := by
        push_cast
        rw [two_pow_toNat (by omega), zpow_neg, div_inv_eq_mul]
      rw [ratio, Rat.floor_natCast_div_natCast]
      rfl

theorem truncate?_pack {m : Nat} (low : e < greatestExponent) :
    (pack false m e).truncate? = some ⌊(m : ℚ) * 2 ^ e⌋ := by
  -- A mantissa that grew by a bit is halved in twice the unit.
  rw [pack]
  by_cases carried : m = Nat.pow 2 53
  · have halved : ((Nat.pow 2 52 : Nat) : ℚ) * 2 ^ (e + 1) = m * 2 ^ e := by
      rw [carried, zpow_add_one₀ two_ne_zero]
      push_cast [Nat.pow_eq]
      ring
    simp only [carried, if_true]
    rw [if_neg (by omega), truncate?_finite, halved, carried]
  · simp only [carried, if_false]
    rw [if_neg (by omega), truncate?_finite]

theorem truncate?_ofRatio {k : Nat} (positive : 0 < den) (small : num < 2 ^ k * den)
    (few : k ≤ 1023) : (ofRatio false num den).truncate? = some ⌊nearest num den⌋ := by
  rcases Nat.eq_zero_or_pos num with rfl | nonzero
  · rw [nearest_zero positive, Int.floor_zero, ofRatio, if_pos rfl, zero, truncate?_finite,
      Nat.cast_zero, zero_mul, Int.floor_zero]
  · have unit := unitExponent_le nonzero positive small
    have greatest : greatestExponent = 971 := rfl
    rw [ofRatio_eq false nonzero.ne']
    exact truncate?_pack (by omega)

theorem truncate?_nonpos {m : Nat} {n : Int} (whole : (finite true m e).truncate? = some n) :
    n ≤ 0 := by
  obtain ⟨⟨num, den⟩, ratio, rfl⟩ := Option.map_eq_some_iff.1 whole
  have signed : num ≤ 0 := by
    rw [toRatio?] at ratio
    split at ratio
    · cases ratio
      rw [if_pos rfl, Int.neg_mul]
      exact neg_nonpos.2 (mul_nonneg (Int.natCast_nonneg m) (Int.pow_nonneg (by decide)))
    · cases ratio
      rw [if_pos rfl]
      omega
  have quotient := Int.tdiv_nonneg (neg_nonneg.2 signed) (Int.natCast_nonneg den)
  rw [Int.neg_tdiv] at quotient
  exact neg_nonneg.1 quotient

theorem pack_cases (negative : Bool) (m : Nat) (e : Int) :
    pack negative m e = .infinite negative ∨
      ∃ m' e', pack negative m e = .finite negative m' e' := by
  rw [pack]
  split_ifs <;> simp

theorem truncate?_ofRatio_nonpos {n : Int} (whole : (ofRatio true num den).truncate? = some n) :
    n ≤ 0 := by
  by_cases empty : num = 0
  · rw [empty, ofRatio, if_pos rfl, zero] at whole
    exact truncate?_nonpos whole
  · rw [ofRatio_eq true empty] at whole
    rcases pack_cases true (countUnits num den (unitExponent num den)) (unitExponent num den)
      with infinite | ⟨m, e, finite⟩
    · rw [infinite] at whole
      cases whole
    · rw [finite] at whole
      exact truncate?_nonpos whole

end Binary64

end Liveness.Numeric
