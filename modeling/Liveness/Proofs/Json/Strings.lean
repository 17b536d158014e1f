import Liveness.Json.Parser
import Liveness.Json.Printer
import Liveness.Proofs.Numeric.PaddedDigits
import Liveness.Proofs.Text.Digit

namespace Liveness.Json

def consChar (c : Char) (result : Except Halt (List Char × List Char)) :
    Except Halt (List Char × List Char) :=
  result.map fun (s, more) => (c :: s, more)

/-! ## Escapes of four digits -/

theorem unitEscape_eq {unit : Nat} (h : unit < 0x10000) : unitEscape unit =
    ['\\', 'u', Nat.digitChar (unit / 16 / 16 / 16 % 16), Nat.digitChar (unit / 16 / 16 % 16),
      Nat.digitChar (unit / 16 % 16), Nat.digitChar (unit % 16)] := by
  rw [unitEscape, Text.hexText, Numeric.padded_toDigits (by omega) (by omega) (by omega)]
  rfl

theorem unit?_digits {unit : Nat} (h : unit < 0x10000) :
    unit? (Nat.digitChar (unit / 16 / 16 / 16 % 16)) (Nat.digitChar (unit / 16 / 16 % 16))
      (Nat.digitChar (unit / 16 % 16)) (Nat.digitChar (unit % 16)) = some unit := by
  rw [unit?, Text.hexDigit?_digitChar (by omega), Text.hexDigit?_digitChar (by omega),
    Text.hexDigit?_digitChar (by omega), Text.hexDigit?_digitChar (by omega)]
  simp only [Option.bind_eq_bind, Option.bind_some, Option.pure_def, Text.ofDigits, List.foldl_cons,
    List.foldl_nil, Option.some.injEq]
  omega

theorem char_bounds (c : Char) : c.toNat < 0xd800 ∨ 0xe000 ≤ c.toNat ∧ c.toNat < 0x110000 := by
  have valid := c.valid
  simp only [UInt32.isValidChar, Nat.isValidChar] at valid
  have value : c.toNat = c.val.toNat := rfl
  omega

theorem ofUnit_toNat (c : Char) : ofUnit c.toNat = c := by
  have bounds := char_bounds c
  rw [ofUnit, if_neg (by omega), Char.ofNat_toNat]

theorem isHighSurrogate_toNat (c : Char) : isHighSurrogate c.toNat = false := by
  have bounds := char_bounds c
  simp only [isHighSurrogate, Bool.and_eq_false_iff, decide_eq_false_iff_not]
  omega

theorem readString_unitEscape (opened : Nat) {c : Char} (h : c.toNat < 0x10000) (next : Char)
    (rest : List Char) : readString opened (unitEscape c.toNat ++ next :: rest) =
      consChar c (readString opened (next :: rest)) := by
  rw [unitEscape_eq h]
  simp only [List.cons_append, List.nil_append]
  rw [readString.eq_4]
  simp only [unit?_digits h, isHighSurrogate_toNat, ofUnit_toNat]
  rfl

/-- A character beyond the basic plane: two escapes that are read as one. -/
theorem readString_surrogates (opened : Nat) {c : Char} (h : 0x10000 ≤ c.toNat) (next : Char)
    (rest : List Char) :
    readString opened (unitEscape (0xd800 + (c.toNat - 0x10000) / 0x400) ++
      unitEscape (0xdc00 + (c.toNat - 0x10000) % 0x400) ++ next :: rest) =
        consChar c (readString opened (next :: rest)) := by
  have bounds := char_bounds c
  have high : 0xd800 + (c.toNat - 0x10000) / 0x400 < 0xdc00 := by omega
  have low : 0xdc00 + (c.toNat - 0x10000) % 0x400 < 0xe000 := by omega
  have joined : joinSurrogates (0xd800 + (c.toNat - 0x10000) / 0x400)
      (0xdc00 + (c.toNat - 0x10000) % 0x400) = c := by
    rw [joinSurrogates, show 0x10000 + (0xd800 + (c.toNat - 0x10000) / 0x400 - 0xd800) * 0x400 +
      (0xdc00 + (c.toNat - 0x10000) % 0x400 - 0xdc00) = c.toNat by omega, Char.ofNat_toNat]
  have isHigh : isHighSurrogate (0xd800 + (c.toNat - 0x10000) / 0x400) = true := by
    simp only [isHighSurrogate, Bool.and_eq_true, decide_eq_true_eq]
    omega
  have isLow : isLowSurrogate (0xdc00 + (c.toNat - 0x10000) % 0x400) = true := by
    simp only [isLowSurrogate, Bool.and_eq_true, decide_eq_true_eq]
    omega
  generalize 0xd800 + (c.toNat - 0x10000) / 0x400 = first at *
  generalize 0xdc00 + (c.toNat - 0x10000) % 0x400 = last at *
  rw [unitEscape_eq (by omega), unitEscape_eq (by omega)]
  simp only [List.cons_append, List.nil_append]
  rw [readString.eq_4]
  simp only [unit?_digits (show first < 0x10000 by omega),
    unit?_digits (show last < 0x10000 by omega), isHigh, isLow, joined, if_true]
  rfl

/-! ## Strings -/

theorem readString_shortEscape (opened : Nat) {mark c : Char} (other : mark ≠ 'u')
    (escape : simpleEscape? mark = some c) (rest : List Char) :
    readString opened ('\\' :: mark :: rest) = consChar c (readString opened rest) := by
  rw [readString.eq_6 opened mark rest (fun _ _ _ _ _ _ u _ => other u) other, escape]
  rfl

theorem readString_plain (opened : Nat) {c : Char} (quote : c ≠ '"') (backslash : c ≠ '\\')
    (control : 0x20 ≤ c.toNat) (rest : List Char) :
    readString opened (c :: rest) = consChar c (readString opened rest) := by
  rw [readString.eq_7 opened c rest quote (fun b _ => backslash b)
    (fun _ _ _ _ _ _ b _ => backslash b) (fun _ b _ => backslash b) (fun _ _ b _ => backslash b),
    if_neg (by omega)]
  rfl

/-- A character is written as a short escape, by its unit or its two units, or as it is. -/
theorem escapeChar_cases (c : Char) :
    (∃ mark, mark ≠ 'u' ∧ simpleEscape? mark = some c ∧ escapeChar true c = ['\\', mark]) ∨
    (c.toNat < 0x10000 ∧ escapeChar true c = unitEscape c.toNat) ∨
    (0x10000 ≤ c.toNat ∧ escapeChar true c =
      unitEscape (0xd800 + (c.toNat - 0x10000) / 0x400) ++
        unitEscape (0xdc00 + (c.toNat - 0x10000) % 0x400)) ∨
    (c ≠ '"' ∧ c ≠ '\\' ∧ 0x20 ≤ c.toNat ∧ escapeChar true c = [c]) := by
  by_cases short : ∃ mark ∈ ['"', '\\', 'n', 'r', 't', 'f', 'b'], simpleEscape? mark = some c
  · obtain ⟨mark, listed, escape⟩ := short
    refine .inl ⟨mark, ?_, escape, ?_⟩
    · rintro rfl
      cases escape
    · fin_cases listed <;> cases escape <;> rfl
  · have other (mark : Char) (listed : mark ∈ ['"', '\\', 'n', 'r', 't', 'f', 'b']) {d : Char}
        (escape : simpleEscape? mark = some d) : c ≠ d := by
      rintro rfl
      exact short ⟨mark, listed, escape⟩
    have quote := other '"' (by decide) rfl
    have backslash := other '\\' (by decide) rfl
    rw [escapeChar, if_neg quote, if_neg backslash, if_neg (other 'n' (by decide) rfl),
      if_neg (other 'r' (by decide) rfl), if_neg (other 't' (by decide) rfl),
      if_neg (other 'f' (by decide) rfl), if_neg (other 'b' (by decide) rfl)]
    by_cases control : c.toNat < 0x20
    · rw [if_pos control]
      exact .inr (.inl ⟨by omega, rfl⟩)
    rw [if_neg control, Bool.true_and]
    by_cases ascii : 0x7f ≤ c.toNat
    · rw [if_pos (decide_eq_true ascii)]
      by_cases basic : c.toNat < 0x10000
      · rw [if_pos basic]
        exact .inr (.inl ⟨basic, rfl⟩)
      · rw [if_neg basic]
        exact .inr (.inr (.inl ⟨by omega, rfl⟩))
    · rw [if_neg (by simpa using ascii)]
      exact .inr (.inr (.inr ⟨quote, backslash, by omega, rfl⟩))

theorem readString_escapeChar (opened : Nat) (c next : Char) (rest : List Char) :
    readString opened (escapeChar true c ++ next :: rest) =
      consChar c (readString opened (next :: rest)) := by
  obtain ⟨mark, other, escape, written⟩ | ⟨basic, written⟩ | ⟨beyond, written⟩ |
    ⟨quote, backslash, control, written⟩ := escapeChar_cases c
  · rw [written]
    exact readString_shortEscape opened other escape _
  · rw [written]
    exact readString_unitEscape opened basic next rest
  · rw [written]
    exact readString_surrogates opened beyond next rest
  · rw [written]
    exact readString_plain opened quote backslash control _

theorem readString_escaped (opened : Nat) (s rest : List Char) :
    readString opened (s.flatMap (escapeChar true) ++ '"' :: rest) = .ok (s, rest) := by
  induction s with
  | nil => rfl
  | cons c s ih =>
      obtain ⟨next, more, tail⟩ : ∃ next more,
          s.flatMap (escapeChar true) ++ '"' :: rest = next :: more := by
        cases h : s.flatMap (escapeChar true) with
        | nil => exact ⟨'"', rest, rfl⟩
        | cons d ds => exact ⟨d, ds ++ '"' :: rest, rfl⟩
      rw [List.flatMap_cons, List.append_assoc, tail, readString_escapeChar, ← tail, ih]
      rfl

end Liveness.Json
