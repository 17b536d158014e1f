import Liveness.Text.Utf8
import Mathlib

namespace Liveness.Text

theorem toNat_toUInt8 {n : Nat} (byte : n < 256) : n.toUInt8.toNat = n := by
  simp [Nat.mod_eq_of_lt byte]

def tailByte (n : Nat) : UInt8 := (0x80 + n % 0x40).toUInt8

theorem tailBits?_tailByte (n : Nat) : tailBits? (tailByte n) = some (n % 0x40) := by
  have bits : n % 0x40 < 0x40 := Nat.mod_lt n (by decide)
  have value : (tailByte n).toNat = 0x80 + n % 0x40 := toNat_toUInt8 (by omega)
  simp only [tailBits?, value]
  rw [if_pos (by omega), Nat.add_sub_cancel_left]

theorem char_toNat_bounds (c : Char) :
    c.toNat ≤ 0x10ffff ∧ ¬ (0xd800 ≤ c.toNat ∧ c.toNat < 0xe000) := by
  have valid := c.valid
  simp only [UInt32.isValidChar, Nat.isValidChar] at valid
  change c.val.toNat ≤ 0x10ffff ∧ ¬ (0xd800 ≤ c.val.toNat ∧ c.val.toNat < 0xe000)
  omega

/-- The bytes of a character: one for ASCII, else a leading byte and the later ones. -/
theorem utf8Bytes_cases (c : Char) :
    (c.toNat < 0x80 ∧ utf8Bytes c = [c.toNat.toUInt8]) ∨
    (0x80 ≤ c.toNat ∧ c.toNat < 0x800 ∧
      utf8Bytes c = [(0xc0 + c.toNat / 0x40).toUInt8, tailByte c.toNat]) ∨
    (0x800 ≤ c.toNat ∧ c.toNat < 0x10000 ∧ utf8Bytes c =
      [(0xe0 + c.toNat / 0x1000).toUInt8, tailByte (c.toNat / 0x40), tailByte c.toNat]) ∨
    (0x10000 ≤ c.toNat ∧ utf8Bytes c =
      [(0xf0 + c.toNat / 0x40000).toUInt8, tailByte (c.toNat / 0x1000),
        tailByte (c.toNat / 0x40), tailByte c.toNat]) := by
  simp only [utf8Bytes, tailByte, Nat.pow_eq, Nat.reducePow, Nat.div_one]
  split
  next one => exact .inl ⟨one, rfl⟩
  next notOne =>
      split
      next two => exact .inr (.inl ⟨by omega, two, rfl⟩)
      next notTwo =>
          split
          next three => exact .inr (.inr (.inl ⟨by omega, three, rfl⟩))
          next notThree => exact .inr (.inr (.inr ⟨by omega, rfl⟩))

theorem joinBits?_eq_some {c : Char} {lead least : Nat} {tails : List UInt8} (bits : List Nat)
    (read : tails.mapM tailBits? = some bits)
    (joined : bits.foldl (fun acc b => acc * 0x40 + b) lead = c.toNat) (enough : least ≤ c.toNat) :
    joinBits? lead tails least = some c := by
  obtain ⟨most, whole⟩ := char_toNat_bounds c
  simp only [joinBits?, read, joined, Option.bind_eq_bind, Option.bind_some]
  rw [if_pos ⟨enough, most, whole⟩, Char.ofNat_toNat]

/-! ## Leading bytes -/

theorem utf8Decode?_two {lead : Nat} (bits : lead < 0x20) (b : UInt8) (rest : List UInt8) :
    utf8Decode? ((0xc0 + lead).toUInt8 :: b :: rest) =
      (joinBits? lead [b] 0x80).bind fun c => (utf8Decode? rest).map (c :: ·) := by
  have value : (0xc0 + lead).toUInt8.toNat = 0xc0 + lead := toNat_toUInt8 (by omega)
  have two : ((0xc0 + lead) / 0x20 == 6) = true := beq_iff_eq.2 (by omega)
  rw [utf8Decode?.eq_def]
  simp only [value, two, Nat.add_sub_cancel_left]
  rw [if_neg (by omega)]
  cases joinBits? lead [b] 0x80 <;> cases utf8Decode? rest <;> rfl

theorem utf8Decode?_three {lead : Nat} (bits : lead < 0x10) (b b' : UInt8) (rest : List UInt8) :
    utf8Decode? ((0xe0 + lead).toUInt8 :: b :: b' :: rest) =
      (joinBits? lead [b, b'] 0x800).bind fun c => (utf8Decode? rest).map (c :: ·) := by
  have value : (0xe0 + lead).toUInt8.toNat = 0xe0 + lead := toNat_toUInt8 (by omega)
  have two : ((0xe0 + lead) / 0x20 == 6) = false := beq_eq_false_iff_ne.2 (by omega)
  have three : ((0xe0 + lead) / 0x10 == 14) = true := beq_iff_eq.2 (by omega)
  rw [utf8Decode?.eq_def]
  simp only [value, two, three, Nat.add_sub_cancel_left]
  rw [if_neg (by omega)]
  cases joinBits? lead [b, b'] 0x800 <;> cases utf8Decode? rest <;> rfl

theorem utf8Decode?_four {lead : Nat} (bits : lead < 8) (b b' b'' : UInt8) (rest : List UInt8) :
    utf8Decode? ((0xf0 + lead).toUInt8 :: b :: b' :: b'' :: rest) =
      (joinBits? lead [b, b', b''] 0x10000).bind fun c => (utf8Decode? rest).map (c :: ·) := by
  have value : (0xf0 + lead).toUInt8.toNat = 0xf0 + lead := toNat_toUInt8 (by omega)
  have two : ((0xf0 + lead) / 0x20 == 6) = false := beq_eq_false_iff_ne.2 (by omega)
  have three : ((0xf0 + lead) / 0x10 == 14) = false := beq_eq_false_iff_ne.2 (by omega)
  have four : ((0xf0 + lead) / 8 == 30) = true := beq_iff_eq.2 (by omega)
  rw [utf8Decode?.eq_def]
  simp only [value, two, three, four, Nat.add_sub_cancel_left]
  rw [if_neg (by omega)]
  cases joinBits? lead [b, b', b''] 0x10000 <;> cases utf8Decode? rest <;> rfl

/-! ## Characters -/

theorem utf8Decode?_utf8Bytes (c : Char) (rest : List UInt8) :
    utf8Decode? (utf8Bytes c ++ rest) = (utf8Decode? rest).map (c :: ·) := by
  obtain ⟨most, -⟩ := char_toNat_bounds c
  obtain ⟨one, bytes⟩ | ⟨least, below, bytes⟩ | ⟨least, below, bytes⟩ | ⟨least, bytes⟩ :=
    utf8Bytes_cases c
  · have value : c.toNat.toUInt8.toNat = c.toNat := toNat_toUInt8 (by omega)
    rw [bytes, List.singleton_append, utf8Decode?.eq_def]
    simp only [value, one, if_true, Char.ofNat_toNat]
  · have joins : joinBits? (c.toNat / 0x40) [tailByte c.toNat] 0x80 = some c :=
      joinBits?_eq_some [c.toNat % 0x40] (by simp [tailBits?_tailByte])
        (by simp only [List.foldl_cons, List.foldl_nil]; omega) least
    rw [bytes, List.cons_append, List.singleton_append, utf8Decode?_two (by omega), joins,
      Option.bind_some]
  · have joins : joinBits? (c.toNat / 0x1000) [tailByte (c.toNat / 0x40), tailByte c.toNat]
        0x800 = some c :=
      joinBits?_eq_some [c.toNat / 0x40 % 0x40, c.toNat % 0x40] (by simp [tailBits?_tailByte])
        (by simp only [List.foldl_cons, List.foldl_nil]; omega) least
    rw [bytes, List.cons_append, List.cons_append, List.singleton_append,
      utf8Decode?_three (by omega), joins, Option.bind_some]
  · have joins : joinBits? (c.toNat / 0x40000)
        [tailByte (c.toNat / 0x1000), tailByte (c.toNat / 0x40), tailByte c.toNat]
        0x10000 = some c :=
      joinBits?_eq_some [c.toNat / 0x1000 % 0x40, c.toNat / 0x40 % 0x40, c.toNat % 0x40]
        (by simp [tailBits?_tailByte]) (by simp only [List.foldl_cons, List.foldl_nil]; omega)
        least
    rw [bytes, List.cons_append, List.cons_append, List.cons_append, List.singleton_append,
      utf8Decode?_four (by omega), joins, Option.bind_some]

theorem utf8Decode?_utf8Encode (text : List Char) : utf8Decode? (utf8Encode text) = some text := by
  induction text with
  | nil => rfl
  | cons c text ih =>
      rw [utf8Encode] at ih ⊢
      rw [List.flatMap_cons, utf8Decode?_utf8Bytes, ih, Option.map_some]

theorem toUInt8_ne_zero {n : Nat} (least : 0 < n) (byte : n < 256) : (0 : UInt8) ≠ n.toUInt8 := by
  intro same
  have zero := congrArg UInt8.toNat same
  rw [toNat_toUInt8 byte] at zero
  exact least.ne zero

theorem tailByte_ne_zero (n : Nat) : (0 : UInt8) ≠ tailByte n :=
  toUInt8_ne_zero (by omega) (by omega)

theorem zero_notMem_utf8Bytes {c : Char} (nonzero : c ≠ '\x00') : 0 ∉ utf8Bytes c := by
  obtain ⟨most, -⟩ := char_toNat_bounds c
  have positive : 0 < c.toNat := Nat.pos_of_ne_zero fun zero => nonzero (Char.toNat_inj.1 zero)
  obtain ⟨one, bytes⟩ | ⟨least, below, bytes⟩ | ⟨least, below, bytes⟩ | ⟨least, bytes⟩ :=
    utf8Bytes_cases c
  all_goals
    simp only [bytes, List.mem_cons, List.not_mem_nil, or_false, tailByte_ne_zero]
    exact toUInt8_ne_zero (by omega) (by omega)

end Liveness.Text
