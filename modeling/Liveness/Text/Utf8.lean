namespace Liveness.Text

def utf8Bytes (c : Char) : List UInt8 :=
  let n := c.toNat
  let tail (shift : Nat) : UInt8 := (0x80 + n / Nat.pow 2 shift % 0x40).toUInt8
  if n < 0x80 then [n.toUInt8]
  else if n < 0x800 then [(0xc0 + n / 0x40).toUInt8, tail 0]
  else if n < 0x10000 then [(0xe0 + n / 0x1000).toUInt8, tail 6, tail 0]
  else [(0xf0 + n / 0x40000).toUInt8, tail 12, tail 6, tail 0]

def utf8Encode (text : List Char) : List UInt8 := text.flatMap utf8Bytes

def tailBits? (b : UInt8) : Option Nat :=
  if 0x80 ≤ b.toNat ∧ b.toNat < 0xc0 then some (b.toNat - 0x80) else none

/-- A character from its leading bits and later bytes, if it is not below the least code point
that needs so many bytes. -/
def joinBits? (lead : Nat) (tails : List UInt8) (least : Nat) : Option Char := do
  let bits ← tails.mapM tailBits?
  let n := bits.foldl (fun acc b => acc * 0x40 + b) lead
  if least ≤ n ∧ n ≤ 0x10ffff ∧ ¬ (0xd800 ≤ n ∧ n < 0xe000) then some (Char.ofNat n) else none

def utf8Decode? : List UInt8 → Option (List Char)
  | [] => some []
  | a :: rest =>
    let n := a.toNat
    if n < 0x80 then (utf8Decode? rest).map (Char.ofNat n :: ·)
    else match n / 0x20 == 6, n / 0x10 == 14, n / 8 == 30, rest with
      | true, _, _, b :: rest => do
        let c ← joinBits? (n - 0xc0) [b] 0x80
        let cs ← utf8Decode? rest
        return c :: cs
      | _, true, _, b :: b' :: rest => do
        let c ← joinBits? (n - 0xe0) [b, b'] 0x800
        let cs ← utf8Decode? rest
        return c :: cs
      | _, _, true, b :: b' :: b'' :: rest => do
        let c ← joinBits? (n - 0xf0) [b, b', b''] 0x10000
        let cs ← utf8Decode? rest
        return c :: cs
      | _, _, _, _ => none

def utf8Lossy (bytes : List UInt8) : String :=
  match utf8Decode? bytes with
  | some text => String.ofList text
  | none => String.ofList (bytes.map fun b => if b < 0x80 then Char.ofNat b.toNat else '\ufffd')

end Liveness.Text
