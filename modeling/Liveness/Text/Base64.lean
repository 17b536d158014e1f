namespace Liveness.Text

def sextet? (c : Char) : Option Nat :=
  if 'A' ≤ c ∧ c ≤ 'Z' then some (c.toNat - 'A'.toNat)
  else if 'a' ≤ c ∧ c ≤ 'z' then some (c.toNat - 'a'.toNat + 26)
  else if '0' ≤ c ∧ c ≤ '9' then some (c.toNat - '0'.toNat + 52)
  else if c = '+' then some 62
  else if c = '/' then some 63
  else none

/-- Reads on after `position` characters of a group, the last of which left the bits `left`, and
`pads` marks of padding. A group that is neither complete nor padded is refused. -/
def base64From (position left pads : Nat) : List Char → Option (List UInt8)
  | [] => if position = 0 then some [] else none
  | c :: rest =>
    if c = '=' then
      if position < 2 then base64From position left pads rest
      else if 4 ≤ position + pads + 1 then some []
      else base64From position left (pads + 1) rest
    else match sextet? c, position with
      | none, _ => base64From position left pads rest
      | some bits, 0 => base64From 1 bits 0 rest
      | some bits, 1 =>
        (base64From 2 (bits % 16) 0 rest).map ((left * 4 + bits / 16).toUInt8 :: ·)
      | some bits, 2 =>
        (base64From 3 (bits % 4) 0 rest).map ((left * 16 + bits / 4).toUInt8 :: ·)
      | some bits, _ => (base64From 0 0 0 rest).map ((left * 64 + bits).toUInt8 :: ·)

def base64? (text : List Char) : Option (List UInt8) := base64From 0 0 0 text

end Liveness.Text
