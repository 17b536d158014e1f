import Liveness.Yaml.Scalar

/-!
The order in which a set tells its members: that of the slots in which they lie, each near the slot
of its hash. Numbers have hashes of their own. Other hashes differ from run to run, and with such a
member the order is that of the mapping.
-/

namespace Liveness.Yaml

namespace Scalar

def hashPrime : Nat := Nat.pow 2 61 - 1

/-- A hash as a word. The hash -1 stands for a failure, and -2 takes its place. -/
def hashOf (negative : Bool) (rest : Nat) : Nat :=
  let signed : Int := if negative then -(rest : Int) else rest
  ((if signed = -1 then -2 else signed) % (Nat.pow 2 64 : Nat)).toNat

/-- A power of two leaves the rest of its exponent by 61. -/
def hash? : Scalar → Option Nat
  | .integer n => some (hashOf (n < 0) (n.natAbs % hashPrime))
  | .bool b => some (if b then 1 else 0)
  | .real (.finite negative m e) =>
    some (hashOf negative (m * Nat.pow 2 (e % 61).toNat % hashPrime))
  | .real (.infinite negative) => some (hashOf negative 314159)
  | _ => none

end Scalar

namespace Slots

def sizeFor (count : Nat) : Nat := if count < 5 then 8 else Nat.pow 2 ((2 * count).log2 + 1)

/-- The slot for a hash: the first free one of ten in a row, or of others by the rest of the hash.
-/
def free (slots : Array (Option Scalar)) : Nat → Nat → Nat → Nat
  | 0, slot, _ => slot
  | fuel + 1, slot, rest =>
    let row := if slot + 9 < slots.size then 10 else 1
    match (List.range row).find? fun k => (slots[slot + k]?).join.isNone with
    | some k => slot + k
    | none => free slots fuel ((5 * slot + 1 + rest / 32) % slots.size) (rest / 32)

def put (slots : Array (Option Scalar)) (member : Scalar) (hash : Nat) :
    Array (Option Scalar) :=
  slots.setIfInBounds (free slots (slots.size + 64) (hash % slots.size) hash) (some member)

end Slots

def orderMembers (members : List Scalar) : List Scalar :=
  match members.mapM Scalar.hash? with
  | none => members
  | some hashes =>
    let empty := Array.replicate (Slots.sizeFor members.length) none
    let filled := (members.zip hashes).foldl (fun slots (member, hash) =>
      Slots.put slots member hash) empty
    filled.toList.reduceOption

end Liveness.Yaml
