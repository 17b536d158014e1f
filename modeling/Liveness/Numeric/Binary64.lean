/-!
Binary floating point numbers of 64 bits, kept exactly: a sign, a whole mantissa and a power of
two. Every operation is the exact rational operation followed by one rounding to nearest, ties to
the even mantissa, so that laws about it are laws about natural numbers.
-/

namespace Liveness.Numeric

def roundHalfEven (num den : Nat) : Nat :=
  let quotient := num / den
  let remainder := num % den
  if 2 * remainder < den then quotient
  else if den < 2 * remainder then quotient + 1
  else quotient + quotient % 2

def roundIntHalfEven (num : Int) (den : Nat) : Int :=
  if num < 0 then - (roundHalfEven num.natAbs den : Int) else roundHalfEven num.natAbs den

def scaleDown (num den : Nat) (exponent : Int) : Nat × Nat :=
  if 0 ≤ exponent then (num, den * Nat.pow 2 exponent.toNat)
  else (num * Nat.pow 2 (-exponent).toNat, den)

def floorLog2 (num den : Nat) : Int :=
  let k : Int := (num.log2 : Int) - den.log2
  let scaled := scaleDown num den k
  if scaled.2 ≤ scaled.1 then k else k - 1

/-- A finite number is `± mantissa * 2 ^ exponent` with `mantissa < 2 ^ 53` and an exponent from
`-1074` to `971`; the mantissa is at least `2 ^ 52` unless the exponent is the least one. -/
inductive Binary64 where
  | finite (negative : Bool) (mantissa : Nat) (exponent : Int)
  | infinite (negative : Bool)
  | notANumber
deriving DecidableEq, Inhabited

namespace Binary64

def leastExponent : Int := -1074

def greatestExponent : Int := 971

def zero (negative : Bool) : Binary64 := .finite negative 0 leastExponent

/-- A mantissa that grew to `2 ^ 53` is halved, and an exponent above the greatest overflows. -/
def pack (negative : Bool) (mantissa : Nat) (exponent : Int) : Binary64 :=
  let carried := mantissa = Nat.pow 2 53
  let m := if carried then Nat.pow 2 52 else mantissa
  let e := if carried then exponent + 1 else exponent
  if greatestExponent < e then .infinite negative else .finite negative m e

def ofRatio (negative : Bool) (num den : Nat) : Binary64 :=
  if num = 0 then zero negative
  else
    let exponent := max (floorLog2 num den - 52) leastExponent
    let scaled := scaleDown num den exponent
    pack negative (roundHalfEven scaled.1 scaled.2) exponent

def ofInt (n : Int) : Binary64 := ofRatio (n < 0) n.natAbs 1

/-- The number nearest to `± digits * 10 ^ exponent`. Beyond four hundred places on either side
the answer no longer depends on the digits, and the power of ten is not computed. -/
def ofDecimal (negative : Bool) (digits : Nat) (exponent : Int) : Binary64 :=
  if digits = 0 then zero negative
  else
    let places : Int := (Nat.toDigits 10 digits).length
    if 400 < exponent + places then .infinite negative
    else if exponent + places < -400 then zero negative
    else if 0 ≤ exponent then ofRatio negative (digits * Nat.pow 10 exponent.toNat) 1
    else ofRatio negative digits (Nat.pow 10 (-exponent).toNat)

def toRatio? : Binary64 → Option (Int × Nat)
  | .finite negative m e =>
    let signed : Int := if negative then - (m : Int) else m
    if 0 ≤ e then some (signed * Int.pow 2 e.toNat, 1) else some (signed, Nat.pow 2 (-e).toNat)
  | _ => none

def toRat? (x : Binary64) : Option Rat :=
  x.toRatio?.map fun (num, den) => mkRat num den

def truncate? (x : Binary64) : Option Int :=
  x.toRatio?.map fun (num, den) => num.tdiv den

def floor? (x : Binary64) : Option Int :=
  x.toRatio?.map fun (num, den) => num.fdiv den

def isNegative : Binary64 → Bool
  | .finite negative _ _ => negative
  | .infinite negative => negative
  | .notANumber => false

def isZero : Binary64 → Bool
  | .finite _ m _ => m == 0
  | _ => false

def neg : Binary64 → Binary64
  | .finite negative m e => .finite (!negative) m e
  | .infinite negative => .infinite (!negative)
  | .notANumber => .notANumber

def add (x y : Binary64) : Binary64 :=
  match x, y with
  | .notANumber, _ | _, .notANumber => .notANumber
  | .infinite a, .infinite b => if a = b then .infinite a else .notANumber
  | .infinite a, _ => .infinite a
  | _, .infinite b => .infinite b
  | .finite a m e, .finite b n f =>
    let low := min e f
    let left : Int := (m * Nat.pow 2 (e - low).toNat : Nat)
    let right : Int := (n * Nat.pow 2 (f - low).toNat : Nat)
    let sum := (if a then -left else left) + (if b then -right else right)
    if sum = 0 then zero (a && b)
    else if 0 ≤ low then ofRatio (sum < 0) (sum.natAbs * Nat.pow 2 low.toNat) 1
    else ofRatio (sum < 0) sum.natAbs (Nat.pow 2 (-low).toNat)

def mul (x y : Binary64) : Binary64 :=
  match x, y with
  | .notANumber, _ | _, .notANumber => .notANumber
  | .infinite a, y => if y.isZero then .notANumber else .infinite (a ^^ y.isNegative)
  | x, .infinite b => if x.isZero then .notANumber else .infinite (x.isNegative ^^ b)
  | .finite a m e, .finite b n f =>
    if 0 ≤ e + f then ofRatio (a ^^ b) (m * n * Nat.pow 2 (e + f).toNat) 1
    else ofRatio (a ^^ b) (m * n) (Nat.pow 2 (-(e + f)).toNat)

end Binary64

end Liveness.Numeric
