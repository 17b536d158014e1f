import Liveness.Numeric.Binary64

namespace Liveness.Numeric

def padLeft (width n : Nat) : String :=
  let digits := Nat.toDigits 10 n
  String.ofList (List.replicate (width - digits.length) '0' ++ digits)

def digitCount (n : Nat) : Nat :=
  if n = 0 then 0 else (Nat.toDigits 10 n).length

def floorLog10 (num den : Nat) : Int :=
  if den ≤ num then (digitCount (num / den) : Int) - 1
  else - (digitCount ((den - 1) / num) : Int)

structure Decimal where
  digits : Nat
  exponent : Int
deriving DecidableEq, Inhabited

namespace Decimal

def stripZeros : Nat → Decimal → Decimal
  | 0, d => d
  | steps + 1, d =>
    if d.digits ≠ 0 ∧ d.digits % 10 = 0 then stripZeros steps ⟨d.digits / 10, d.exponent + 1⟩
    else d

def normalize (d : Decimal) : Decimal := stripZeros (digitCount d.digits) d

def inUnits (num den : Nat) (exponent : Int) : Nat × Nat :=
  if 0 ≤ exponent then (num, den * Nat.pow 10 exponent.toNat)
  else (num * Nat.pow 10 (-exponent).toNat, den)

def rounded (count num den : Nat) : Decimal :=
  let exponent := floorLog10 num den - count + 1
  let units := inUnits num den exponent
  normalize ⟨roundHalfEven units.1 units.2, exponent⟩

/-- The reals that round to `mantissa * 2 ^ exponent`, in quarters of a unit of the mantissa:
least, value, greatest. Below a power of two the neighbour is half as far. -/
def roundingQuarters (mantissa : Nat) (exponent : Int) : Nat × Nat × Nat :=
  let low := if mantissa = Nat.pow 2 52 ∧ Binary64.leastExponent < exponent then 1 else 2
  (4 * mantissa - low, 4 * mantissa, 4 * mantissa + 2)

/-- Of the two neighbours of a value on the grid `10 ^ exponent`, the nearest that lies in the
interval of reals rounding to the same number. -/
def onGrid? (mantissa : Nat) (binary : Int) (exponent : Int) : Option Decimal :=
  let (low, value, high) := roundingQuarters mantissa binary
  let closed := mantissa % 2 = 0
  let unit := scaleDown 1 4 (-binary)
  let located (quarters : Nat) := inUnits (quarters * unit.1) unit.2 exponent
  let (num, den) := located value
  let below := num / den
  let inside (k : Nat) : Bool :=
    let (lowNum, _) := located low
    let (highNum, _) := located high
    if closed then lowNum ≤ k * den ∧ k * den ≤ highNum else lowNum < k * den ∧ k * den < highNum
  let nearest := roundHalfEven num den
  let other := if nearest = below then below + 1 else below
  if inside nearest then some ⟨nearest, exponent⟩
  else if inside other then some ⟨other, exponent⟩
  else none

def shortestFrom (mantissa : Nat) (binary : Int) (top : Int) : Nat → Nat → Option Decimal
  | _, 0 => none
  | count, steps + 1 =>
    match onGrid? mantissa binary (top - count + 1) with
    | some d => some d
    | none => shortestFrom mantissa binary top (count + 1) steps

/-- The fewest digits that read back as `mantissa * 2 ^ binary`, nearest to it among those. -/
def shortest (mantissa : Nat) (binary : Int) : Decimal :=
  if mantissa = 0 then ⟨0, 0⟩
  else
    let value := scaleDown mantissa 1 (-binary)
    match shortestFrom mantissa binary (floorLog10 value.1 value.2) 1 17 with
    | some d => normalize d
    | none => rounded 17 value.1 value.2

end Decimal

/-- How a float is written: the decimal exponents that are written without an exponent mark, and
whether a whole number keeps a point and a zero. -/
structure FloatFormat where
  leastPlain : Int
  greatestPlain : Int
  keepsPoint : Bool

def FloatFormat.exact : FloatFormat := ⟨-4, 15, true⟩

def FloatFormat.brief : FloatFormat := ⟨-4, 5, false⟩

namespace FloatFormat

def exponentText (e : Int) : String :=
  "e" ++ (if e < 0 then "-" else "+") ++ padLeft 2 e.natAbs

def render (format : FloatFormat) (negative : Bool) (d : Decimal) : String :=
  let digits := Nat.toDigits 10 d.digits
  let count := digits.length
  let top : Int := if d.digits = 0 then 0 else d.exponent + count - 1
  let sign := if negative then "-" else ""
  let body :=
    if top < format.leastPlain ∨ format.greatestPlain < top then
      let fraction := digits.drop 1
      String.ofList (digits.take 1) ++
        (if fraction.isEmpty then "" else "." ++ String.ofList fraction) ++ exponentText top
    else if 0 ≤ d.exponent ∨ d.digits = 0 then
      String.ofList (digits ++ List.replicate d.exponent.toNat '0') ++
        (if format.keepsPoint then ".0" else "")
    else
      let places := (-d.exponent).toNat
      let padded := List.replicate (places + 1 - count) '0' ++ digits
      String.ofList (padded.take (padded.length - places)) ++ "." ++
        String.ofList (padded.drop (padded.length - places))
  sign ++ body

end FloatFormat

namespace Binary64

def toText : Binary64 → String
  | .finite negative m e => FloatFormat.exact.render negative (Decimal.shortest m e)
  | .infinite negative => if negative then "-inf" else "inf"
  | .notANumber => "nan"

def toBriefText : Binary64 → String
  | .finite negative m e =>
    let d := if m = 0 then ⟨0, 0⟩ else
      let value := scaleDown m 1 (-e)
      Decimal.rounded 6 value.1 value.2
    FloatFormat.brief.render negative d
  | .infinite negative => if negative then "-inf" else "inf"
  | .notANumber => "nan"

end Binary64

def briefText (x : Rat) : String :=
  (Binary64.ofRatio (x < 0) x.num.natAbs x.den).toBriefText

end Liveness.Numeric
