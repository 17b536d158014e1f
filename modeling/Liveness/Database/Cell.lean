import Liveness.Failure
import Liveness.Numeric.Decimal
import Liveness.Text.Integer
import Liveness.Text.Real

namespace Liveness.Database

open Numeric (Binary64)

inductive Cell where
  | null
  | integer (n : Int)
  | real (x : Binary64)
  | text (s : String)
deriving DecidableEq, Inhabited

namespace Cell

def leastInteger : Int := - Int.pow 2 63

def greatestInteger : Int := Int.pow 2 63 - 1

def fitsInteger (n : Int) : Bool := leastInteger ≤ n && n ≤ greatestInteger

/-- A float that is a whole number strictly inside the integer range becomes an integer. -/
def ofReal (x : Binary64) : Cell :=
  match x with
  | .notANumber => .null
  | _ =>
    match x.truncate? with
    | some n =>
      if Binary64.ofInt n = x.add (.zero false) ∧ leastInteger < n ∧ n < greatestInteger then
        .integer n
      else .real x
    | none => .real x

def readNumber? (text : List Char) : Option Cell :=
  (Text.decimalText? (Text.trimBoth Text.isAsciiBlank text)).map fun number =>
    let signed : Int := if number.negative then -(number.digits : Int) else number.digits
    if number.isWhole ∧ fitsInteger signed then .integer signed else ofReal number.toBinary64

def toIntegerColumn : Cell → Cell
  | .real x => ofReal x
  | .text s => (readNumber? s.toList).getD (.text s)
  | cell => cell

def realText (x : Binary64) : String :=
  match x with
  | .finite negative m e =>
    let d := if m = 0 then ⟨0, 0⟩ else
      let value := Numeric.scaleDown m 1 (-e)
      Numeric.Decimal.rounded 15 value.1 value.2
    Numeric.FloatFormat.render ⟨-4, 14, true⟩ negative d
  | .infinite negative => if negative then "-Inf" else "Inf"
  | .notANumber => ""

def toTextColumn : Cell → Option String
  | .null => none
  | .integer n => some (toString n)
  | .real x => some (realText x)
  | .text s => some s

def toRat? : Cell → Option Rat
  | .integer n => some n
  | .real x => x.toRat?
  | _ => none

def classRank : Cell → Nat
  | .null => 0
  | .integer _ | .real _ => 1
  | .text _ => 2

def numberLt (a b : Cell) : Bool :=
  match a, b with
  | .real (.infinite p), .real (.infinite q) => p && !q
  | .real (.infinite p), _ => p
  | _, .real (.infinite q) => !q
  | _, _ =>
    match a.toRat?, b.toRat? with
    | some x, some y => x < y
    | _, _ => false

def lt (a b : Cell) : Bool :=
  if a.classRank ≠ b.classRank then a.classRank < b.classRank
  else match a, b with
    | .text s, .text t => s < t
    | _, _ => numberLt a b

def greater (a b : Cell) : Cell := if a.lt b then b else a

def maximum (cells : List Cell) : Cell := cells.foldl greater .null

def className : Cell → String
  | .null => "NoneType"
  | .integer _ => "int"
  | .real _ => "float"
  | .text _ => "str"

/-- A cell as a whole number: a fraction is dropped, a text is read. -/
def toInt : Cell → Except Failure Int
  | .null => .error (.of .type
      "int() argument must be a string, a bytes-like object or a real number, not 'NoneType'")
  | .integer n => .ok n
  | .real x =>
    match x.truncate? with
    | some n => .ok n
    | none => .error (.of .overflow "cannot convert float infinity to integer")
  | .text s => (Text.readInteger s).mapError fun fault => .of .value fault.message

end Cell

end Liveness.Database
