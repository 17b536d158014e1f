import Liveness.Numeric.Binary64
import Liveness.Text.Digit
import Liveness.Text.Integer

namespace Liveness.Text

open Numeric (Binary64)

structure DecimalText where
  negative : Bool
  whole : List Char
  fraction : List Char
  exponent : Int
  isWhole : Bool

def exponentOf? (cs : List Char) : Option (Option Int) :=
  match cs with
  | [] => some none
  | mark :: rest =>
    if mark = 'e' ∨ mark = 'E' then
      let (negative, digits) := splitSign rest
      if digits.isEmpty ∨ ¬ digits.all isAsciiDigit then none
      else
        let n : Int := ofDigits 10 (digits.filterMap asciiDigit?)
        some (some (if negative then -n else n))
    else none

def decimalText? (text : List Char) : Option DecimalText := do
  let (negative, body) := splitSign text
  let (whole, rest) := body.span isAsciiDigit
  let (fraction, rest, pointed) := match rest with
    | '.' :: more =>
      let (digits, after) := more.span isAsciiDigit
      (digits, after, true)
    | _ => ([], rest, false)
  if whole.isEmpty ∧ fraction.isEmpty then none
  else
    let exponent ← exponentOf? rest
    return ⟨negative, whole, fraction, exponent.getD 0, !pointed && exponent.isNone⟩

namespace DecimalText

def digits (d : DecimalText) : Nat :=
  ofDigits 10 ((d.whole ++ d.fraction).filterMap asciiDigit?)

def toBinary64 (d : DecimalText) : Binary64 :=
  .ofDecimal d.negative d.digits (d.exponent - d.fraction.length)

end DecimalText

def namedReal? (text : List Char) : Option Binary64 :=
  let (negative, name) := splitSign text
  let lower := String.ofList (name.map Char.toLower)
  if lower = "inf" ∨ lower = "infinity" then some (.infinite negative)
  else if lower = "nan" then some .notANumber
  else none

def readReal? (text : List Char) : Option Binary64 :=
  (namedReal? text).or ((decimalText? text).map DecimalText.toBinary64)

end Liveness.Text
