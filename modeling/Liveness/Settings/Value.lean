import Liveness.Json.Basic
import Liveness.Text.Real

namespace Liveness.Settings

open Numeric (Binary64)

inductive ValueFault where
  | notText
  | notWhole
  | unreadableWhole
  | wholeTooLong
  | wholeWithFraction
  | notFinite
  | notReal
  | unreadableReal
deriving DecidableEq

def ValueFault.code : ValueFault → String
  | .notText => "string_type"
  | .notWhole => "int_type"
  | .unreadableWhole => "int_parsing"
  | .wholeTooLong => "int_parsing_size"
  | .wholeWithFraction => "int_from_float"
  | .notFinite => "finite_number"
  | .notReal => "float_type"
  | .unreadableReal => "float_parsing"

/-- White space around a number: that of Unicode, without the information separators. -/
def isPadding (c : Char) : Bool :=
  Text.isBlank c && !(0x1c ≤ c.toNat && c.toNat ≤ 0x1f)

def trim (text : List Char) : List Char := Text.trimBoth isPadding text

def withoutUnderscores? (text : List Char) : Option (List Char) :=
  if text.head? = some '_' ∨ text.getLast? = some '_' ∨
      (text.zip (text.drop 1)).any (· = ('_', '_')) then none
  else some (text.filter (· ≠ '_'))

/-- Drops zeros, and underscores among them, before the first other digit of a number; the last
of them stays when no other digit follows. -/
def dropLeadingZeros (text : List Char) : List Char :=
  match text with
  | '0' :: rest =>
    match rest.dropWhile fun c => c = '0' ∨ c = '_' with
    | [] => text.drop (text.length - 1)
    | '.' :: more => (rest.takeWhile fun c => c = '0' ∨ c = '_').getLast?.getD '0' :: '.' :: more
    | other => other
  | _ => text

def dropZeroFraction (text : List Char) : List Char :=
  match text.span (· ≠ '.') with
  | (whole, '.' :: fraction) =>
    if ¬ fraction.isEmpty ∧ fraction.all (· = '0') then whole else text
  | _ => text

def isPlainNatural (digits : List Char) : Bool :=
  !digits.isEmpty && digits.all Text.isAsciiDigit && (digits.head? ≠ some '0' || digits.length = 1)

/-- Reads a whole number: blanks around, a plus, zeros in front, single underscores between digits
and a fraction of zeros are forgiven. -/
def wholeOfText (text : String) : Except ValueFault Int :=
  let body := match trim text.toList with
    | '+' :: '-' :: _ => []
    | '+' :: rest => rest
    | rest => rest
  let cleaned := dropZeroFraction (dropLeadingZeros body)
  let (negative, digits) := Text.splitMinus ((withoutUnderscores? cleaned).getD cleaned)
  if ¬ isPlainNatural digits then .error .unreadableWhole
  else if Text.digitLimit < digits.length + (if negative then 1 else 0) then .error .wholeTooLong
  else
    let n : Int := Text.ofDigits 10 (digits.filterMap Text.asciiDigit?)
    .ok (if negative then -n else n)

def realOfText (text : String) : Except ValueFault Binary64 :=
  match (Text.readReal? (trim text.toList)).or
      ((withoutUnderscores? text.toList).bind Text.readReal?) with
  | some x => .ok x
  | none => .error .unreadableReal

def readText : Json → Except ValueFault String
  | .text s => .ok s
  | _ => .error .notText

def wholeFloatBound : Int := Int.pow 2 63

def wholeOfFloat (x : Binary64) : Except ValueFault Int :=
  match x.toRatio? with
  | none => .error .notFinite
  | some (num, den) =>
    if num.tmod den ≠ 0 then .error .wholeWithFraction
    else
      let n := num.tdiv den
      if n.natAbs < wholeFloatBound.natAbs then .ok n else .error .wholeTooLong

def readWhole : Json → Except ValueFault Int
  | .integer n => .ok n
  | .bool b => .ok (if b then 1 else 0)
  | .float x => wholeOfFloat x
  | .text s => wholeOfText s
  | _ => .error .notWhole

def readReal : Json → Except ValueFault Binary64
  | .float x => .ok x
  | .integer n =>
    match Binary64.ofInt n with
    | .infinite _ => .error .notReal
    | x => .ok x
  | .bool b => .ok (.ofInt (if b then 1 else 0))
  | .text s => realOfText s
  | _ => .error .notReal

end Liveness.Settings
