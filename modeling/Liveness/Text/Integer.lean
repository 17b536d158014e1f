import Liveness.Text.Blank
import Liveness.Text.Digit
import Liveness.Text.Quoted

namespace Liveness.Text

def digitLimit : Nat := 4300

inductive IntegerFault where
  | notInteger (base : Nat) (text : String)
  | tooManyDigits (count : Nat)
  | tooLongToWrite
deriving DecidableEq

def quotedLimit : Nat := 200

def IntegerFault.message : IntegerFault → String
  | .notInteger base text =>
    s!"invalid literal for int() with base {base}: " ++
      String.ofList ((quotedChars text.toList).take quotedLimit)
  | .tooManyDigits count =>
    s!"Exceeds the limit ({digitLimit} digits) for integer string conversion: value has {count} " ++
      "digits; use sys.set_int_max_str_digits() to increase the limit"
  | .tooLongToWrite =>
    s!"Exceeds the limit ({digitLimit} digits) for integer string conversion; " ++
      "use sys.set_int_max_str_digits() to increase the limit"

def digitsWithUnderscores (digit? : Char → Option Nat) : List Char → Option (List Nat)
  | [] => none
  | [c] => (digit? c).map fun d => [d]
  | c :: '_' :: rest => do
    let d ← digit? c
    let ds ← digitsWithUnderscores digit? rest
    return d :: ds
  | c :: rest => do
    let d ← digit? c
    let ds ← digitsWithUnderscores digit? rest
    return d :: ds

def splitMinus : List Char → Bool × List Char
  | '-' :: rest => (true, rest)
  | rest => (false, rest)

def splitSign : List Char → Bool × List Char
  | '-' :: rest => (true, rest)
  | '+' :: rest => (false, rest)
  | rest => (false, rest)

/-- Removes the six plain blanks and those of Unicode beyond ASCII from both ends. -/
def trimNumber (text : List Char) : List Char :=
  trimBoth (fun c => isAsciiBlank c || (0x80 ≤ c.toNat && isBlank c)) text

def readInteger (text : String) : Except IntegerFault Int :=
  let (negative, body) := splitSign (trimNumber text.toList)
  match digitsWithUnderscores decimalDigit? body with
  | none => .error (.notInteger 10 text)
  | some digits =>
    if digitLimit < digits.length then .error (.tooManyDigits digits.length)
    else
      let n : Int := ofDigits 10 digits
      .ok (if negative then -n else n)

def writeInteger (n : Int) : Except IntegerFault String :=
  if Nat.pow 10 digitLimit ≤ n.natAbs then .error .tooLongToWrite else .ok (toString n)

def baseMarks (base : Nat) : List Char :=
  if base = 2 then ['b', 'B'] else if base = 8 then ['o', 'O'] else ['x', 'X']

def dropBaseMark (base : Nat) (text : List Char) : List Char :=
  match text with
  | '0' :: mark :: rest =>
    if (baseMarks base).contains mark then
      match rest with
      | '_' :: digits => digits
      | digits => digits
    else text
  | _ => text

def digitIn? (base : Nat) (c : Char) : Option Nat :=
  ((decimalDigit? c).or (hexDigit? c)).filter (· < base)

def readIntegerIn (base : Nat) (text : String) : Except IntegerFault Int :=
  let (negative, body) := splitSign (trimNumber text.toList)
  match digitsWithUnderscores (digitIn? base) (dropBaseMark base body) with
  | none => .error (.notInteger base text)
  | some digits =>
    let n : Int := ofDigits base digits
    .ok (if negative then -n else n)

end Liveness.Text
