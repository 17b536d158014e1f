import Liveness.Text.Base64
import Liveness.Text.Real
import Liveness.Yaml.Fault
import Liveness.Yaml.Tag
import Liveness.Yaml.Timestamp

namespace Liveness.Yaml

open Numeric (Binary64)
open Time (Date WallTime)

inductive Scalar where
  | null
  | bool (b : Bool)
  | integer (n : Int)
  | real (x : Binary64)
  | text (s : String)
  | bytes (content : List UInt8)
  | date (d : Date)
  | time (wall : WallTime) (offset : Option Int)
deriving DecidableEq, Inhabited

namespace Scalar

def withoutGaps (text : String) : List Char := text.toList.filter (· ≠ '_')

def noCharacter : Failure := .of .index "string index out of range"

def wholeOf (read : String → Except Text.IntegerFault Int) (digits : List Char) :
    Except Failure Int :=
  (read (String.ofList digits)).mapError fun fault => .of .value fault.message

/-- A whole number without its sign. A zero in front marks another base, and colons base sixty. -/
def magnitude (body : List Char) : Except Failure Int :=
  match body with
  | [] => .error noCharacter
  | ['0'] => .ok 0
  | '0' :: 'b' :: digits => wholeOf (Text.readIntegerIn 2) digits
  | '0' :: 'x' :: digits => wholeOf (Text.readIntegerIn 16) digits
  | '0' :: _ => wholeOf (Text.readIntegerIn 8) body
  | _ => do
    let parts ← (Look.colonParts body).mapM (wholeOf Text.readInteger)
    return parts.foldl (fun acc part => acc * 60 + part) 0

def integerOf (text : String) : Except Failure Int :=
  let (negative, body) := Text.splitSign (withoutGaps text)
  (magnitude body).map fun n => if negative then -n else n

def floatOf (digits : List Char) : Except Failure Binary64 :=
  match Text.readReal? (Text.trimNumber digits) with
  | some x => .ok x
  | none =>
    .error (.of .value s!"could not convert string to float: {Text.quoted (String.ofList digits)}")

def sumOfSixtieths (weight : Nat) (sum : Binary64) : List Binary64 → Binary64
  | [] => sum
  | part :: rest => sumOfSixtieths (weight * 60) (sum.add (part.mul (.ofInt weight))) rest

def realOf (text : String) : Except Failure Binary64 := do
  let chars := (withoutGaps text).map Char.toLower
  if chars.isEmpty then .error noCharacter
  let (negative, body) := Text.splitSign chars
  let x ←
    if body = ".inf".toList then pure (.infinite false)
    else if body = ".nan".toList then pure .notANumber
    else if body.contains ':' then do
      let parts ← (Look.colonParts body).mapM floatOf
      pure (sumOfSixtieths 1 (.zero false) parts.reverse)
    else floatOf body
  return if negative then x.neg else x

def boolWords : List (String × Bool) :=
  [("yes", true), ("no", false), ("true", true), ("false", false), ("on", true), ("off", false)]

def boolOf (text : String) : Except Failure Bool :=
  match boolWords.lookup text.toLower with
  | some b => .ok b
  | none => .error (.of .key text.toLower)

def timestampOf (text : String) : Except Failure Scalar := do
  let some t := TimestampText.read? text.toList
    | .error (.of .missingAttribute "'NoneType' object has no attribute 'groupdict'")
  let month := TimestampText.number t.month
  let day := TimestampText.number t.day
  match t.clock with
  | none => return .date (← dateOf t.year month day)
  | some (hour, minute, second, fraction) =>
    if let some minutes := t.offset then checkOffset minutes
    let date ← dateOf t.year month day
    return .time (← wallOf date hour minute second (TimestampText.micros fraction)) t.offset

def ofText (tag : Tag) (text : String) : Except Fault Scalar :=
  let found {α : Type} (make : α → Scalar) (value : Except Failure α) : Except Fault Scalar :=
    (value.map make).mapError .value
  match tag with
  | .null => .ok .null
  | .bool => found .bool (boolOf text)
  | .integer => found .integer (integerOf text)
  | .real => found .real (realOf text)
  | .bytes =>
    if text.toList.any fun c => 0x80 ≤ c.toNat then .error .badBytes
    else match Text.base64? text.toList with
      | some content => .ok (.bytes content)
      | none => .error .badBytes
  | .timestamp => found id (timestampOf text)
  | .text => .ok (.text text)
  | .list | .map | .orderedMap | .pairs | .set => .error .wrongKind
  | .merge | .defaultValue | .other _ => .error .unknownTag

def toRat? : Scalar → Option Rat
  | .bool b => some (if b then 1 else 0)
  | .integer n => some n
  | .real x => x.toRat?
  | _ => none

def utcMicros? : Scalar → Option Int
  | .time wall (some minutes) => some (wall.toMicros - minutes * 60000000)
  | _ => none

/-- Whether two values are one key: equal numbers are, and equal points of time. -/
def sameKey (a b : Scalar) : Bool :=
  a == b || (a.toRat?.isSome && a.toRat? == b.toRat?) ||
    (a.utcMicros?.isSome && a.utcMicros? == b.utcMicros?)

def shown : Scalar → Except Failure String
  | .null => .ok "None"
  | .bool b => .ok (if b then "True" else "False")
  | .integer n => (Text.writeInteger n).mapError fun fault => .of .value fault.message
  | .real x => .ok x.toText
  | .text s => .ok (Text.quoted s)
  | .bytes content => .ok (Text.quotedBytes content)
  | .date d => .ok (dateShown d)
  | .time wall offset => .ok (timeShown wall offset)

def toText : Scalar → Except Failure String
  | .text s => .ok s
  | .date d => .ok (dateText d)
  | .time wall offset => .ok (timeText wall offset)
  | value => value.shown

end Scalar

end Liveness.Yaml
