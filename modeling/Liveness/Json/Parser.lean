import Liveness.Json.Basic

namespace Liveness.Json

inductive Cause where
  | byteOrderMark
  | expectedValue
  | expectedName
  | expectedColon
  | expectedComma
  | unterminatedString
  | controlCharacter
  | badEscape
  | badUnicodeEscape
  | extraData
  | longInteger (fault : Text.IntegerFault)
deriving DecidableEq

def Cause.message : Cause → String
  | .byteOrderMark => "Unexpected UTF-8 BOM (decode using utf-8-sig)"
  | .expectedValue => "Expecting value"
  | .expectedName => "Expecting property name enclosed in double quotes"
  | .expectedColon => "Expecting ':' delimiter"
  | .expectedComma => "Expecting ',' delimiter"
  | .unterminatedString => "Unterminated string starting at"
  | .controlCharacter => "Invalid control character at"
  | .badEscape => "Invalid \\escape"
  | .badUnicodeEscape => "Invalid \\uXXXX escape"
  | .extraData => "Extra data"
  | .longInteger fault => fault.message

structure Fault where
  cause : Cause
  offset : Nat
  line : Nat
  column : Nat
deriving DecidableEq

def Fault.message (fault : Fault) : String :=
  match fault.cause with
  | .longInteger inner => inner.message
  | cause => s!"{cause.message}: line {fault.line} column {fault.column} (char {fault.offset})"

abbrev Halt := Cause × Nat

def isSpace (c : Char) : Bool := c = ' ' ∨ c = '\t' ∨ c = '\n' ∨ c = '\r'

def skipSpace (cs : List Char) : List Char := cs.dropWhile isSpace

def afterWord? : List Char → List Char → Option (List Char)
  | [], cs => some cs
  | w :: ws, c :: cs => if w = c then afterWord? ws cs else none
  | _ :: _, [] => none

def unit? (a b c d : Char) : Option Nat := do
  let a ← Text.hexDigit? a
  let b ← Text.hexDigit? b
  let c ← Text.hexDigit? c
  let d ← Text.hexDigit? d
  return Text.ofDigits 16 [a, b, c, d]

def isHighSurrogate (unit : Nat) : Bool := 0xd800 ≤ unit && unit < 0xdc00

def isLowSurrogate (unit : Nat) : Bool := 0xdc00 ≤ unit && unit < 0xe000

/-- The character of a unit; half of a surrogate pair alone stands for U+FFFD. -/
def ofUnit (unit : Nat) : Char :=
  if 0xd800 ≤ unit ∧ unit < 0xe000 then '\ufffd' else Char.ofNat unit

def joinSurrogates (high low : Nat) : Char :=
  Char.ofNat (0x10000 + (high - 0xd800) * 0x400 + (low - 0xdc00))

def simpleEscape? (c : Char) : Option Char :=
  match c with
  | '"' => some '"'
  | '\\' => some '\\'
  | '/' => some '/'
  | 'b' => some '\x08'
  | 'f' => some '\x0c'
  | 'n' => some '\n'
  | 'r' => some '\r'
  | 't' => some '\t'
  | _ => none

def readString (opened : Nat) : List Char → Except Halt (List Char × List Char)
  | [] => .error (.unterminatedString, opened)
  | '"' :: rest => .ok ([], rest)
  | ['\\'] => .error (.unterminatedString, opened)
  | '\\' :: 'u' :: a :: b :: c :: d :: next :: rest =>
    match unit? a b c d with
    | none => .error (.badUnicodeEscape, rest.length + 6)
    | some high =>
      let single (_ : Unit) :=
        (readString opened (next :: rest)).map fun (s, more) => (ofUnit high :: s, more)
      if isHighSurrogate high then
        match next, rest with
        | '\\', 'u' :: e :: f :: g :: h :: after :: rest =>
          match unit? e f g h with
          | none => .error (.badUnicodeEscape, rest.length + 6)
          | some low =>
            if isLowSurrogate low then
              (readString opened (after :: rest)).map fun (s, more) =>
                (joinSurrogates high low :: s, more)
            else single ()
        | _, _ => single ()
      else single ()
  | '\\' :: 'u' :: rest => .error (.badUnicodeEscape, rest.length + 1)
  | '\\' :: c :: rest =>
    match simpleEscape? c with
    | none => .error (.badEscape, rest.length + 2)
    | some e => (readString opened rest).map fun (s, more) => (e :: s, more)
  | c :: rest =>
    if c.toNat < 0x20 then .error (.controlCharacter, rest.length + 1)
    else (readString opened rest).map fun (s, more) => (c :: s, more)

def spanDigits (cs : List Char) : List Char × List Char := cs.span Text.isAsciiDigit

def digitValue (digits : List Char) : Nat :=
  Text.ofDigits 10 (digits.filterMap Text.asciiDigit?)

def readWhole? : List Char → Option (List Char × List Char)
  | '0' :: rest => some (['0'], rest)
  | cs =>
    let (digits, rest) := spanDigits cs
    if digits.isEmpty then none else some (digits, rest)

def readFraction : List Char → List Char × List Char
  | '.' :: rest =>
    let (digits, after) := spanDigits rest
    if digits.isEmpty then ([], '.' :: rest) else (digits, after)
  | cs => ([], cs)

def readExponent (cs : List Char) : Option Int × List Char :=
  match cs with
  | mark :: rest =>
    if mark = 'e' ∨ mark = 'E' then
      let (negative, body) := Text.splitSign rest
      let (digits, after) := spanDigits body
      if digits.isEmpty then (none, cs)
      else
        let n : Int := digitValue digits
        (some (if negative then -n else n), after)
    else (none, cs)
  | [] => (none, [])

def readNumber (start : List Char) : Except Halt (Json × List Char) :=
  let (negative, body) := match start with
    | '-' :: rest => (true, rest)
    | _ => (false, start)
  match readWhole? body with
  | none => .error (.expectedValue, start.length)
  | some (whole, rest) =>
    let (fraction, rest) := readFraction rest
    let (exponent, rest) := readExponent rest
    if fraction.isEmpty ∧ exponent.isNone then
      if Text.digitLimit < whole.length then
        .error (.longInteger (.tooManyDigits whole.length), start.length)
      else
        let n : Int := digitValue whole
        .ok (.integer (if negative then -n else n), rest)
    else
      let digits := digitValue (whole ++ fraction)
      .ok (.float (.ofDecimal negative digits (exponent.getD 0 - fraction.length)), rest)

def words : List (List Char × Json) :=
  [("null".toList, .null), ("true".toList, .bool true), ("false".toList, .bool false),
   ("NaN".toList, .float .notANumber), ("Infinity".toList, .float (.infinite false)),
   ("-Infinity".toList, .float (.infinite true))]

def readWord? (cs : List Char) : Option (Json × List Char) :=
  words.findSome? fun (word, value) => (afterWord? word cs).map fun rest => (value, rest)

def outOfSteps {α : Type} (cs : List Char) : Except Halt α := .error (.expectedValue, cs.length)

mutual

def readValue : Nat → List Char → Except Halt (Json × List Char)
  | 0, cs => outOfSteps cs
  | steps + 1, cs =>
    match cs with
    | '"' :: rest =>
      (readString cs.length rest).map fun (s, more) => (.text (String.ofList s), more)
    | '\x7b' :: rest =>
      match skipSpace rest with
      | '\x7d' :: more => .ok (.object [], more)
      | inner => readMembers steps [] inner
    | '[' :: rest =>
      match skipSpace rest with
      | ']' :: more => .ok (.array [], more)
      | inner => readItems steps [] inner
    | _ =>
      match readWord? cs with
      | some found => .ok found
      | none => readNumber cs

def readItems : Nat → List Json → List Char → Except Halt (Json × List Char)
  | 0, _, cs => outOfSteps cs
  | steps + 1, done, cs =>
    match readValue steps cs with
    | .error halt => .error halt
    | .ok (value, rest) =>
      match skipSpace rest with
      | ']' :: more => .ok (.array (value :: done).reverse, more)
      | ',' :: more => readItems steps (value :: done) (skipSpace more)
      | other => .error (.expectedComma, other.length)

def readMembers : Nat → List (String × Json) → List Char → Except Halt (Json × List Char)
  | 0, _, cs => outOfSteps cs
  | steps + 1, done, cs =>
    match cs with
    | '"' :: rest =>
      match readString cs.length rest with
      | .error halt => .error halt
      | .ok (name, rest) =>
        match skipSpace rest with
        | ':' :: rest =>
          match readValue steps (skipSpace rest) with
          | .error halt => .error halt
          | .ok (value, rest) =>
            let members := putMember (String.ofList name) value done
            match skipSpace rest with
            | '\x7d' :: more => .ok (.object members, more)
            | ',' :: more => readMembers steps members (skipSpace more)
            | other => .error (.expectedComma, other.length)
        | other => .error (.expectedColon, other.length)
    | _ => .error (.expectedName, cs.length)

end

def locate (document : List Char) (offset : Nat) : Nat × Nat :=
  let before := document.take offset
  (before.count '\n' + 1, (before.reverse.takeWhile (· ≠ '\n')).length + 1)

def faultAt (document : List Char) (halt : Halt) : Fault :=
  let offset := document.length - halt.2
  let (line, column) := locate document offset
  ⟨halt.1, offset, line, column⟩

def parseChars (document : List Char) : Except Fault Json :=
  match document with
  | '\ufeff' :: _ => .error (faultAt document (.byteOrderMark, document.length))
  | _ =>
    match readValue (2 * document.length + 2) (skipSpace document) with
    | .error halt => .error (faultAt document halt)
    | .ok (value, rest) =>
      match skipSpace rest with
      | [] => .ok value
      | extra => .error (faultAt document (.extraData, extra.length))

def parse (document : String) : Except Fault Json :=
  parseChars document.toList

end Liveness.Json
