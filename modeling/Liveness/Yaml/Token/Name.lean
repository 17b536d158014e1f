import Liveness.Text.Digit
import Liveness.Text.Utf8
import Liveness.Yaml.Token.Basic

namespace Liveness.Yaml.Name

open Text (hexDigit?)

def isNameChar (c : Char) : Bool := c.isAlphanum || c = '-' || c = '_'

def endsName (c : Cursor) : Bool :=
  c.next?.all fun char =>
    isSpacing char || ['?', ':', ',', ']', '\x7d', '%', '@', '\x60'].contains char

def readAnchor (c : Cursor) : Except Fault (String × Cursor) :=
  let (name, c) := c.advance.takeWhile isNameChar
  if name.isEmpty ∨ ¬ endsName c then .error .badName else .ok (String.ofList name, c)

def isTagChar (c : Char) : Bool :=
  c.isAlphanum || "-;/?:@&=+$,_.!~*'()[]".toList.contains c

def escapedBytes : Nat → Cursor → Except Fault (List UInt8 × Cursor)
  | 0, c => .ok ([], c)
  | fuel + 1, c =>
    match c.rest with
    | '%' :: a :: b :: _ =>
      match hexDigit? a, hexDigit? b with
      | some high, some low => do
        let (more, c) ← escapedBytes fuel (c.forward 3)
        return ((16 * high + low).toUInt8 :: more, c)
      | _, _ => .error .badTag
    | '%' :: _ => .error .badTag
    | _ => .ok ([], c)

def tagCharsFrom : Nat → Cursor → Except Fault (List Char × Cursor)
  | 0, c => .ok ([], c)
  | fuel + 1, c => do
    let (plain, c) := c.takeWhile isTagChar
    if c.next? ≠ some '%' then return (plain, c)
    let (bytes, c) ← escapedBytes (c.rest.length + 1) c
    let some escaped := Text.utf8Decode? bytes | .error .badTag
    let (more, c) ← tagCharsFrom fuel c
    return (plain ++ escaped ++ more, c)

def readTagText (c : Cursor) : Except Fault (String × Cursor) := do
  let (text, after) ← tagCharsFrom (c.rest.length + 1) c
  if after.index = c.index then .error .badTag else return (String.ofList text, after)

def readHandle (c : Cursor) : Except Fault (String × Cursor) :=
  match c.rest with
  | '!' :: rest =>
    if rest.head? = some ' ' then .ok ("!", c.advance)
    else
      let name := rest.takeWhile isNameChar
      let after := c.forward (name.length + 1)
      if after.next? = some '!' then .ok (String.ofList ('!' :: name ++ ['!']), after.advance)
      else .error .badTag
  | _ => .error .badTag

def hasHandle (c : Cursor) : Bool :=
  (c.rest.drop 1).takeWhile (fun char => char ≠ ' ' ∧ ¬ isBreak char) |>.contains '!'

def readTag (c : Cursor) : Except Fault (Token × Cursor) := do
  let (token, c) ← match c.rest with
    | '!' :: '<' :: _ => do
      let (text, c) ← readTagText (c.forward 2)
      if c.next? = some '>' then pure (Token.tag none text, c.advance) else .error .badTag
    | _ =>
      if c.spacingAt 1 then pure (Token.tag none "!", c.advance)
      else do
        let (handle, c) ← if hasHandle c then readHandle c else pure ("!", c.advance)
        let (text, c) ← readTagText c
        pure (Token.tag (some handle) text, c)
  if c.endsField then return (token, c) else .error .badTag

def readNumber (c : Cursor) : Except Fault (Nat × Cursor) :=
  let (digits, c) := c.takeWhile Text.isAsciiDigit
  if digits.isEmpty then .error .badDirective
  else .ok (Text.ofDigits 10 (digits.filterMap Text.asciiDigit?), c)

def readVersion (c : Cursor) : Except Fault (Directive × Cursor) := do
  let (major, c) ← readNumber c.skipSpaces
  if c.next? ≠ some '.' then .error .badDirective
  let (minor, c) ← readNumber c.advance
  if c.endsField then return (.version major minor, c) else .error .badDirective

def readHandleDirective (c : Cursor) : Except Fault (Directive × Cursor) := do
  let (handle, c) ← readHandle c.skipSpaces
  if c.next? ≠ some ' ' then .error .badDirective
  let (expansion, c) ← readTagText c.skipSpaces
  if c.endsField then return (.handle handle expansion, c) else .error .badDirective

def readDirective (c : Cursor) : Except Fault (Directive × Cursor) := do
  let (name, c) := c.advance.takeWhile isNameChar
  if name.isEmpty ∨ ¬ c.endsField then .error .badDirective
  let (directive, c) ←
    if name = "YAML".toList then readVersion c
    else if name = "TAG".toList then readHandleDirective c
    else pure (.other, c.skipWhile fun char => !isBreak char)
  return (directive, ← c.finishLine .badDirective)

end Liveness.Yaml.Name
