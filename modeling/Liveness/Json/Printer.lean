import Liveness.Json.Basic

namespace Liveness.Json

structure Style where
  comma : String
  colon : String
  asciiOnly : Bool

def Style.stored : Style := ⟨", ", ": ", true⟩

def Style.compact : Style := ⟨",", ":", false⟩

def unitEscape (unit : Nat) : List Char := '\\' :: 'u' :: Text.hexText 4 unit

/-- One character of a string. Beyond the basic plane an escape takes two units. -/
def escapeChar (asciiOnly : Bool) (c : Char) : List Char :=
  if c = '"' then ['\\', '"']
  else if c = '\\' then ['\\', '\\']
  else if c = '\n' then ['\\', 'n']
  else if c = '\r' then ['\\', 'r']
  else if c = '\t' then ['\\', 't']
  else if c = '\x0c' then ['\\', 'f']
  else if c = '\x08' then ['\\', 'b']
  else if c.toNat < 0x20 then unitEscape c.toNat
  else if asciiOnly && 0x7f ≤ c.toNat then
    if c.toNat < 0x10000 then unitEscape c.toNat
    else
      let offset := c.toNat - 0x10000
      unitEscape (0xd800 + offset / 0x400) ++ unitEscape (0xdc00 + offset % 0x400)
  else [c]

def stringText (asciiOnly : Bool) (s : List Char) : List Char :=
  '"' :: s.flatMap (escapeChar asciiOnly) ++ ['"']

def floatText : Numeric.Binary64 → String
  | .notANumber => "NaN"
  | .infinite negative => if negative then "-Infinity" else "Infinity"
  | x => x.toText

mutual

def renderChars (style : Style) : Json → List Char
  | null => "null".toList
  | bool b => if b then "true".toList else "false".toList
  | integer n => (toString n).toList
  | float x => (floatText x).toList
  | text s => stringText style.asciiOnly s.toList
  | array items => '[' :: renderItems style items ++ [']']
  | object members => '\x7b' :: renderMembers style members ++ ['\x7d']

def renderItems (style : Style) : List Json → List Char
  | [] => []
  | [item] => renderChars style item
  | item :: rest => renderChars style item ++ style.comma.toList ++ renderItems style rest

def renderMembers (style : Style) : List (String × Json) → List Char
  | [] => []
  | [(name, value)] =>
    stringText style.asciiOnly name.toList ++ style.colon.toList ++ renderChars style value
  | (name, value) :: rest =>
    stringText style.asciiOnly name.toList ++ style.colon.toList ++ renderChars style value ++
      style.comma.toList ++ renderMembers style rest

end

def render (style : Style) (value : Json) : String :=
  String.ofList (value.renderChars style)

end Liveness.Json
