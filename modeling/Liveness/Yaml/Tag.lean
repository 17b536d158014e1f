import Liveness.Text.Integer

namespace Liveness.Yaml

inductive Tag where
  | null
  | bool
  | integer
  | real
  | bytes
  | timestamp
  | text
  | list
  | map
  | orderedMap
  | pairs
  | set
  | merge
  | defaultValue
  | other (name : String)
deriving DecidableEq

namespace Tag

def standard : String := "tag:yaml.org,2002:"

def standardTags : List (String × Tag) :=
  [("null", .null), ("bool", .bool), ("int", .integer), ("float", .real), ("binary", .bytes),
   ("timestamp", .timestamp), ("str", .text), ("seq", .list), ("map", .map), ("omap", .orderedMap),
   ("pairs", .pairs), ("set", .set), ("merge", .merge), ("value", .defaultValue)]

def ofName (name : String) : Tag :=
  ((standardTags.find? fun (short, _) => standard ++ short = name).map (·.2)).getD (.other name)

end Tag

namespace Look

def isDigitOrGap (c : Char) : Bool := Text.isAsciiDigit c || c = '_'

def colonParts : List Char → List (List Char)
  | [] => [[]]
  | c :: rest =>
    if c = ':' then [] :: colonParts rest
    else match colonParts rest with
      | part :: parts => (c :: part) :: parts
      | [] => [[c]]

def isSixtieth : List Char → Bool
  | [a] => Text.isAsciiDigit a
  | [a, b] => '0' ≤ a && a ≤ '5' && Text.isAsciiDigit b
  | _ => false

def startsWithDigit (text : List Char) : Bool := text.head?.any Text.isAsciiDigit

def isBoolWord (text : String) : Bool :=
  ["yes", "Yes", "YES", "no", "No", "NO", "true", "True", "TRUE", "false", "False", "FALSE",
   "on", "On", "ON", "off", "Off", "OFF"].contains text

def isNullWord (text : String) : Bool := ["", "~", "null", "Null", "NULL"].contains text

def isInteger (text : List Char) : Bool :=
  match (Text.splitSign text).2 with
  | [] => false
  | '0' :: 'b' :: digits => !digits.isEmpty && digits.all fun c => c = '0' || c = '1' || c = '_'
  | '0' :: 'x' :: digits =>
    !digits.isEmpty && digits.all fun c => (Text.hexDigit? c).isSome || c = '_'
  | '0' :: digits => digits.all fun c => ('0' ≤ c && c ≤ '7') || c = '_'
  | body =>
    match colonParts body with
    | first :: sixtieths =>
      startsWithDigit first && first.all isDigitOrGap && sixtieths.all isSixtieth
    | [] => false

def isExponent : List Char → Bool
  | [] => true
  | mark :: sign :: digits =>
    (mark = 'e' || mark = 'E') && (sign = '+' || sign = '-') && !digits.isEmpty &&
      digits.all Text.isAsciiDigit
  | _ => false

def isFraction (text : List Char) : Bool := isExponent (text.dropWhile isDigitOrGap)

/-- Numbers with a point. One in base sixty has no exponent, and only a number that begins with a
digit, and infinity, may have a sign. -/
def isReal (text : List Char) : Bool :=
  let body := (Text.splitSign text).2
  let (whole, after) := body.span (· ≠ '.')
  match after with
  | [] => false
  | _ :: fraction =>
    if whole.isEmpty then
      ["inf", "Inf", "INF"].contains (String.ofList fraction) ||
        (text.head? = some '.' &&
          (["nan", "NaN", "NAN"].contains (String.ofList fraction) ||
            (startsWithDigit fraction && isFraction fraction)))
    else
      match colonParts whole with
      | [_] => startsWithDigit whole && whole.all isDigitOrGap && isFraction fraction
      | first :: sixtieths =>
        startsWithDigit first && first.all isDigitOrGap && sixtieths.all isSixtieth &&
          fraction.all isDigitOrGap
      | [] => false

end Look

end Liveness.Yaml
