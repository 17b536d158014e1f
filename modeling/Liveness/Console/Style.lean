import Liveness.Text.Blank
import Liveness.Text.Digit
import Liveness.Text.Integer

namespace Liveness.Console.Style

def attributeNames : List (String × List String) :=
  [("bold", ["bold", "b"]), ("dim", ["dim", "d"]), ("italic", ["italic", "i"]),
   ("underline", ["underline", "u"]), ("blink", ["blink"]), ("blink2", ["blink2"]),
   ("reverse", ["reverse", "r"]), ("conceal", ["conceal", "c"]), ("strike", ["strike", "s"]),
   ("underline2", ["underline2", "uu"]), ("frame", ["frame"]), ("encircle", ["encircle"]),
   ("overline", ["overline", "o"])]

def attribute? (word : String) : Option String :=
  (attributeNames.find? fun entry => entry.2.contains word).map (·.1)

def colorNames : List String :=
  [
    "black", "red", "green", "yellow", "blue", "magenta", "cyan", "white", "bright_black",
    "bright_red", "bright_green", "bright_yellow", "bright_blue", "bright_magenta", "bright_cyan",
    "bright_white", "grey0", "gray0", "navy_blue", "dark_blue", "blue3", "blue1", "dark_green",
    "deep_sky_blue4", "dodger_blue3", "dodger_blue2", "green4", "spring_green4", "turquoise4",
    "deep_sky_blue3", "dodger_blue1", "green3", "spring_green3", "dark_cyan", "light_sea_green",
    "deep_sky_blue2", "deep_sky_blue1", "spring_green2", "cyan3", "dark_turquoise", "turquoise2",
    "green1", "spring_green1", "medium_spring_green", "cyan2", "cyan1", "dark_red", "deep_pink4",
    "purple4", "purple3", "blue_violet", "orange4", "grey37", "gray37", "medium_purple4",
    "slate_blue3", "royal_blue1", "chartreuse4", "dark_sea_green4", "pale_turquoise4",
    "steel_blue", "steel_blue3", "cornflower_blue", "chartreuse3", "cadet_blue", "sky_blue3",
    "steel_blue1", "pale_green3", "sea_green3", "aquamarine3", "medium_turquoise", "chartreuse2",
    "sea_green2", "sea_green1", "aquamarine1", "dark_slate_gray2", "dark_magenta", "dark_violet",
    "purple", "light_pink4", "plum4", "medium_purple3", "slate_blue1", "yellow4", "wheat4",
    "grey53", "gray53", "light_slate_grey", "light_slate_gray", "medium_purple",
    "light_slate_blue", "dark_olive_green3", "dark_sea_green", "light_sky_blue3", "sky_blue2",
    "dark_sea_green3", "dark_slate_gray3", "sky_blue1", "chartreuse1", "light_green",
    "pale_green1", "dark_slate_gray1", "red3", "medium_violet_red", "magenta3", "dark_orange3",
    "indian_red", "hot_pink3", "medium_orchid3", "medium_orchid", "medium_purple2",
    "dark_goldenrod", "light_salmon3", "rosy_brown", "grey63", "gray63", "medium_purple1",
    "gold3", "dark_khaki", "navajo_white3", "grey69", "gray69", "light_steel_blue3",
    "light_steel_blue", "yellow3", "dark_sea_green2", "light_cyan3", "light_sky_blue1",
    "green_yellow", "dark_olive_green2", "dark_sea_green1", "pale_turquoise1", "deep_pink3",
    "magenta2", "hot_pink2", "orchid", "medium_orchid1", "orange3", "light_pink3", "pink3",
    "plum3", "violet", "light_goldenrod3", "tan", "misty_rose3", "thistle3", "plum2", "khaki3",
    "light_goldenrod2", "light_yellow3", "grey84", "gray84", "light_steel_blue1", "yellow2",
    "dark_olive_green1", "honeydew2", "light_cyan1", "red1", "deep_pink2", "deep_pink1",
    "magenta1", "orange_red1", "indian_red1", "hot_pink", "dark_orange", "salmon1", "light_coral",
    "pale_violet_red1", "orchid2", "orchid1", "orange1", "sandy_brown", "light_salmon1",
    "light_pink1", "pink1", "plum1", "gold1", "navajo_white1", "misty_rose1", "thistle1",
    "yellow1", "light_goldenrod1", "khaki1", "wheat1", "cornsilk1", "grey100", "gray100", "grey3",
    "gray3", "grey7", "gray7", "grey11", "gray11", "grey15", "gray15", "grey19", "gray19",
    "grey23", "gray23", "grey27", "gray27", "grey30", "gray30", "grey35", "gray35", "grey39",
    "gray39", "grey42", "gray42", "grey46", "gray46", "grey50", "gray50", "grey54", "gray54",
    "grey58", "gray58", "grey62", "gray62", "grey66", "gray66", "grey70", "gray70", "grey74",
    "gray74", "grey78", "gray78", "grey82", "gray82", "grey85", "gray85", "grey89", "gray89",
    "grey93", "gray93"
  ]

def isByte (text : List Char) : Bool :=
  !text.isEmpty && text.all Text.isAsciiDigit && text.length ≤ 3 &&
    Text.ofDigits 10 (text.filterMap Text.asciiDigit?) ≤ 255

def argument? (name : String) (word : List Char) : Option (List Char) :=
  let head := name.toList ++ ['(']
  if head.isPrefixOf word ∧ word.getLast? = some ')' then
    some ((word.drop head.length).dropLast)
  else none

def splitAtCommas (text : List Char) : List (List Char) :=
  text.foldr (fun c parts =>
    if c = ',' then [] :: parts
    else match parts with
      | part :: rest => (c :: part) :: rest
      | [] => [[c]]) [[]]

/-- Whether red, green and blue make a color. They are read as numbers even if they are none. -/
def isMixture (inner : List Char) : Except Text.IntegerFault Bool := do
  let parts := splitAtCommas inner
  if inner.isEmpty || parts.length ≠ 3 || !inner.all fun c => c = ',' || Text.isAsciiDigit c then
    return false
  let numbers ← parts.mapM fun part => Text.readInteger (String.ofList part)
  return numbers.all (· ≤ 255)

def isColor (word : String) : Except Text.IntegerFault Bool :=
  let chars := word.toList
  match argument? "rgb" chars with
  | some inner => isMixture inner
  | none =>
    .ok (word = "default" || colorNames.contains word ||
      (match chars with
        | '#' :: digits => digits.length = 6 && digits.all fun c => (Text.hexDigit? c).isSome
        | _ => false) ||
      (argument? "color" chars).any isByte)

structure Parts where
  attributes : List (String × Bool) := []
  color : Option String := none
  background : Option String := none
  link : Option String := none

def setAttribute (parts : Parts) (name : String) (on : Bool) : Parts :=
  { parts with attributes := (name, on) :: parts.attributes }

def ofWords? (parts : Parts) : List String → Except Text.IntegerFault (Option Parts)
  | [] => .ok (some parts)
  | word :: rest =>
    let lower := word.toLower
    if lower = "on" then
      match rest with
      | color :: rest =>
        match isColor color.toLower with
        | .ok true => ofWords? { parts with background := some color.toLower } rest
        | .ok false => .ok none
        | .error fault => .error fault
      | [] => .ok none
    else if lower = "not" then
      match rest with
      | name :: rest =>
        match attribute? name with
        | some known => ofWords? (setAttribute parts known false) rest
        | none => .ok none
      | [] => .ok none
    else if lower = "link" then
      match rest with
      | target :: rest => ofWords? { parts with link := some target } rest
      | [] => .ok none
    else
      match attribute? lower with
      | some known => ofWords? (setAttribute parts known true) rest
      | none =>
        match isColor lower with
        | .ok true => ofWords? { parts with color := some lower } rest
        | .ok false => .ok none
        | .error fault => .error fault

def Parts.toText (parts : Parts) : String :=
  let attributes := attributeNames.filterMap fun (name, _) =>
    (parts.attributes.lookup name).map fun on => if on then name else "not " ++ name
  let words := attributes ++ parts.color.toList ++
    (parts.background.map (fun color => "on " ++ color)).toList ++
    (parts.link.map (fun target => "link " ++ target)).toList
  if words.isEmpty then "none" else " ".intercalate words

def words (text : List Char) : List String :=
  let parts := text.foldr (fun c parts =>
    if Text.isBlank c then [] :: parts
    else match parts with
      | part :: rest => (c :: part) :: rest
      | [] => [[c]]) [[]]
  (parts.filter fun part => !part.isEmpty).map String.ofList

def normalize (text : List Char) : Except Text.IntegerFault String :=
  let trimmed := String.ofList (Text.trimBoth Text.isBlank text)
  if trimmed = "none" ∨ text.isEmpty then .ok "none"
  else (ofWords? {} (words text)).map fun parts =>
    match parts with
    | some parts => parts.toText
    | none => trimmed.toLower

end Liveness.Console.Style
