import Liveness.Console.Width
import Liveness.Text.Blank

namespace Liveness.Console

inductive Overflow where
  | fold
  | ellipsis
deriving DecidableEq

namespace Paragraph

def split (text : List Char) : List (List Char) :=
  text.foldr (fun c parts =>
    if c = '\n' then [] :: parts
    else match parts with
      | part :: rest => (c :: part) :: rest
      | [] => [[c]]) [[]]

def tabStop : Nat := 8

def expandTabs (column : Nat) : List Char → List Char
  | [] => []
  | '\t' :: rest =>
    let blanks := tabStop - column % tabStop
    List.replicate blanks ' ' ++ expandTabs (column + blanks) rest
  | c :: rest => c :: expandTabs (column + charWidth c) rest

/-- Words with the blanks after them; blanks before the first word belong to it. Blanks alone are
no word. -/
def words : Nat → List Char → List (List Char)
  | 0, _ => []
  | steps + 1, text =>
    let (before, rest) := text.span Text.isBlank
    let (word, rest) := rest.span fun c => !Text.isBlank c
    if word.isEmpty then []
    else
      let (after, rest) := rest.span Text.isBlank
      (before ++ word ++ after) :: words steps rest

def trimRight (text : List Char) : List Char :=
  (text.reverse.dropWhile Text.isBlank).reverse

def chop (limit : Nat) (part : List Char) (used : Nat) : List Char → List (List Char)
  | [] => [part.reverse]
  | c :: rest =>
    if limit < used + charWidth c then part.reverse :: chop limit [c] (charWidth c) rest
    else chop limit (c :: part) (used + charWidth c) rest

structure Setting where
  lines : List (List Char) := [[]]
  column : Nat := 0

def Setting.append (setting : Setting) (text : List Char) : Setting :=
  match setting.lines with
  | line :: rest => { setting with lines := (line ++ text) :: rest }
  | [] => { setting with lines := [text] }

def Setting.isFresh (setting : Setting) : Bool := setting.lines = [[]]

def Setting.newLine (setting : Setting) : Setting :=
  if setting.isFresh then setting else { setting with lines := [] :: setting.lines }

def Setting.place (limit : Nat) (overflow : Overflow) (setting : Setting) (word : List Char) :
    Setting :=
  let needed := width (trimRight word)
  if needed ≤ limit - setting.column ∧ setting.column ≤ limit then
    { setting.append word with column := setting.column + width word }
  else if limit < needed then
    match overflow with
    | .ellipsis => { setting.newLine.append word with column := width word }
    | .fold =>
      (chop limit [] 0 word).foldl (fun setting part =>
        { setting.newLine.append part with column := width part }) setting
  else if setting.column = 0 ∨ setting.isFresh then setting.append word
  else { setting.newLine.append word with column := width word }

def trimExcess (limit : Nat) (line : List Char) : List Char :=
  let excess := line.length - limit
  let blanks := line.length - (trimRight line).length
  line.take (line.length - min excess blanks)

def cut (limit : Nat) (line : List Char) : List Char :=
  match chop limit [] 0 line with
  | part :: _ => part ++ List.replicate (limit - width part) ' '
  | [] => List.replicate limit ' '

def fit (limit : Nat) (overflow : Overflow) (line : List Char) : List Char :=
  if width line ≤ limit then line
  else match overflow with
    | .ellipsis => cut (limit - 1) line ++ ['…']
    | .fold => cut limit line

def pad (limit : Nat) (line : List Char) : List Char :=
  line ++ List.replicate (limit - width line) ' '

def wrapLine (limit : Nat) (overflow : Overflow) (line : List Char) : List (List Char) :=
  let line := expandTabs 0 line
  match words line.length line with
  | [] => [line]
  | ws => (ws.foldl (Setting.place limit overflow) {}).lines.reverse

def lines (limit : Nat) (overflow : Overflow) (text : List Char) : List (List Char) :=
  ((split text).flatMap (wrapLine limit overflow)).map fun line =>
    pad limit (fit limit overflow (trimExcess limit line))

def center (limit : Nat) (line : List Char) : List Char :=
  let before := (limit - width line) / 2
  pad limit (List.replicate before ' ' ++ line)

end Paragraph

end Liveness.Console
