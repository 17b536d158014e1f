import Liveness.Console.Style
import Liveness.Failure

namespace Liveness.Console.Markup

structure Tag where
  name : List Char
  parameters : Option (List Char)
deriving DecidableEq

def Tag.written (tag : Tag) : String :=
  "[" ++ String.ofList tag.name ++
    (match tag.parameters with
      | some p => "=" ++ String.ofList p
      | none => "") ++ "]"

inductive Piece where
  | plain (text : List Char)
  | literal (text : List Char)
  | tag (position : Nat) (tag : Tag)

inductive Fault where
  | unopened (tag : Tag) (position : Nat)
  | nothingToClose (position : Nat)
  | noNumber (fault : Text.IntegerFault)
deriving DecidableEq

def Fault.message : Fault → String
  | .unopened tag position =>
    s!"closing tag '{tag.written}' at position {position} doesn't match any open tag"
  | .nothingToClose position => s!"closing tag '[/]' at position {position} has nothing to close"
  | .noNumber fault => fault.message

def Fault.failure : Fault → Failure
  | .noNumber fault => .of .value fault.message
  | fault => .of .markup fault.message

def isTagStart (c : Char) : Bool := ('a' ≤ c && c ≤ 'z') || c = '#' || c = '/' || c = '@'

def takeTag? (inner : List Char) : Option (List Char × List Char) :=
  match inner with
  | [] => none
  | first :: _ =>
    if isTagStart first then
      match inner.span fun c => c ≠ ']' && c ≠ '[' with
      | (text, ']' :: after) => some (text, after)
      | _ => none
    else none

def tagOf (text : List Char) : Tag :=
  match text.span (· ≠ '=') with
  | (name, '=' :: parameters) => ⟨name, some parameters⟩
  | (name, _) => ⟨name, none⟩

def addPlain (text : List Char) : List Piece → List Piece
  | .plain more :: rest => .plain (text ++ more) :: rest
  | pieces => if text.isEmpty then pieces else .plain text :: pieces

/-- The pieces of a text. Two backslashes before a tag stand for one, and one more keeps the tag
from being one. `steps` counts characters. -/
def pieces (position : Nat) : Nat → List Char → List Piece
  | 0, _ | _, [] => []
  | steps + 1, text =>
    let slashes := text.takeWhile (· = '\\')
    let count := slashes.length
    match text.drop count with
    | [] => [.plain slashes]
    | c :: inner =>
      match if c = '[' then takeTag? inner else none with
      | none => addPlain (slashes ++ [c]) (pieces (position + count + 1) steps inner)
      | some (tag, after) =>
        let rest := pieces (position + count + tag.length + 2) steps after
        let kept := if count < 2 then [] else [.literal (List.replicate (count / 2) '\\')]
        if count % 2 = 1 then kept ++ .literal ('[' :: tag ++ [']']) :: rest
        else kept ++ .tag (position + count) (tagOf tag) :: rest

def unescape : List Char → List Char
  | '\\' :: '[' :: rest => '[' :: unescape rest
  | c :: rest => c :: unescape rest
  | [] => []

def closeStyle? (name : String) : List String → Option (List String)
  | [] => none
  | style :: rest =>
    if style = name then some rest else (closeStyle? name rest).map (style :: ·)

def plainText (opened : List String) : List Piece → Except Fault (List Char)
  | [] => .ok []
  | .plain text :: rest => (plainText opened rest).map (unescape text ++ ·)
  | .literal text :: rest => (plainText opened rest).map (text ++ ·)
  | .tag position tag :: rest =>
    match tag.name with
    | '/' :: name =>
      let name := Text.trimBoth Text.isBlank name
      if name.isEmpty then
        match opened with
        | [] => .error (.nothingToClose position)
        | _ :: opened => plainText opened rest
      else
        match Style.normalize name with
        | .error fault => .error (.noNumber fault)
        | .ok style =>
          match closeStyle? style opened with
          | none => .error (.unopened tag position)
          | some opened => plainText opened rest
    | name =>
      match Style.normalize name with
      | .error fault => .error (.noNumber fault)
      | .ok style => plainText (style :: opened) rest

def isDropped (c : Char) : Bool :=
  c = '\x07' || c = '\x08' || c = '\x0b' || c = '\x0c' || c = '\r'

def toPlain (markup : String) : Except Fault (List Char) :=
  let chars := markup.toList
  (plainText [] (pieces 0 chars.length chars)).map fun text => text.filter fun c => !isDropped c

end Liveness.Console.Markup
