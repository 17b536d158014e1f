import Liveness.Yaml.Fault

namespace Liveness.Yaml

def isBreak (c : Char) : Bool := c = '\n' || c = '\x85' || c = '\u2028' || c = '\u2029'

def isSpacing (c : Char) : Bool := c = ' ' || c = '\t' || isBreak c

def byteOrderMark : Char := '\ufeff'

structure Cursor where
  rest : List Char
  index : Nat := 0
  line : Nat := 0
  column : Nat := 0

namespace Cursor

def next? (c : Cursor) : Option Char := c.rest.head?

def atEnd (c : Cursor) : Bool := c.rest.isEmpty

def advance (c : Cursor) : Cursor :=
  match c.rest with
  | [] => c
  | char :: rest =>
    if isBreak char then ⟨rest, c.index + 1, c.line + 1, 0⟩
    else ⟨rest, c.index + 1, c.line, if char = byteOrderMark then c.column else c.column + 1⟩

def forward (n : Nat) (c : Cursor) : Cursor := Nat.repeat advance n c

def takeWhile (p : Char → Bool) (c : Cursor) : List Char × Cursor :=
  let taken := c.rest.takeWhile p
  (taken, c.forward taken.length)

def skipWhile (p : Char → Bool) (c : Cursor) : Cursor := (c.takeWhile p).2

def skipSpaces (c : Cursor) : Cursor := c.skipWhile (· = ' ')

def lineBreak? (c : Cursor) : Option (Char × Cursor) :=
  match c.rest with
  | [] => none
  | char :: _ =>
    if ¬ isBreak char then none
    else if char = '\u2028' ∨ char = '\u2029' then some (char, c.advance)
    else some ('\n', c.advance)

def spacingAt (n : Nat) (c : Cursor) : Bool := (c.rest[n]?).all isSpacing

/-- Whether a tag or a directive could end here; a tab does not end one. -/
def endsField (c : Cursor) : Bool := c.next?.all fun char => char = ' ' || isBreak char

def endsLine (c : Cursor) : Bool := c.next?.all isBreak

def startsWith (mark : List Char) (c : Cursor) : Bool := mark.isPrefixOf c.rest

def documentStart : List Char := ['-', '-', '-']

def documentEnd : List Char := ['.', '.', '.']

def atDocumentMark (c : Cursor) : Bool :=
  (c.startsWith documentStart || c.startsWith documentEnd) && c.spacingAt 3

def skipComment (c : Cursor) : Cursor :=
  if c.next? = some '#' then c.skipWhile fun char => !isBreak char else c

def finishLine (fault : Fault) (c : Cursor) : Except Fault Cursor :=
  let c := c.skipSpaces.skipComment
  if c.endsLine then .ok c.advance else .error fault

end Cursor

end Liveness.Yaml
