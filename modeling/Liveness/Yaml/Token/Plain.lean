import Liveness.Yaml.Cursor

namespace Liveness.Yaml.Plain

def isFlowMark (c : Char) : Bool := c = ',' || c = '[' || c = ']' || c = '\x7b' || c = '\x7d'

def endsWord (inFlow : Bool) (c : Char) (next : Option Char) : Bool :=
  isSpacing c || (c = ':' && next.all fun n => isSpacing n || (inFlow && isFlowMark n)) ||
    (inFlow && (isFlowMark c || c = '?'))

def word (inFlow : Bool) : List Char → List Char
  | [] => []
  | c :: rest => if endsWord inFlow c rest.head? then [] else c :: word inFlow rest

def emptyLines : Nat → Cursor → Option (List Char) × Cursor
  | 0, c => (some [], c)
  | fuel + 1, c =>
    let c := c.skipSpaces
    match c.lineBreak? with
    | none => (some [], c)
    | some (char, c) =>
      if c.atDocumentMark then (none, c)
      else
        let (more, c) := emptyLines fuel c
        (more.map (char :: ·), c)

def gap (c : Cursor) : List Char × Cursor × Bool :=
  let (blanks, c) := c.takeWhile (· = ' ')
  match c.lineBreak? with
  | none => (blanks, c, false)
  | some (char, c) =>
    if c.atDocumentMark then ([], c, true)
    else
      match emptyLines (c.rest.length + 1) c with
      | (none, c) => ([], c, true)
      | (some lines, c) =>
        let first := if char ≠ '\n' then [char] else if lines.isEmpty then [' '] else []
        (first ++ lines, c, true)

/-- Words as long as they are indented by at least `indent`, with what stands before the first. -/
def wordsFrom (inFlow : Bool) (indent : Int) :
    Nat → List Char → Bool → Cursor → List Char × Cursor × Bool
  | 0, _, crossed, c => ([], c, crossed)
  | fuel + 1, before, crossed, c =>
    let first := word inFlow c.rest
    if c.next? = some '#' ∨ first.isEmpty then ([], c, crossed)
    else
      let (after, c, crossed) := gap (c.forward first.length)
      let text := before ++ first
      if after.isEmpty ∨ c.next? = some '#' ∨ (¬ inFlow ∧ c.column < indent) then (text, c, crossed)
      else
        let (more, c, crossed) := wordsFrom inFlow indent fuel after crossed c
        (text ++ more, c, crossed)

def read (inFlow : Bool) (indent : Int) (c : Cursor) : String × Cursor × Bool :=
  let (text, c, crossed) := wordsFrom inFlow indent (c.rest.length + 1) [] false c
  (String.ofList text, c, crossed)

end Liveness.Yaml.Plain
