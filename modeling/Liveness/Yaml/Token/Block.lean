import Liveness.Text.Digit
import Liveness.Yaml.Cursor

namespace Liveness.Yaml.Block

inductive Chomping where
  | strip
  | clip
  | keep
deriving DecidableEq

structure Header where
  chomping : Chomping := .clip
  indentation : Option Nat := none

def chomping? : Option Char → Option Chomping
  | some '+' => some .keep
  | some '-' => some .strip
  | _ => none

def indentation (c : Cursor) : Except Fault (Option Nat × Cursor) :=
  match c.next?.bind Text.asciiDigit? with
  | none => .ok (none, c)
  | some 0 => .error .badBlockHeader
  | some n => .ok (some n, c.advance)

def header (c : Cursor) : Except Fault (Header × Cursor) := do
  let (marks, c) ← match chomping? c.next? with
    | some chomping => do
      let (n, c) ← indentation c.advance
      pure (Header.mk chomping n, c)
    | none => do
      let (n, c) ← indentation c
      match n, chomping? c.next? with
      | some n, some chomping => pure (Header.mk chomping (some n), c.advance)
      | n, _ => pure (Header.mk .clip n, c)
  if c.endsField then return (marks, c) else .error .badBlockHeader

def skipIndent (indent : Nat) (c : Cursor) : Cursor :=
  c.forward (min (indent - c.column) (c.rest.takeWhile (· = ' ')).length)

def emptyLines (indent : Nat) : Nat → Cursor → List Char × Cursor
  | 0, c => ([], c)
  | fuel + 1, c =>
    let c := skipIndent indent c
    match c.lineBreak? with
    | none => ([], c)
    | some (char, c) =>
      let (more, c) := emptyLines indent fuel c
      (char :: more, c)

def leadingLines : Nat → Nat → Cursor → List Char × Nat × Cursor
  | 0, widest, c => ([], widest, c)
  | fuel + 1, widest, c =>
    let c := c.skipSpaces
    let widest := max widest c.column
    match c.lineBreak? with
    | none => ([], widest, c)
    | some (char, c) =>
      let (more, widest, c) := leadingLines fuel widest c
      (char :: more, widest, c)

def isIndentedMore (c : Cursor) : Bool := c.next?.any fun char => char = ' ' || char = '\t'

/-- Lines that begin at the indentation, after some empty ones: their text, the end of the last
line, the line ends after it, and the place reached. -/
def linesFrom (folded : Bool) (indent : Nat) :
    Nat → List Char → Cursor → List Char × List Char × List Char × Cursor
  | 0, empties, c => ([], [], empties, c)
  | fuel + 1, empties, c =>
    if c.column ≠ indent ∨ c.atEnd then ([], [], empties, c)
    else
      let foldable := folded && !isIndentedMore c
      let (text, c) := c.takeWhile fun char => !isBreak char
      let (ending, c) := match c.lineBreak? with
        | some (char, c) => ([char], c)
        | none => ([], c)
      let (more, c) := emptyLines indent (c.rest.length + 1) c
      if c.column ≠ indent ∨ c.atEnd then (empties ++ text, ending, more, c)
      else
        let joint :=
          if foldable ∧ ending = ['\n'] ∧ ¬ isIndentedMore c then
            if more.isEmpty then [' '] else []
          else ending
        let (later, last, trailing, c) := linesFrom folded indent fuel more c
        (empties ++ text ++ joint ++ later, last, trailing, c)

def read (folded : Bool) (indent : Int) (c : Cursor) : Except Fault (String × Cursor) := do
  let (marks, c) ← header c.advance
  let c ← c.finishLine .badBlockHeader
  let least := (max (indent + 1) 1).toNat
  let fuel := c.rest.length + 1
  let (empties, column, c) := match marks.indentation with
    | some n =>
      let column := least + n - 1
      let (empties, c) := emptyLines column fuel c
      (empties, column, c)
    | none =>
      let (empties, widest, c) := leadingLines fuel 0 c
      (empties, max least widest, c)
  let (text, ending, trailing, c) := linesFrom folded column fuel empties c
  let tail := match marks.chomping with
    | .strip => []
    | .clip => ending
    | .keep => ending ++ trailing
  return (String.ofList (text ++ tail), c)

end Liveness.Yaml.Block
