import Liveness.Console.Paragraph
import Liveness.Numeric.Binary64

namespace Liveness.Console

structure Table where
  title : List Char
  headings : List (List Char)
  rows : List (List (List Char))

namespace Table

def cellPadding : Nat := 2

def isLineEnd (c : Char) : Bool :=
  let n := c.toNat
  (0xa ≤ n && n ≤ 0xd) || (0x1c ≤ n && n ≤ 0x1e) || n == 0x85 || n == 0x2028 || n == 0x2029

def longestLine (column widest : Nat) : List Char → Nat
  | [] => max column widest
  | c :: rest =>
    if isLineEnd c then longestLine 0 (max column widest) rest
    else longestLine (column + charWidth c) widest rest

def cellWidth (available : Nat) (cell : List Char) : Nat :=
  min (min (longestLine 0 0 cell) available + cellPadding) available

def column (table : Table) (index : Nat) : List (List Char) :=
  (table.headings :: table.rows).map fun row => (row[index]?).getD []

def naturalWidths (table : Table) (available : Nat) : List Nat :=
  (List.range table.headings.length).map fun index =>
    ((table.column index).map (cellWidth available)).foldl max 0

def reduce (most : Nat) : Nat → Nat → List (Nat × Bool) → List Nat
  | _, _, [] => []
  | amount, shares, (width, marked) :: rest =>
    if marked ∧ 0 < shares then
      let share := min most (Numeric.roundHalfEven amount shares)
      (width - share) :: reduce most (amount - share) (shares - 1) rest
    else width :: reduce most amount shares rest

def total (widths : List Nat) : Nat := widths.foldl (· + ·) 0

/-- One round of narrowing: the widest columns come down, at most to the width of the next. -/
def narrowOnce (limit : Nat) (widths : List Nat) : List Nat :=
  let excess := total widths - limit
  let widest := widths.foldl max 0
  let second := (widths.filter (· ≠ widest)).foldl max 0
  let marked := widths.map fun w => (w, w == widest)
  reduce (min excess (widest - second)) excess (marked.filter (·.2)).length marked

def narrow (limit : Nat) : Nat → List Nat → List Nat
  | 0, widths => widths
  | rounds + 1, widths =>
    if total widths ≤ limit then widths else narrow limit rounds (narrowOnce limit widths)

def columnWidths (table : Table) (screen : Nat) : List Nat :=
  let frame := table.headings.length + 1
  let natural := table.naturalWidths (screen - frame)
  narrow (screen - frame) (total natural) natural

def rule (left stroke crossing right : Char) (widths : List Nat) : List Char :=
  left :: ((widths.map fun w => List.replicate w stroke).intersperse [crossing]).flatten ++ [right]

def rowLines (stroke : Char) (widths : List Nat) (cells : List (List Char)) : List (List Char) :=
  let blocks := (widths.zip cells).map fun (w, cell) =>
    (Paragraph.lines (w - cellPadding) .ellipsis cell, w)
  let height := (blocks.map fun block => block.1.length).foldl max 1
  (List.range height).map fun index =>
    let parts := blocks.map fun (lines, w) =>
      ' ' :: Paragraph.pad (w - cellPadding) ((lines[index]?).getD []) ++ [' ']
    stroke :: (parts.intersperse [stroke]).flatten ++ [stroke]

def lines (table : Table) (screen : Nat) : List (List Char) :=
  let widths := table.columnWidths screen
  let width := total widths + widths.length + 1
  [Paragraph.center width table.title, rule '┏' '━' '┳' '┓' widths] ++
    rowLines '┃' widths table.headings ++ [rule '┡' '━' '╇' '┩' widths] ++
    table.rows.flatMap (rowLines '│' widths) ++ [rule '└' '─' '┴' '┘' widths]

end Table

end Liveness.Console
