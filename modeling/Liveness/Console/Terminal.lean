import Liveness.Console.Markup
import Liveness.Console.Panel
import Liveness.Console.Renderer
import Liveness.Console.Table

/-!
A stand-in for the console library, as far as rehearsals need one: a terminal without colors.
-/

namespace Liveness.Console

def plain (markup : String) : Except Failure (List Char) :=
  (Markup.toPlain markup).mapError Markup.Fault.failure

def plainColumns (count : Nat) (rows : List (List String)) :
    Except Failure (List (List (List Char))) :=
  (List.range count).mapM fun index => rows.mapM fun row => plain ((row[index]?).getD "")

def terminal (width : Nat) : Renderer where
  table title headings rows := do
    let columns ← plainColumns headings.length rows
    let table : Table :=
      { title := title.toList
        headings := headings.map String.toList
        rows := (List.range rows.length).map fun row =>
          columns.map fun cells => (cells[row]?).getD [] }
    return (table.lines width).map String.ofList
  panel title text := do
    let panel : Panel := ⟨title.toList, ← plain text⟩
    return (panel.lines width).map String.ofList

end Liveness.Console
