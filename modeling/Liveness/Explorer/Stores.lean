import Liveness.Database.Files
import Liveness.Freshness.Primary
import Liveness.Freshness.Secondary

namespace Liveness.Explorer

open Database (Cell Contents Files OpenFault)
open Freshness (PrimaryQuantity PrimaryReadings SecondaryReadings)

def emptyStore (table : String) : Failure := .of .emptyStore s!"{table} table is empty"

def columnMaximum (contents : Contents) (table column : String) : Except Failure Int := do
  let cells ← (contents.column table column).mapError OpenFault.toFailure
  match Cell.maximum cells with
  | .null => .error (emptyStore table)
  | cell => cell.toInt

def source : PrimaryQuantity → String × String
  | .attestationSlot => ("validators", "lastattestationslot")
  | .blockSlot => ("blocks", "slot")
  | .epoch => ("epochs", "epoch")

def query {α : Type} (files : Files) (path : String) (run : Contents → Except Failure α) :
    Except Failure α × Files :=
  match files.openReadOnly path with
  | (.ok contents, files) => (run contents, files)
  | (.error fault, files) => (.error fault.toFailure, files)

def readQuantity (files : Files) (path : String) (quantity : PrimaryQuantity) :
    Except Failure Int × Files :=
  query files path fun contents => columnMaximum contents (source quantity).1 (source quantity).2

def cellTime : Cell → Except Failure Time.Instant
  | .integer n => (Time.Instant.ofSeconds n 0).mapError Time.TimeFault.toFailure
  | .real x => (Time.Instant.ofFloatSeconds x).mapError Time.TimeFault.toFailure
  | cell => .error (Time.TimeFault.notNumber cell.className).toFailure

/-- The row whose number is greatest, the first of equals. -/
def newestRow? : List (Cell × Cell) → Option (Cell × Cell)
  | [] => none
  | row :: rest => some (rest.foldl (fun best r => if best.1.lt r.1 then r else best) row)

def newestBlock (contents : Contents) : Except Failure (Int × Time.Moment) := do
  let numbers ← (contents.column "blocks" "number").mapError OpenFault.toFailure
  let times ← (contents.column "blocks" "time").mapError OpenFault.toFailure
  match newestRow? (numbers.zip times) with
  | none => .error (emptyStore "blocks")
  | some (number, time) => do
    let n ← number.toInt
    let t ← cellTime time
    return (n, Time.Moment.ofInstant t)

def readCanonical (files : Files) (path : String) : Except Failure (Int × Time.Moment) × Files :=
  query files path newestBlock

def readIndexed (files : Files) (path : String) : Except Failure Int × Files :=
  query files path fun contents => columnMaximum contents "data" "block_number"

def primaryReadings (files : Files) (path : String) : PrimaryReadings :=
  fun quantity => (readQuantity files path quantity).1

def secondaryReadings (files : Files) (path : String) : SecondaryReadings where
  canonical := (readCanonical files path).1
  indexed := (readIndexed files path).1

def primaryContents (validators blocks epochs : Option (List Cell)) : Contents :=
  let table (name column : String) (cells : Option (List Cell)) : Contents :=
    match cells with
    | none => []
    | some cs => [(name, ⟨[column], cs.map fun c => [c.toIntegerColumn]⟩)]
  table "validators" "lastattestationslot" validators ++ table "blocks" "slot" blocks ++
    table "epochs" "epoch" epochs

def secondaryContents (blocks : Option (List (Cell × Cell))) (data : Option (List Cell)) :
    Contents :=
  (match blocks with
    | none => []
    | some rows => [("blocks", ⟨["number", "time"],
        rows.map fun (n, t) => [n.toIntegerColumn, t.toIntegerColumn]⟩)]) ++
  match data with
  | none => []
  | some cs => [("data", ⟨["block_number"], cs.map fun c => [c.toIntegerColumn]⟩)]

end Liveness.Explorer
