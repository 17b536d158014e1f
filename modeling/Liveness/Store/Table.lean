import Liveness.Store.Record

/-!
The status table: rows are appended and removed, never changed, and a number that identified a row
is never given again. Rows compare by the text of their time.
-/

namespace Liveness.Store

open Database (Cell)

structure Table where
  rows : List Row := []
  lastId : Nat := 0
deriving Inhabited

structure StatusStore where
  table : Option Table := some {}
deriving Inhabited

def Row.newerFirst (a b : Row) : Bool :=
  if a.lastUpdate = b.lastUpdate then b.id ≤ a.id else b.lastUpdate < a.lastUpdate

namespace StatusStore

def reopen (store : StatusStore) : StatusStore :=
  { table := some (store.table.getD {}) }

def drop (_ : StatusStore) : StatusStore := { table := none }

def rowOf (submission : Submission) (metadata : Option String) (lastUpdate : String) (id : Nat) :
    Except StoreFault Row := do
  if ¬ Cell.fitsInteger (submission.pid.getD 0) then .error .integerTooLarge
  let some name := submission.name | .error (.missingText "name")
  let some status := submission.status | .error (.missingText "status")
  return {
    id := id
    name := name
    executableName := submission.executableName
    version := submission.version
    pid := (submission.pid.map Cell.integer).getD .null
    status := status
    metadata := metadata
    lastUpdate := lastUpdate }

def insert (store : StatusStore) (submission : Submission) : Except StoreFault StatusStore := do
  let metadata ← metadataText submission.extra
  let lastUpdate ← (Time.Timestamp.write submission.reportedAt).mapError .time
  let some table := store.table | .error .missingTable
  let row ← rowOf submission metadata lastUpdate (table.lastId + 1)
  return { table := some ⟨table.rows ++ [row], table.lastId + 1⟩ }

def recentRows (table : Table) (since : String) : List Row :=
  (table.rows.filter fun row => since < row.lastUpdate).mergeSort Row.newerFirst

/-- Records reported strictly after a moment, newest first. -/
def recent (store : StatusStore) (since : Time.Moment) : Except StoreFault (List StatusRecord) := do
  let text ← (Time.Timestamp.write since).mapError .time
  let some table := store.table | .error .missingTable
  (recentRows table text).mapM Row.decode

def removeBefore (store : StatusStore) (cutoff : Time.Moment) :
    Except StoreFault (Nat × StatusStore) := do
  let text ← (Time.Timestamp.write cutoff).mapError .time
  let some table := store.table | .error .missingTable
  let kept := table.rows.filter fun row => ¬ row.lastUpdate < text
  return (table.rows.length - kept.length, { table := some { table with rows := kept } })

/-- Values put into the columns of a new row directly, each converted as its column demands. -/
def insertCells (store : StatusStore) (cells : String → Cell) : Except StoreFault StatusStore := do
  let some table := store.table | .error .missingTable
  let text (column : String) := (cells column).toTextColumn
  let some name := text "name" | .error (.missingText "name")
  let some status := text "status" | .error (.missingText "status")
  let some lastUpdate := text "last_update" | .error (.missingText "last_update")
  let row : Row := {
    id := table.lastId + 1
    name := name
    executableName := text "executable_name"
    version := text "version"
    pid := (cells "pid").toIntegerColumn
    status := status
    metadata := text "metadata"
    lastUpdate := lastUpdate }
  return { table := some ⟨table.rows ++ [row], table.lastId + 1⟩ }

end StatusStore

structure Reporter where
  executableName : String := "beaconwatch"
  version : String := "0.1.0"
  pid : Int := 4242

def Reporter.submission (reporter : Reporter) (name status : Option String) (moment : Time.Moment)
    (extra : Json) : Submission where
  name := name
  status := status
  reportedAt := moment
  executableName := some reporter.executableName
  version := some reporter.version
  pid := some reporter.pid
  extra := extra

end Liveness.Store
