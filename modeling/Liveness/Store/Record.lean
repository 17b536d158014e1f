import Liveness.Database.Cell
import Liveness.Json.Parser
import Liveness.Json.Printer
import Liveness.Time.Timestamp

namespace Liveness.Store

open Database (Cell)

structure Submission where
  name : Option String
  status : Option String
  reportedAt : Time.Moment
  executableName : Option String := some ""
  version : Option String := some ""
  pid : Option Int := some 0
  extra : Json := .null

structure Row where
  id : Nat
  name : String
  executableName : Option String
  version : Option String
  pid : Cell
  status : String
  metadata : Option String
  lastUpdate : String
deriving DecidableEq

structure StatusRecord where
  name : String
  status : String
  reportedAt : Time.Instant
  executableName : String
  version : String
  pid : Cell
  extra : Json

inductive StoreFault where
  | missingTable
  | missingText (column : String)
  | integerTooLarge
  | metadataTooLong
  | time (fault : Time.TimeFault)
  | timestamp (fault : Time.Timestamp.ReadFault)
  | metadata (fault : Json.Fault)

def tableName : String := "service_status"

def StoreFault.toFailure : StoreFault → Failure
  | .missingTable => .of (.database "OperationalError") s!"no such table: {tableName}"
  | .missingText column =>
    .of (.database "IntegrityError") s!"NOT NULL constraint failed: {tableName}.{column}"
  | .integerTooLarge => .of .overflow "Python int too large to convert to SQLite INTEGER"
  | .metadataTooLong => .of .value Text.IntegerFault.tooLongToWrite.message
  | .time fault => fault.toFailure
  | .timestamp fault => .of .value fault.message
  | .metadata fault =>
    match fault.cause with
    | .longInteger _ => .of .value fault.message
    | _ => .of .malformedJson fault.message

def metadataText (extra : Json) : Except StoreFault (Option String) :=
  match extra with
  | .null => .ok none
  | value => if value.exceedsDigits then .error .metadataTooLong
    else .ok (some (value.render Json.Style.stored))

/-- A process number as it is read back: what counts as nothing becomes zero. -/
def pidOf : Cell → Cell
  | .null => .integer 0
  | .text s => if s.isEmpty then .integer 0 else .text s
  | .real x => if x.isZero then .integer 0 else .real x
  | cell => cell

/-- Reads a row back. The time is read before the metadata. -/
def Row.decode (row : Row) : Except StoreFault StatusRecord := do
  let reportedAt ← (Time.Timestamp.read row.lastUpdate).mapError .timestamp
  let extra ← match row.metadata with
    | none => .ok .null
    | some text => (Json.parse text).mapError .metadata
  return {
    name := row.name
    status := row.status
    reportedAt := reportedAt
    executableName := row.executableName.getD ""
    version := row.version.getD ""
    pid := pidOf row.pid
    extra := extra }

end Liveness.Store
