import Liveness.CommandLine.Session
import Liveness.Console.Terminal
import Liveness.Json.Parser
import Liveness.Monitor.Rehearsal
import Liveness.Settings.Sources

namespace Liveness

def settingNames : List String :=
  ["status_db_path", "primary_db_path", "secondary_db_path", "site_domain", "redis_cache_endpoint",
   "services_file", "probe_interval_seconds", "store_timeout_seconds", "cache_timeout_seconds",
   "http_timeout_seconds", "genesis_timestamp", "seconds_per_slot", "slots_per_epoch",
   "executable_name", "log_level"]

def readEnvironment : IO (List (String × String)) := do
  let found ← (settingNames ++ settingNames.map String.toUpper).mapM fun name => do
    return (← IO.getEnv name).map fun value => (name, value)
  return found.filterMap id

def readEntry (path : String) : IO Fleet.FileEntries := do
  try
    let content ← IO.FS.readBinFile path
    return [(path, .file content.toList)]
  catch
    | .noFileOrDirectory .. => return []
    | _ => return [(path, .directory)]

def readVariables : IO (Option String) := do
  match ← readEntry ".env" with
  | [(_, .file content)] => return (Text.utf8Decode? content).map String.ofList
  | _ => return none

def readScene : IO Monitor.Scene := do
  let text ← (← IO.getStdin).readToEnd
  return match Json.parse text with
    | .ok json => .ofJson json
    | .error _ => {}

def LogLevel.severity : LogLevel → Nat
  | .debug => 10
  | .info => 20
  | .warning => 30
  | .error => 40

def showLogs (threshold : Nat) (entries : List LogEntry) : IO Unit :=
  for entry in entries do
    if threshold ≤ entry.level.severity then
      IO.eprintln s!"{entry.level.name}: {entry.message}"

def showFailure (failure : Failure) : IO UInt32 := do
  IO.eprintln failure.headline
  return 1

def showSession (session : CommandLine.Session) : IO UInt32 := do
  IO.print session.output
  IO.eprint session.errorOutput
  showLogs session.level (session.entries.filterMap fun entry =>
    match entry.effect with
    | .log log => some log
    | _ => none)
  for line in session.screen do
    IO.println line
  match session.ending with
  | .exit status => return status.toUInt32
  | .returned | .endless => return 0
  | .failed failure => showFailure failure

end Liveness

namespace Liveness

def prepareProbes (settings : Settings) :
    IO (Except Failure (List Scheduler.Lane) × List LogEntry × Monitor.Scene) := do
  let scene ← readScene
  let disk := (← readEntry settings.servicesFile).disk
  let (probes, logs) := Monitor.probesOf settings disk Yaml.loader
  return (probes.map fun found => found.filterMap scene.lane?, logs, scene)

def runWith (settings : Settings) (arguments : List String) : IO UInt32 := do
  let (lanes, logs, scene) ← match CommandLine.read arguments with
    | .command _ => prepareProbes settings
    | _ => pure (.ok [], [], {})
  match lanes with
  | .error failure => showFailure failure
  | .ok lanes =>
    let session :=
      CommandLine.main (Console.terminal 80) settings lanes scene.origin scene.interrupt
      arguments
    showLogs session.level logs
    showSession session

end Liveness

open Liveness in
def main (arguments : List String) : IO UInt32 := do
  let sources : Settings.Sources :=
    { environment := ← readEnvironment, file := ← readVariables }
  match sources.read with
  | .ok settings => runWith settings arguments
  | .error faults =>
    for (name, fault) in faults do
      IO.eprintln s!"{name}: {fault.code}"
    return 1
