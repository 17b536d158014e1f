import Liveness.Settings.Basic
import Liveness.Settings.Dotenv
import Liveness.Settings.Value

namespace Liveness.Settings

open Numeric (Binary64)

structure Sources where
  given : List (String × Json) := []
  environment : List (String × String) := []
  file : Option String := none

def findAnyCase? {α : Type} (pairs : List (String × α)) (name : String) : Option α :=
  (pairs.reverse.find? fun pair => pair.1.toLower = name).map (·.2)

namespace Sources

def fileVariables (sources : Sources) : Dotenv.Variables :=
  (sources.file.map (Dotenv.read sources.environment)).getD []

def find? (sources : Sources) (name : String) : Option Json :=
  (sources.given.lookup name).or
    (((findAnyCase? sources.environment name).or
      ((findAnyCase? sources.fileVariables name).join)).map Json.text)

abbrev Reading := StateM (List (String × ValueFault))

/-- The value of one setting; a value that cannot be read is noted, and the default stands in. -/
def setting {α : Type} (sources : Sources) (read : Json → Except ValueFault α) (name : String)
    (default : α) : Reading α :=
  match sources.find? name with
  | none => pure default
  | some value =>
    match read value with
    | .ok a => pure a
    | .error fault => do
      modify (· ++ [(name, fault)])
      pure default

def readAll (sources : Sources) : Reading Settings := do
  let base : Settings := {}
  let text := sources.setting readText
  let real := sources.setting readReal
  let whole := sources.setting readWhole
  let statusPath ← text "status_db_path" base.statusPath
  let primaryPath ← text "primary_db_path" base.primaryPath
  let secondaryPath ← text "secondary_db_path" base.secondaryPath
  let siteDomain ← text "site_domain" base.siteDomain
  let cacheEndpoint ← text "redis_cache_endpoint" base.cacheEndpoint
  let servicesFile ← text "services_file" base.servicesFile
  let probeInterval ← real "probe_interval_seconds" base.probeInterval
  let storeTimeout ← real "store_timeout_seconds" base.storeTimeout
  let cacheTimeout ← real "cache_timeout_seconds" base.cacheTimeout
  let httpTimeout ← real "http_timeout_seconds" base.httpTimeout
  let genesis ← whole "genesis_timestamp" base.chain.genesis
  let secondsPerSlot ← whole "seconds_per_slot" base.chain.secondsPerSlot
  let slotsPerEpoch ← whole "slots_per_epoch" base.chain.slotsPerEpoch
  let executableName ← text "executable_name" base.executableName
  let logLevel ← text "log_level" base.logLevel
  return {
    statusPath, primaryPath, secondaryPath, siteDomain, cacheEndpoint, servicesFile, probeInterval,
    storeTimeout, cacheTimeout, httpTimeout, executableName, logLevel
    chain := ⟨genesis, secondsPerSlot, slotsPerEpoch⟩ }

def read (sources : Sources) : Except (List (String × ValueFault)) Settings :=
  match sources.readAll.run [] with
  | (settings, []) => .ok settings
  | (_, faults) => .error faults

end Sources

end Liveness.Settings
