import Liveness.Database.Location
import Liveness.Fleet.Aggregation
import Liveness.Fleet.ServiceFile
import Liveness.Freshness.Primary
import Liveness.Freshness.Secondary
import Liveness.Reachability.Cache
import Liveness.Reachability.Http
import Liveness.Scheduler.Probe
import Liveness.Settings.Basic

namespace Liveness.Monitor

open Numeric (Binary64)

inductive Check where
  | primary (path : String) (timeout : Binary64) (check : Freshness.PrimaryCheck)
  | secondary (path : String) (timeout : Binary64) (check : Freshness.SecondaryCheck)
  | cache (check : Reachability.CacheCheck)
  | http (timeout : Binary64) (client : Reachability.HttpClient) (check : Reachability.HttpCheck)
  | fleet (check : Fleet.Aggregation)

/-- A check under the name of its probe, with seconds between its iterations and seconds for which
one is waited for. -/
structure ConfiguredProbe where
  name : String
  check : Check
  interval : Binary64
  timeout : Binary64

def ConfiguredProbe.toProbe? (probe : ConfiguredProbe) : Option Scheduler.Probe := do
  let interval ← probe.interval.toRat?
  let timeout ← probe.timeout.toRat?
  return { name := probe.name, interval := interval, timeout := some timeout }

def primaryName : String := "monitoring_cl_data"

def secondaryName : String := "monitoring_el_data"

def cacheName : String := "monitoring_redis"

def latestEpochName : String := "monitoring_api"

def dashboardName : String := "monitoring_app"

def fleetName : String := "monitoring_services"

def grace : Binary64 := .ofInt 5

def disabledLog (setting name : String) : LogEntry :=
  ⟨.info, s!"{setting} not set, {name} disabled"⟩

def unlessEmpty (value setting name : String) (probe : ConfiguredProbe) :
    List ConfiguredProbe × List LogEntry :=
  if value.isEmpty then ([], [disabledLog setting name]) else ([probe], [])

def primaryProbe (s : Settings) : List ConfiguredProbe × List LogEntry :=
  unlessEmpty s.primaryPath "primary_db_path" primaryName {
    name := primaryName
    check := .primary (Database.cleanPath s.primaryPath) s.storeTimeout { chain := s.chain }
    interval := s.probeInterval
    timeout := s.storeTimeout }

def secondaryProbe (s : Settings) : List ConfiguredProbe × List LogEntry :=
  unlessEmpty s.secondaryPath "secondary_db_path" secondaryName {
    name := secondaryName
    check := .secondary (Database.cleanPath s.secondaryPath) s.storeTimeout {}
    interval := s.probeInterval
    timeout := s.storeTimeout }

def cacheProbe (s : Settings) : Except Text.IntegerFault (List ConfiguredProbe × List LogEntry) :=
  if s.cacheEndpoint.isEmpty then .ok ([], [disabledLog "redis_cache_endpoint" cacheName])
  else (Reachability.CacheCheck.ofEndpoint s.cacheEndpoint (.real s.cacheTimeout)).map fun check =>
    ([{ name := cacheName
        check := .cache check
        interval := s.probeInterval
        timeout := s.cacheTimeout.add grace }], [])

def siteProbe (s : Settings) (name : String) (check : Reachability.HttpCheck) :
    ConfiguredProbe where
  name := name
  check := .http s.httpTimeout { followRedirects := true } check
  interval := s.probeInterval
  timeout := s.httpTimeout.add grace

def siteUrl (s : Settings) (path : String) : String := "https://" ++ s.siteDomain ++ path

def latestEpochProbe (s : Settings) : ConfiguredProbe :=
  siteProbe s latestEpochName
    { url := siteUrl s "/api/v1/epoch/latest", label := "api epoch / latest endpoint" }

def dashboardProbe (s : Settings) : ConfiguredProbe :=
  siteProbe s dashboardName {
    url := siteUrl s "/api/v1/app/dashboard"
    method := "POST"
    payload := .object [("indicesOrPubkey", .text "1,2")]
    label := "api app endpoint" }

def fleetProbe (s : Settings) (expected : List String) : ConfiguredProbe where
  name := fleetName
  check := .fleet { expected := expected }
  interval := s.probeInterval
  timeout := s.storeTimeout

/-- All probes, or why one cannot be set up; the logs up to there in either case. -/
def probesOf (s : Settings) (disk : Fleet.Disk) (load : Yaml.Loader) :
    Except Failure (List ConfiguredProbe) × List LogEntry :=
  let (primary, primaryLogs) := primaryProbe s
  let (secondary, secondaryLogs) := secondaryProbe s
  let logs := primaryLogs ++ secondaryLogs
  match cacheProbe s with
  | .error fault => (.error (.of .value fault.message), logs)
  | .ok (cache, cacheLogs) =>
    let (expected, fleetLogs) := Fleet.loadServices disk load (some s.servicesFile)
    (expected.map fun names =>
        primary ++ secondary ++ cache ++ [latestEpochProbe s, dashboardProbe s, fleetProbe s names],
      logs ++ cacheLogs ++ fleetLogs)

end Liveness.Monitor
