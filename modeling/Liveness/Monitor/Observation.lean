import Liveness.Explorer.Stores
import Liveness.Monitor.Basic

namespace Liveness.Monitor

open Freshness (Clock)
open Reachability (CacheCall HttpClient WebClient)

structure Surroundings (σ : Type) where
  clock : Clock
  files : Database.Files
  ping : Except Failure Bool
  browse : HttpClient → WebClient σ
  web : σ
  store : Store.StatusStore

structure Observation where
  verdict : Except Failure Verdict
  cacheCalls : List CacheCall := []
  logs : List LogEntry := []

variable {σ : Type}

def Check.observe (check : Check) (around : Surroundings σ) : Observation × Surroundings σ :=
  match check with
  | .primary path _ check =>
    let outcome := check.run (Explorer.primaryReadings around.files path) around.clock
    ({ verdict := outcome.verdict }, { around with clock := outcome.clock })
  | .secondary path _ check =>
    let outcome := check.run (Explorer.secondaryReadings around.files path) around.clock
    ({ verdict := outcome.verdict }, { around with clock := outcome.clock })
  | .cache check =>
    let (verdict, calls) := check.run around.ping
    ({ verdict := verdict, cacheCalls := calls }, around)
  | .http _ client check =>
    let (verdict, web) := check.run (around.browse client) around.web
    ({ verdict := verdict }, { around with web := web })
  | .fleet check =>
    let (now, clock) := around.clock.read
    let (verdict, logs, store) := check.run Fleet.StatusSource.table around.store now
    ({ verdict := .ok verdict, logs := logs }, { around with clock := clock, store := store })

def observeAll (around : Surroundings σ) :
    List ConfiguredProbe → List (String × Observation) × Surroundings σ
  | [] => ([], around)
  | probe :: rest =>
    let (observation, around) := probe.check.observe around
    let (observations, around) := observeAll around rest
    ((probe.name, observation) :: observations, around)

end Liveness.Monitor
