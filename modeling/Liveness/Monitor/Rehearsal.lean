import Liveness.Monitor.Observation
import Liveness.Reachability.Exchange
import Liveness.Scheduler.Lane

/-!
A rehearsal: configured probes in surroundings that stay as they are. Every check takes no time and
finds what it would find at the start, so a session can be played through without a network.
-/

namespace Liveness.Monitor

open Scheduler (Lane)

structure Scene where
  origin : Time.Instant := default
  interrupt : Rat := 0
  ping : Bool := false
  statuses : List (String × Int) := []

namespace Scene

def unreachable : Failure := .of (.http "ConnectError") "All connection attempts failed"

def server (scene : Scene) : Reachability.Server Unit where
  reply _ request :=
    match scene.statuses.lookup request.url.toText with
    | some status => (.ok { status := status }, ())
    | none => (.error unreachable, ())

def surroundings (scene : Scene) : Surroundings (List Reachability.Request × Unit) where
  clock := ⟨.ofInstant scene.origin, []⟩
  files := .holding []
  ping := .ok scene.ping
  browse client := client.over scene.server
  web := ([], ())
  store := {}

/-- A probe whose checks all find the same. Times that are not finite cannot be scheduled. -/
def lane? (scene : Scene) (probe : ConfiguredProbe) : Option Lane :=
  probe.toProbe?.map fun scheduled =>
    { probe := scheduled
      script := {
        check := fun _ =>
          { outcome := (probe.check.observe scene.surroundings).1.verdict } } }

def whole? (json : Json) (name : String) : Option Int :=
  match json.get? name with
  | some (.integer n) => some n
  | _ => none

def ofJson (json : Json) : Scene :=
  let usual : Scene := {}
  { origin := ((whole? json "now").bind fun n => Time.Instant.ofMicros? (n * 1000000)).getD
      usual.origin
    interrupt := ((whole? json "interrupt").map fun n => (n : Rat)).getD usual.interrupt
    ping := json.get? "ping" matches some (.bool true)
    statuses := match json.get? "web" with
      | some (.object members) => members.filterMap fun (url, status) =>
        match status with
        | .integer n => some (url, n)
        | _ => none
      | _ => usual.statuses }

end Scene

end Liveness.Monitor
