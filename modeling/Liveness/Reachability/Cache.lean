import Liveness.Failure
import Liveness.Numeric.Number
import Liveness.Text.Integer
import Liveness.Verdict

namespace Liveness.Reachability

open Numeric (Number)

def defaultCachePort : Int := 6379

def splitLast? (mark : Char) (text : List Char) : Option (List Char × List Char) :=
  let reversed := text.reverse
  match reversed.dropWhile (· ≠ mark) with
  | [] => none
  | _ :: before => some (before.reverse, (reversed.takeWhile (· ≠ mark)).reverse)

def isBracket (c : Char) : Bool := c = '[' ∨ c = ']'

def parseEndpoint (endpoint : String) : Except Text.IntegerFault (String × Int) :=
  match splitLast? ':' endpoint.toList with
  | none => .ok (endpoint, defaultCachePort)
  | some (host, port) => do
    let number ← Text.readInteger (String.ofList port)
    return (String.ofList (Text.trimBoth isBracket host), number)

structure CacheCheck where
  host : String
  port : Int
  timeout : Number := .whole 30

inductive CacheCall where
  | connect (host : String) (port : Int) (timeout : Number)
  | ping
  | close
deriving DecidableEq

namespace CacheCheck

def ofEndpoint (endpoint : String) (timeout : Number) : Except Text.IntegerFault CacheCheck :=
  (parseEndpoint endpoint).map fun (host, port) => ⟨host, port, timeout⟩

def calls (check : CacheCheck) : List CacheCall :=
  [.connect check.host check.port check.timeout, .ping, .close]

/-- The verdict on the answer to a ping. Only failures of the cache client become verdicts. -/
def judge (answer : Except Failure Bool) : Except Failure Verdict :=
  match answer with
  | .ok true => .ok .healthy
  | .ok false => .ok (.error "cache ping returned no PONG")
  | .error failure =>
    match failure.kind with
    | .cache _ => .ok (.error ("cache ping failed: " ++ failure.text))
    | _ => .error failure

/-- A check against a cache that answers a ping in the given way; the connection is closed
whatever the answer. -/
def run (check : CacheCheck) (answer : Except Failure Bool) :
    Except Failure Verdict × List CacheCall :=
  (judge answer, check.calls)

end CacheCheck

end Liveness.Reachability
