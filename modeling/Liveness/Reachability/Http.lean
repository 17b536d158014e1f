import Liveness.Failure
import Liveness.Json.Basic
import Liveness.Verdict

namespace Liveness.Reachability

structure Response where
  status : Int
deriving DecidableEq

structure HttpClient where
  followRedirects : Bool := false
  closed : Bool := false

/-- A client with the web around it in state `σ`: what comes of a request with a method, an address
and a payload, where null stands for none. -/
structure WebClient (σ : Type) where
  request : σ → String → String → Json → Except Failure Response × σ

structure HttpCheck where
  url : String
  method : String := "GET"
  payload : Json := .null
  label : String := "api"

/-- Faults of the HTTP client that are faults of its use, and not of the exchange. -/
def usageFaults : List String :=
  ["InvalidURL", "StreamError", "StreamConsumed", "StreamClosed", "ResponseNotRead",
   "RequestNotRead", "CookieConflict"]

namespace HttpCheck

def judge (check : HttpCheck) (answer : Except Failure Response) : Except Failure Verdict :=
  match answer with
  | .ok response =>
    if response.status = 200 then .ok .healthy
    else .ok (.error s!"{check.label} returned a non 200 status: {response.status}")
  | .error failure =>
    match failure.kind with
    | .http name =>
      if usageFaults.contains name then .error failure
      else .ok (.error s!"{check.label} request failed: {failure.headline}")
    | _ => .error failure

def run {σ : Type} (check : HttpCheck) (client : WebClient σ) (web : σ) :
    Except Failure Verdict × σ :=
  let (answer, web) := client.request web check.method check.url check.payload
  (check.judge answer, web)

end HttpCheck

end Liveness.Reachability
