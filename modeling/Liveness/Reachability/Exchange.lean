import Liveness.Json.Printer
import Liveness.Reachability.Http
import Liveness.Reachability.Url

/-!
A client that sends requests to a server and may follow redirects, at most twenty for one request.
It stands in for the web in runs without a network.
-/

namespace Liveness.Reachability

structure Request where
  method : String
  url : Url
  body : String := ""
  contentType : Option String := none
deriving DecidableEq

structure Reply where
  status : Int
  location : Option String := none
deriving DecidableEq

structure Server (σ : Type) where
  reply : σ → Request → Except Failure Reply × σ

structure Exchange (σ : Type) where
  result : Except Failure Reply
  requests : List Request
  server : σ

mutual

def hasOddFloat : Json → Bool
  | .float x => x.toRatio?.isNone
  | .array items => anyOddFloat items
  | .object members => anyMemberOdd members
  | _ => false

def anyOddFloat : List Json → Bool
  | [] => false
  | item :: rest => hasOddFloat item || anyOddFloat rest

def anyMemberOdd : List (String × Json) → Bool
  | [] => false
  | (_, value) :: rest => hasOddFloat value || anyMemberOdd rest

end

namespace Request

/-- Redirects keep the method, but for those that ask to fetch the new place instead. -/
def redirectMethod (status : Int) (method : String) : String :=
  if (status = 303 ∨ status = 302) ∧ method ≠ "HEAD" then "GET"
  else if status = 301 ∧ method = "POST" then "GET"
  else method

def redirectUrl (request : Request) (location : String) : Except Failure Url :=
  match Url.parse location with
  | .error fault =>
    .error (.of (.http "RemoteProtocolError") s!"Invalid URL in location header: {fault.message}.")
  | .ok url =>
    let url := if ¬ url.scheme.isEmpty ∧ url.host.isEmpty then
      { url with host := request.url.host } else url
    let url := if url.isAbsolute then url else request.url.join url
    let fragment := request.url.fragment.filter fun f => ¬ f.isEmpty
    .ok (if fragment.isSome ∧ (url.fragment.getD "").isEmpty then
      { url with fragment := fragment } else url)

def redirected (request : Request) (status : Int) (location : String) :
    Except Failure Request := do
  let url ← request.redirectUrl location
  let method := redirectMethod status request.method
  return { request with
    method := method
    url := url
    body := if method ≠ request.method ∧ method = "GET" then "" else request.body }

end Request

def redirectStatuses : List Int := [301, 302, 303, 307, 308]

def redirectLimit : Nat := 20

variable {σ : Type}

/-- Sends a request and those that redirects ask for, as long as `left` allows. -/
def HttpClient.exchange (client : HttpClient) (server : Server σ) :
    Nat → σ → Request → Exchange σ
  | 0, state, _ =>
    ⟨.error (.of (.http "TooManyRedirects") "Exceeded maximum allowed redirects."), [], state⟩
  | left + 1, state, request =>
    let (answer, state) := server.reply state request
    match answer with
    | .error failure => ⟨.error failure, [request], state⟩
    | .ok response =>
      match response.location with
      | none => ⟨.ok response, [request], state⟩
      | some location =>
        if redirectStatuses.contains response.status then
          match request.redirected response.status location with
          | .error failure => ⟨.error failure, [request], state⟩
          | .ok next =>
            if client.followRedirects then
              let outcome := exchange client server left state next
              { outcome with requests := request :: outcome.requests }
            else ⟨.ok response, [request], state⟩
        else ⟨.ok response, [request], state⟩

def HttpClient.send (client : HttpClient) (server : Server σ) (state : σ) (method url : String)
    (payload : Json) : Exchange σ :=
  match Url.parse url with
  | .error fault => ⟨.error (.of (.http "InvalidURL") fault.message), [], state⟩
  | .ok url =>
    let url := if url.isAbsolute then url else
      { path := "/" ++ String.ofList (url.path.toList.dropWhile (· = '/')), query := url.query }
    if hasOddFloat payload then
      ⟨.error (.of .value "Out of range float values are not JSON compliant"), [], state⟩
    else if client.closed then
      ⟨.error (.of .runtime "Cannot send a request, as the client has been closed."), [], state⟩
    else
      let request : Request := match payload with
        | .null => { method := method.toUpper, url := url }
        | value => {
            method := method.toUpper
            url := url
            body := value.render Json.Style.compact
            contentType := some "application/json" }
      client.exchange server (redirectLimit + 1) state request

def HttpClient.over (client : HttpClient) (server : Server σ) : WebClient (List Request × σ) where
  request web method url payload :=
    let outcome := client.send server web.2 method url payload
    (outcome.result.map fun reply => ⟨reply.status⟩, (web.1 ++ outcome.requests, outcome.server))

end Liveness.Reachability
