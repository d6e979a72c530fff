import Rollout.Event
import Rollout.Http

/-!
# Downloads of payloads

A fetcher asks a server for the payload of an SDK key. If that fails it asks another one, if there
is one. A server that does not know the key is never asked again (`Fetcher.isUnauthorized`).
-/

namespace Rollout

/-- A client of the servers that payloads come from. -/
structure Fetcher where
  client : HttpClient
  sdkKey : String
  base : Url
  /-- Whom to ask if the base fails. -/
  fallback : Option Url := none
  headers : List (String × String)
  /-- Whether a server has refused the key. -/
  isUnauthorized : Bool := false
  deriving Repr, DecidableEq

namespace Fetcher

/-- The fetcher that settings ask for. The default server is the fallback of every other one, if
there shall be one. -/
def ofSettings (sdkKey : String) (s : Settings) : Except Failure Fetcher := do
  let base ← Settings.url s.specsUrl Settings.defaultSpecsUrl
  let default ← Settings.url none Settings.defaultSpecsUrl
  let client ← HttpClient.ofSettings s
  return {
    client, sdkKey, base
    fallback := if s.fallBack && base ≠ default then some default else none
    headers := Reporter.this.headers sdkKey }

/-- The URL of the payload of an SDK key, or of the changes since a time. -/
def payloadUrl? (base : Url) (sdkKey : String) (since : Option Nat) : Option Url :=
  let text := (base.toText.toList.reverse.dropWhile (· == '/')).reverse
  (Url.ofText? (String.ofList text ++ "/" ++ sdkKey ++ ".json")).map fun url =>
    match since with
    | some time => url.withPair "sinceTime" (toString time)
    | none => url

/-- What a response to a request for a payload means. -/
def payloadOf (r : HttpResponse) : Except Failure String :=
  if r.status = 401 then .error .unauthorized
  else if r.isError then .error (.unexpectedStatus r.status)
  else .ok r.body

/-- Ask one server. -/
def fetchFrom (f : Fetcher) (base : Url) (since : Option Nat) :
    StateM Network (Except Failure String) := do
  match payloadUrl? base f.sdkKey since with
  | none => return .error .invalidUrl
  | some url => return (← f.client.exchange { url, headers := f.headers }).bind payloadOf

/-- Whether a result refuses the key. -/
def refuses : Except Failure String → Bool
  | .error .unauthorized => true
  | _ => false

/-- Ask for the payload, or for the changes since a time. The fallback is asked when the base
fails, unless the base refuses the key. -/
def fetch (f : Fetcher) (since : Option Nat) :
    StateM Network (Except Failure String × Fetcher) := do
  if f.isUnauthorized then return (.error .unauthorized, f)
  else
    let first ← f.fetchFrom f.base since
    let result ← match first, f.fallback with
      | .ok _, _ | .error .unauthorized, _ | _, none => pure first
      | .error _, some fallback => f.fetchFrom fallback since
    return (result, { f with isUnauthorized := refuses result })

end Fetcher

end Rollout
