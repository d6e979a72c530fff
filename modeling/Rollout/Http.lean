import Rollout.Settings

/-!
# Requests over a network

A client sends requests to servers, directly or through a proxy (`HttpClient.exchange`). What
carries them, and who answers, is a `Network`: a function from everything that was sent so far to
the response, so that any way there and any servers with any memory are one.
-/

namespace Rollout

/-- A request to a server. -/
structure HttpRequest where
  method : String := "GET"
  url : Url
  headers : List (String × String) := []
  body : String := ""
  deriving Repr, DecidableEq

/-- The answer of a server. -/
structure HttpResponse where
  status : Nat
  body : String
  deriving Repr, DecidableEq

namespace HttpResponse

/-- Whether the server did what it was asked. -/
def isSuccess (r : HttpResponse) : Bool := 200 ≤ r.status && r.status < 300

/-- Whether the status is one of an error. -/
def isError (r : HttpResponse) : Bool := 400 ≤ r.status && r.status < 600

end HttpResponse

/-- A client for requests. -/
structure HttpClient where
  /-- The URL of the proxy, with the name and password that it is shown. -/
  proxy : Option Url := none
  deriving Repr, DecidableEq

/-- A request on its way. -/
structure SentRequest where
  client : HttpClient
  request : HttpRequest
  deriving Repr, DecidableEq

/-- What carries requests to servers and their responses back. -/
structure Network where
  /-- The response to the last one of the requests so far. There is none if the request cannot be
  carried, is lost, or has a response that cannot be read. -/
  response? : List SentRequest → Option HttpResponse := fun _ => none
  /-- The requests so far. -/
  asked : List SentRequest := []

namespace HttpClient

/-- The URL with name and password of a text, which the first colon separates. -/
def withAuth (u : Url) (auth : String) : Url :=
  let (username, password) := Url.userInfo auth.toList
  { u with username, password }

/-- The URL of a proxy. A text without a scheme, or without a host, is that of an `http` proxy. -/
def proxyUrl? (text : String) : Option Url :=
  let assumed := (Url.ofText? ("http://" ++ text)).filter Url.hasHost
  match Url.ofText? text with
  | some u => if u.hasHost then some u else assumed
  | none => if Url.hasScheme text then none else assumed

/-- The client that settings ask for. -/
def ofSettings (s : Settings) : Except Failure HttpClient :=
  match s.proxy.bind (·.urlText?) with
  | none => .ok {}
  | some text =>
    match proxyUrl? text with
    | none => .error .network
    | some u => .ok { proxy := some (((s.proxy.bind (·.auth)).map (withAuth u)).getD u) }

/-- Send a request and wait for the response. -/
def exchange (c : HttpClient) (r : HttpRequest) :
    StateM Network (Except Failure HttpResponse) := fun n =>
  let n := { n with asked := n.asked ++ [{ client := c, request := r }] }
  ((n.response? n.asked).elim (.error .network) .ok, n)

end HttpClient

end Rollout
