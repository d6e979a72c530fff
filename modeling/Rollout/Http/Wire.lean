import Rollout.Digest.Base64
import Rollout.Http
import Rollout.Text.Utf8

/-!
# Requests in the clear

One network of many: servers and proxies that speak in the clear and have no names, so that
encrypted requests are lost and of them only the opening of a tunnel shows (`Network.inTheClear`).
It is there to put scripted servers behind a client. Nothing else depends on how requests travel.
-/

namespace Rollout

/-- A request as it goes over the wire. -/
structure WireRequest where
  method : String
  /-- What is asked for: a path with its query, a whole URL, or host and port of a tunnel. -/
  target : String
  headers : List (String × String) := []
  body : String := ""
  deriving Repr, DecidableEq

/-- What comes back over the wire. -/
inductive Reply where
  | lost
  | answer (status : Nat) (body : String)
  deriving Repr, DecidableEq

/-- The response that a reply is, if it is one: a final status of three digits, with the body that
belongs to it, without a byte order mark. -/
def Reply.response? : Reply → Option HttpResponse
  | .lost => none
  | .answer status body =>
    if status < 100 || 1000 ≤ status then none
    else if status = 101 || status = 204 || status = 304 then some { status, body := "" }
    else if status < 200 then none
    else some { status, body := match body.toList with
      | '\ufeff' :: rest => String.ofList rest
      | _ => body }

namespace Url

/-- Whether a server can be spoken to: in the clear, and at an address that is known without looking
up a name. -/
def isOpen (u : Url) : Bool :=
  u.scheme = "http" && match u.host with
    | some (.domain name) => name = "localhost"
    | _ => true

/-- The longest URL that can be sent. -/
def maxLength : Nat := 65534

/-- Whether a server can be asked for a URL: it is not too long, and its host has no characters that
requests cannot hold. -/
def isSendable (u : Url) : Bool :=
  { u with username := "", password := "" }.toText.utf8ByteSize ≤ maxLength &&
    !u.hostAndPort.toList.any fun c => "\"\x60\x7b\x7d%".toList.contains c

end Url

/-- A proxy as it is spoken to. -/
structure Proxy where
  /-- Whether the proxy itself can be spoken to. -/
  isOpen : Bool := true
  /-- What the proxy is shown. -/
  authorization : Option String := none
  deriving Repr, DecidableEq

namespace Proxy

/-- The form in which name and password are shown. -/
def basic (name password : String) : String :=
  "Basic " ++ Digest.Base64.encode (name ++ ":" ++ password).toUTF8.toList

/-- The text that a part of a URL stands for. Bytes that are not UTF-8 are replaced. -/
def decoded (s : String) : String :=
  String.ofList (Text.ofDamagedUtf8 (Url.decodeBytes s.toList))

/-- The credentials in the URL of a proxy, if it has a name or a password. -/
def ofUserInfo? (u : Url) : Option String :=
  if u.username.isEmpty && u.password.isEmpty then none
  else some (basic (decoded u.username) (decoded u.password))

/-- The schemes of proxies that are spoken to like `http` ones, without credentials. -/
def plainSchemes : List String := ["socks4", "socks4a", "socks5", "socks5h"]

/-- The proxy at a URL. What has another scheme is no proxy, and neither is what cannot be sent. -/
def ofUrl? (u : Url) : Option Proxy :=
  if !u.isSendable then none
  else if u.scheme = "http" || u.scheme = "https" then
    some { isOpen := u.isOpen, authorization := ofUserInfo? u }
  else if plainSchemes.contains u.scheme then some { isOpen := { u with scheme := "http" }.isOpen }
  else none

/-- The header that shows the credentials. -/
def headers (p : Proxy) : List (String × String) :=
  p.authorization.toList.map fun a => ("proxy-authorization", a)

end Proxy

namespace SentRequest

/-- The headers as they arrive: blanks around a value do not belong to it. -/
def arriving (s : SentRequest) : List (String × String) :=
  s.request.headers.map fun h => (h.1, Text.trim h.2)

/-- A request in the clear, if it can be sent so. Without a proxy that can be used it goes to the
server directly. -/
def plain? (s : SentRequest) : Option WireRequest :=
  let { method, url, body, .. } := s.request
  match s.client.proxy.bind Proxy.ofUrl? with
  | none =>
    if url.isOpen then some { method, target := url.target, headers := s.arriving, body }
    else none
  | some p =>
    if p.isOpen && url.scheme = "http" then
      some { method, target := url.publicText, headers := s.arriving ++ p.headers, body }
    else none

/-- What a proxy is asked for before an encrypted request. -/
def tunnel? (s : SentRequest) : Option WireRequest :=
  match s.client.proxy.bind Proxy.ofUrl? with
  | some p =>
    let url := s.request.url
    if p.isOpen && url.scheme = "https" then
      some { method := "CONNECT", headers := p.headers,
             target := ((url.host.map Url.Host.toText).getD "") ++ ":" ++
               toString (url.port.getD 443) }
    else none
  | none => none

/-- What a request puts on the wire, if it can be sent. -/
def wire? (s : SentRequest) : Option WireRequest :=
  if s.request.url.isSendable then s.plain?.or s.tunnel? else none

end SentRequest

namespace Network

/-- What has gone over the wire. -/
def wires (n : Network) : List WireRequest := n.asked.filterMap SentRequest.wire?

/-- The network in which requests that can be sent get replies, given all that has gone over the
wire. What comes back through a tunnel is no response. -/
def inTheClear (reply : List WireRequest → Reply) : Network where
  response? asked := do
    let s ← asked.getLast?
    let _ ← s.wire?
    let response ← (reply (wires { asked })).response?
    if s.plain?.isSome then some response else none

/-- A request that can be sent goes over the wire exactly once, and any other one does not. -/
theorem wires_exchange (c : HttpClient) (r : HttpRequest) (n : Network) :
    (c.exchange r n).2.wires =
      n.wires ++ (SentRequest.wire? { client := c, request := r }).toList := by
  show (n.asked ++ [_]).filterMap SentRequest.wire? = _
  rw [List.filterMap_append]
  unfold wires
  cases h : SentRequest.wire? { client := c, request := r } <;> simp [h]

end Network

end Rollout
