import RelayTunnel.Error
import RelayTunnel.Request
import RelayTunnel.WebSocket.RequestTarget
import RelayTunnel.WebSocket.Status

/-!
# Upgrade requests

The HTTP request that asks a server to speak WebSocket on a connection, made of a
request for a connection to the relay, and what becomes of it. The key that each
such request carries is drawn when it is sent.
-/

namespace RelayTunnel

/-- A request to upgrade a connection. -/
structure Upgrade where
  url : Url
  /-- The headers, their names in lower case. -/
  headers : List (String × String)
  deriving DecidableEq, Repr

namespace Upgrade

/-- Whether a character may stand in the name of a header. -/
def isNameChar (c : Char) : Bool := c.isAlphanum || "!#$%&'*+-.^_\x60|~".toList.contains c

/-- How long the name of a header may be. -/
def maxNameLength : Nat := 65535

/-- Whether a text can be the name of a header. -/
def isHeaderName (name : String) : Bool :=
  !name.isEmpty && name.utf8ByteSize ≤ maxNameLength && name.toList.all isNameChar

/-- Whether a character may stand in the value of a header: no control but the
    tab. -/
def isValueChar (c : Char) : Bool := c == '\t' || 0x20 ≤ c.toNat && c.toNat ≠ 0x7F

/-- Whether a text can be the value of a header. -/
def isHeaderValue (value : String) : Bool := value.toList.all isValueChar

/-- The headers with a value for a name, in the place of values it had. -/
def insertHeader (headers : List (String × String)) (name value : String) :
    List (String × String) :=
  headers.filter (·.1 ≠ name) ++ [(name, value)]

/-- A misuse of the connector. -/
def misuse (text : String) : RelayError := .invalidArgument (.reported text)

/-- Add a header of a request. -/
def addHeader (headers : List (String × String)) (header : String × String) :
    Except RelayError (List (String × String)) :=
  let name := header.1.toLower
  if !isHeaderName header.1 then
    .error (misuse s!"invalid header name {header.1}: invalid HTTP header name")
  else if isHeaderValue header.2 then .ok (insertHeader headers name header.2)
  else .error (misuse s!"invalid value for header {name}: failed to parse header value")

/-- Add the subprotocol. -/
def addSubprotocol (headers : List (String × String)) (subprotocol : String) :
    Except RelayError (List (String × String)) :=
  if isHeaderValue subprotocol then
    .ok (insertHeader headers "sec-websocket-protocol" subprotocol)
  else
    .error (misuse "invalid subprotocol: failed to parse header value")

/-- The host in an authority. -/
def hostOf (authority : String) : String :=
  if authority.contains '@' then
    String.ofList ((authority.toList.dropWhile (· ≠ '@')).drop 1)
  else
    authority

/-- The headers that every upgrade request begins with. -/
def standardHeaders (authority : String) : List (String × String) :=
  [ ("host", hostOf authority), ("connection", "Upgrade"), ("upgrade", "websocket"),
    ("sec-websocket-version", "13") ]

/-- The upgrade request for a request (`WebSocketConnector.connect`). -/
def ofRequest (request : Request) : Except RelayError Upgrade := do
  match RequestTarget.authority request.url with
  | .error defect =>
    .error (misuse s!"invalid relay request: HTTP format error: {defect.message}")
  | .ok authority =>
    let headers ← request.headers.foldlM addHeader (standardHeaders authority)
    let headers ← match request.subprotocol with
      | some subprotocol => addSubprotocol headers subprotocol
      | none => .ok headers
    return { url := request.url, headers }

/-- What it means that the server answers with a status other than the upgrade
    (`WebSocketConnector.connect`). -/
def refusal (status : Nat) : RelayError :=
  let detail := s!"relay responded with HTTP {Status.text status}"
  if status = 401 || status = 403 then .accessDenied detail else .connectFailed detail

/-- What it means that there is no way to the server. -/
def unreachable : RelayError :=
  .connectFailed "IO error: Network is unreachable (os error 101)"

/-- Whether a request gets as far as the server, where `network` says whether
    there is a way to it. -/
def route (network : Bool) (request : Request) : Except RelayError Unit := do
  discard (ofRequest request)
  if network then return () else .error unreachable

end Upgrade

end RelayTunnel
