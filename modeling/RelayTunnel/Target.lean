import RelayTunnel.Error
import RelayTunnel.Url

/-!
# Targets and the relay's endpoint

A target is a port of a machine in the cloud; the endpoint is the address of the
relay that leads there. Every request to the relay names what it is about in the
query of its URL.
-/

namespace RelayTunnel

/-- The interface of a machine where none is given (`DEFAULT_NETWORK_INTERFACE`). -/
def Target.standardInterface : String := "nic0"

/-- A port of a virtual machine (`Target`, `InstanceLocator`). -/
structure Target where
  project : String
  zone : String
  instanceName : String
  port : UInt16
  networkInterface : String := Target.standardInterface
  deriving DecidableEq, Repr

namespace Target

/-- The path of the machine. -/
def instanceText (t : Target) : String :=
  s!"projects/{t.project}/zones/{t.zone}/instances/{t.instanceName}"

/-- The text of a target. -/
def text (t : Target) : String := s!"{t.instanceText}:{t.port} ({t.networkInterface})"

end Target

/-- The address of a relay and how a client presents itself there (`RelayEndpoint`). -/
structure Endpoint where
  base : Url
  userAgent : String
  deriving DecidableEq, Repr

namespace Endpoint

/-- The origin that every client of the relay gives (`RELAY_ORIGIN`). -/
def origin : String := "bot:iap-tunneler"

/-- The address of the relay where none is given (`DEFAULT_RELAY_ENDPOINT`). -/
def standardBase : String := "wss://tunnel.cloudproxy.app/v4"

/-- The name of this client where none is given. -/
def standardUserAgent : String := "iaptunnel/0.1.0"

/-- The endpoint at a URL, which has to be one of a WebSocket (`RelayEndpoint.new`). -/
def parse (base userAgent : String) : Except RelayError Endpoint :=
  match Url.parse base with
  | .error reason =>
    .error (.invalidArgument (.reported s!"invalid relay endpoint {base}: {reason.message}"))
  | .ok url =>
    if url.scheme = "ws" || url.scheme = "wss" then .ok ⟨url, userAgent⟩
    else
      .error (.invalidArgument
        (.reported s!"relay endpoint must use ws or wss, not {url.scheme}"))

/-- The segments of a path without empty ones at its end. -/
def trimSegments (segments : List String) : List String :=
  (segments.reverse.dropWhile (· = "")).reverse

/-- The URL of an action of the relay: its name follows the path of the base, and
    `pairs` take the place of any query (`RelayEndpoint.endpoint_url`). -/
def actionUrl (e : Endpoint) (action : String) (pairs : List (String × String)) : Url :=
  { e.base with
    path :=
      match e.base.path with
      | .segments list => .segments (trimSegments list ++ [action])
      | .rootless text => .rootless text
    query := some (String.ofList (Form.query pairs)) }

/-- What the request for a new session says. -/
def connectPairs (t : Target) : List (String × String) :=
  [ ("project", t.project), ("port", toString t.port), ("newWebsocket", "true"),
    ("zone", t.zone), ("instance", t.instanceName), ("interface", t.networkInterface) ]

/-- What the request to take a session up again says, `count` bytes having been
    received in it. -/
def reconnectPairs (t : Target) (sid : String) (count : UInt64) : List (String × String) :=
  [ ("sid", sid), ("ack", toString count), ("newWebsocket", "true"), ("zone", t.zone) ]

/-- The URL that asks for a new session (`RelayEndpoint.connect_url`). -/
def connectUrl (e : Endpoint) (t : Target) : Url := e.actionUrl "connect" (connectPairs t)

/-- The URL that asks to take a session up again (`RelayEndpoint.reconnect_url`). -/
def reconnectUrl (e : Endpoint) (t : Target) (sid : String) (count : UInt64) : Url :=
  e.actionUrl "reconnect" (reconnectPairs t sid count)

end Endpoint

end RelayTunnel
