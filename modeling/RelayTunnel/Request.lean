import RelayTunnel.Target

/-!
# Requests for connections

What a client hands to a connector: a URL, headers in their order, and the
subprotocol it wants to speak.
-/

namespace RelayTunnel

/-- A request for a connection to the relay (`RelayRequest`). -/
structure Request where
  url : Url
  headers : List (String × String) := []
  subprotocol : Option String := none
  deriving DecidableEq, Repr

namespace Request

/-- The subprotocol of the relay (`RELAY_SUBPROTOCOL`). -/
def relaySubprotocol : String := "relay.tunnel.cloudproxy.app"

/-- The request that a client of the endpoint makes with a token
    (`RelayClient.connect_channel`). -/
def authorized (endpoint : Endpoint) (token : String) (url : Url) : Request :=
  { url
    headers :=
      [("Authorization", s!"Bearer {token}"), ("Origin", Endpoint.origin),
        ("User-Agent", endpoint.userAgent)]
    subprotocol := some relaySubprotocol }

/-- Whether two names are the same but for the case of ASCII letters. -/
def sameName (a b : String) : Bool := a.toLower == b.toLower

/-- The value of the first header of that name, in any case (`RelayRequest.header`). -/
def header? (r : Request) (name : String) : Option String :=
  (r.headers.find? fun header => sameName header.1 name).map (·.2)

/-- The value of the first pair of that name in the query
    (`RelayRequest.query_param`). -/
def queryParam? (r : Request) (name : String) : Option String :=
  (r.url.queryPairs.find? fun pair => pair.1 = name).map (·.2)

end Request

end RelayTunnel
