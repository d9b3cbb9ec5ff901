import RelayTunnel.CloseCode
import RelayTunnel.Frame.Wire
import RelayTunnel.Request

/-!
# Connections to the relay and their handshakes

What a connection can bring, and how a new one begins: a token is asked for, the
connector is called with it, and the first frame with a meaning decides. It names
the session of a new stream, or says how many bytes of an old one the relay holds.
What comes behind it stays on the connection.

How a connection is listened to is left open: `Handshake.outcome?` looks at what has
come, and `Handshake.conclude` at all that comes in time.
-/

namespace RelayTunnel

/-- What a connection brings when it is listened to (`RelayChannel.receive`). -/
inductive Arrival where
  | message (bytes : Bytes)
  | close (code : UInt16) (reason : String)
  /-- The connection has ended without a close message. -/
  | ended
  | failed (error : RelayError)
  deriving DecidableEq, Repr

/-- Ask for a token and call the connector with the request for a URL; without a token
    there is no call (`RelayClient.connect_channel`). -/
def Endpoint.dial {m : Type → Type} [Monad m] {Connection : Type} (endpoint : Endpoint)
    (token : m (Except RelayError String))
    (connect : Request → m (Except RelayError Connection)) (url : Url) :
    m (Except RelayError Connection) := do
  match ← token with
  | .error e => return .error e
  | .ok token => connect (.authorized endpoint token url)

namespace Handshake

/-- The error that a close message means while a frame is awaited. It is never
    the end of a stream, which there is none yet. -/
def closeError (code : UInt16) (reason : String) : RelayError :=
  ((CloseDisposition.ofCode code).error? code reason).getD
    (.connectFailed s!"relay closed connection with code {code}")

/-- What an arrival means for a handshake: nothing yet, its frame, or its end
    (`await_frame`). -/
def weigh : Arrival → Option (Except RelayError Frame)
  | .message bytes =>
    match Wire.decode bytes with
    | .ok none => none
    | .ok (some frame) => some (.ok frame)
    | .error violation => some (.error (.protocolViolation violation))
  | .close code reason => some (.error (closeError code reason))
  | .ended => some (.error (.transport "relay connection ended during handshake"))
  | .failed error => some (.error error)

/-- What the first arrival with a meaning says, and the arrivals behind it; `none` while
    there is none (`await_frame`). -/
def firstFrame? : List Arrival → Option (Except RelayError Frame × List Arrival)
  | [] => none
  | arrival :: rest =>
    match weigh arrival with
    | none => firstFrame? rest
    | some decided => some (decided, rest)

/-- The name of the session that the relay opened. -/
def sid : Frame → Except RelayError String
  | .connectSuccess sid => .ok sid
  | other => .error (.protocolViolation (.expected .connectSuccess other.kind))

/-- How many bytes of the session the relay holds. -/
def count : Frame → Except RelayError UInt64
  | .reconnectSuccess count => .ok count
  | other => .error (.protocolViolation (.expected .reconnectSuccess other.kind))

/-- How a handshake ends, where `answer` takes from the frame what was asked for,
    and the arrivals that it leaves on the connection; `none` while it goes on. -/
def outcome? {α : Type} (answer : Frame → Except RelayError α) (arrivals : List Arrival) :
    Option (Except RelayError α × List Arrival) :=
  (firstFrame? arrivals).map fun (decided, rest) => (decided.bind answer, rest)

/-- What comes of listening to a connection that brings these arrivals in time: what was
    asked for and the arrivals that are left, or an error. -/
def conclude {α : Type} (limit : Duration) (answer : Frame → Except RelayError α)
    (arrivals : List Arrival) : Except RelayError (α × List Arrival) :=
  match outcome? answer arrivals with
  | none => .error (.connectTimeout limit)
  | some (result, rest) => result.map fun value => (value, rest)

end Handshake

namespace Endpoint

variable {m : Type → Type} [Monad m] {Connection α Result : Type} (endpoint : Endpoint)
  (token : m (Except RelayError String)) (connect : Request → m (Except RelayError Connection))

/-- Dial, and listen to the connection for what was asked for. -/
def establish
    (listen : (Frame → Except RelayError α) → Connection → m (Except RelayError Result))
    (answer : Frame → Except RelayError α) (url : Url) : m (Except RelayError Result) := do
  match ← endpoint.dial token connect url with
  | .error error => return .error error
  | .ok connection => listen answer connection

/-- Open a session to a target (`RelayClient.open`). -/
def openSession
    (listen : (Frame → Except RelayError String) → Connection → m (Except RelayError Result))
    (target : Target) : m (Except RelayError Result) :=
  endpoint.establish token connect listen Handshake.sid (endpoint.connectUrl target)

/-- Take a session to a target up again, `received` bytes having been received in it
    (`RelayClient.resume`). -/
def resumeSession
    (listen : (Frame → Except RelayError UInt64) → Connection → m (Except RelayError Result))
    (target : Target) (sid : String) (received : UInt64) : m (Except RelayError Result) :=
  endpoint.establish token connect listen Handshake.count
    (endpoint.reconnectUrl target sid received)

end Endpoint

end RelayTunnel
