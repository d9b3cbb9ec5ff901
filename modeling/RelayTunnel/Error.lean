import RelayTunnel.Duration
import RelayTunnel.Frame
import RelayTunnel.Text.Quoted
import RelayTunnel.Text.Utf8

/-!
# Errors of the relay

What can end a stream or keep it from opening. A breach of the protocol and a
misuse of the interface are recorded by their causes; the other errors carry the
wording of whoever reported them. `RelayError.message` is the text shown to a
user, `RelayError.describe` the form used inside descriptions of values.
-/

namespace RelayTunnel

/-- How the relay broke the protocol (`RelayError.ProtocolViolation`). -/
inductive Violation where
  /-- A message too short for a tag. -/
  | noTag (size : Nat)
  | noLengthField (kind : FrameKind)
  | overLimit (kind : FrameKind) (declared limit : Nat)
  | lengthMismatch (kind : FrameKind) (declared carried : Nat)
  | countSize (kind : FrameKind) (carried : Nat)
  | sidNotText (defect : Utf8.Defect)
  | sidTooLong (size : Nat)
  /-- An acknowledgement of bytes never sent, or one that goes back. -/
  | ackOutsideWindow (ack acked sent : UInt64)
  /-- A frame that has no place on an established session. -/
  | unexpected (kind : FrameKind)
  /-- A handshake answered by the wrong frame. -/
  | expected (wanted got : FrameKind)
  /-- Stated by the relay or by a connection. -/
  | reported (text : String)
  deriving DecidableEq, Repr

/-- The wording of a breach. -/
def Violation.message : Violation → String
  | noTag size => s!"frame of {size} bytes has no tag"
  | noLengthField kind => s!"{kind.name} frame is missing its length field"
  | overLimit kind declared limit =>
    s!"{kind.name} frame declares {declared} bytes, limit is {limit}"
  | lengthMismatch kind declared carried =>
    s!"{kind.name} frame declares {declared} bytes but carries {carried}"
  | countSize kind carried => s!"{kind.name} frame must carry 8 bytes, got {carried}"
  | sidNotText defect => s!"session id is not valid UTF-8: {defect.message}"
  | sidTooLong size => s!"session id of {size} bytes is too long"
  | ackOutsideWindow ack acked sent => s!"ack {ack} outside window [{acked}, {sent}]"
  | unexpected kind => s!"unexpected {kind.name} on established session"
  | expected wanted got => s!"expected {wanted.name}, got {got.name}"
  | reported text => text

/-- How the interface was misused (`RelayError.InvalidArgument`). -/
inductive Misuse where
  | payloadTooLong (size : Nat)
  /-- A close has no form on the wire. -/
  | closeNotEncodable
  | readBufferTooSmall (size : Nat)
  /-- Stated by another part. -/
  | reported (text : String)
  deriving DecidableEq, Repr

/-- The wording of a misuse. -/
def Misuse.message : Misuse → String
  | payloadTooLong size => s!"DATA payload of {size} bytes exceeds the {maxPayload} byte limit"
  | closeNotEncodable => "CLOSE is carried by the transport and has no frame encoding"
  | readBufferTooSmall size =>
    s!"read buffer of {size} bytes is smaller than the minimum of {maxPayload}"
  | reported text => text

/-- What can go wrong with a stream over the relay. -/
inductive RelayError where
  /-- The relay did not accept the connection. -/
  | connectFailed (detail : String)
  /-- The relay does not let this credential reach this target. -/
  | accessDenied (detail : String)
  /-- A handshake was not over in time. -/
  | connectTimeout (limit : Duration)
  /-- The connection was lost and the session could not be taken up again. -/
  | reconnectExhausted (attempts : Nat) (reason : String)
  | protocolViolation (cause : Violation)
  | invalidArgument (cause : Misuse)
  /-- The stream was closed on this side. -/
  | streamClosed
  /-- No token could be had. -/
  | credential (detail : String)
  /-- The connection failed. -/
  | transport (detail : String)
  deriving DecidableEq, Repr

namespace RelayError

/-- The wording of an error. -/
def message : RelayError → String
  | connectFailed detail => s!"failed to connect to relay: {detail}"
  | accessDenied detail => s!"access denied by relay: {detail}"
  | connectTimeout limit => s!"relay connection timed out after {limit.text}"
  | reconnectExhausted attempts reason =>
    s!"reconnect failed after {attempts} attempt(s): {reason}"
  | protocolViolation cause => s!"relay protocol violation: {cause.message}"
  | invalidArgument cause => s!"invalid argument: {cause.message}"
  | streamClosed => "stream closed"
  | credential detail => s!"credential unavailable: {detail}"
  | transport detail => s!"relay transport error: {detail}"

/-- Whether trying again may help (`RelayError.is_retryable`). -/
def isRetryable : RelayError → Bool
  | connectFailed _ | connectTimeout _ | transport _ | credential _ => true
  | _ => false

/-- The name of the kind of error. -/
def kindName : RelayError → String
  | connectFailed _ => "ConnectFailed"
  | accessDenied _ => "AccessDenied"
  | connectTimeout _ => "ConnectTimeout"
  | reconnectExhausted _ _ => "ReconnectExhausted"
  | protocolViolation _ => "ProtocolViolation"
  | invalidArgument _ => "InvalidArgument"
  | streamClosed => "StreamClosed"
  | credential _ => "Credential"
  | transport _ => "Transport"

/-- The error as a value: its kind and, in brackets, what it carries. -/
def describe (error : RelayError) : String :=
  match error with
  | connectFailed detail | accessDenied detail | credential detail | transport detail =>
    s!"{error.kindName}({Quoted.encode detail})"
  | connectTimeout limit => s!"{error.kindName}({limit.text})"
  | reconnectExhausted attempts reason =>
    error.kindName ++ " \x7b attempts: " ++ toString attempts ++
      ", reason: " ++ Quoted.encode reason ++ " \x7d"
  | protocolViolation cause => s!"{error.kindName}({Quoted.encode cause.message})"
  | invalidArgument cause => s!"{error.kindName}({Quoted.encode cause.message})"
  | streamClosed => error.kindName

end RelayError

/-- What ends the relaying of one local client. -/
inductive SessionError where
  | relay (error : RelayError)
  /-- The client's socket failed. -/
  | localSocket (detail : String)
  | cancelled
  deriving DecidableEq, Repr

/-- The wording of an error; one of the relay speaks for itself. -/
def SessionError.message : SessionError → String
  | relay error => error.message
  | localSocket detail => s!"local socket error: {detail}"
  | cancelled => "session cancelled"

/-- What ends a listener. -/
inductive ListenerError where
  | bind (address detail : String)
  | accept (detail : String)
  deriving DecidableEq, Repr

/-- The wording of an error of a listener. -/
def ListenerError.message : ListenerError → String
  | bind address detail => s!"failed to bind {address}: {detail}"
  | accept detail => s!"failed to accept connection: {detail}"

/-- What it means that another socket has the address of a listener. -/
def ListenerError.addressInUse (address : String) : ListenerError :=
  .bind address "Address already in use (os error 98)"

end RelayTunnel
