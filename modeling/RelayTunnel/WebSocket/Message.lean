import RelayTunnel.CloseCode
import RelayTunnel.Handshake

/-!
# WebSocket messages

What the messages of a WebSocket mean on a connection to the relay.
-/

namespace RelayTunnel

/-- A message that a WebSocket brings. -/
inductive SocketMessage where
  | binary (bytes : Bytes)
  | text (text : String)
  | ping (bytes : Bytes)
  | pong (bytes : Bytes)
  /-- A close message, with a code and a reason or without. -/
  | close (frame : Option (UInt16 × String))
  deriving DecidableEq, Repr

/-- The arrival that a message is (`WebSocketChannel.receive`). Texts and what keeps the
    WebSocket alive are none, and a close message without a code counts as one with the
    code for that. -/
def SocketMessage.arrival? : SocketMessage → Option Arrival
  | binary bytes => some (.message bytes)
  | close (some (code, reason)) => some (.close code reason)
  | close none => some (.close closeNoStatus "")
  | text _ | ping _ | pong _ => none

end RelayTunnel
