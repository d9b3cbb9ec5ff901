import RelayTunnel.Bytes

/-!
# Frames of the relay protocol

The units that travel between a client and the relay. Four kinds have a form on
the wire, told apart by a tag; a close is carried by the connection itself.
-/

namespace RelayTunnel

/-- The kinds of frames. -/
inductive FrameKind where
  | connectSuccess
  | reconnectSuccess
  | data
  | ack
  | close
  deriving DecidableEq, Repr

namespace FrameKind

/-- The name of the kind in messages (`Frame.name`). -/
def name : FrameKind → String
  | connectSuccess => "CONNECT_SUCCESS_SID"
  | reconnectSuccess => "RECONNECT_SUCCESS_ACK"
  | data => "DATA"
  | ack => "ACK"
  | close => "CLOSE"

/-- The tag that opens a frame of the kind on the wire (`Frame.tag`). -/
def tag : FrameKind → Option Nat
  | connectSuccess => some 0x0001
  | reconnectSuccess => some 0x0002
  | data => some 0x0004
  | ack => some 0x0007
  | close => none

/-- The kind that a tag announces. -/
def ofTag? (tag : Nat) : Option FrameKind :=
  if tag = 0x0001 then some connectSuccess
  else if tag = 0x0002 then some reconnectSuccess
  else if tag = 0x0004 then some data
  else if tag = 0x0007 then some ack
  else none

end FrameKind

/-- A unit of the relay protocol. -/
inductive Frame where
  /-- The relay has reached the target and names the session. -/
  | connectSuccess (sid : String)
  /-- The relay has taken the session up again and holds `count` of our bytes. -/
  | reconnectSuccess (count : UInt64)
  /-- Bytes of the relayed stream. -/
  | data (payload : Bytes)
  /-- How many bytes the sender of the frame has received in the session. -/
  | ack (count : UInt64)
  /-- The end of the connection. -/
  | close (code : UInt16) (reason : String)
  deriving DecidableEq, Repr

/-- The kind of a frame. -/
def Frame.kind : Frame → FrameKind
  | connectSuccess _ => .connectSuccess
  | reconnectSuccess _ => .reconnectSuccess
  | data _ => .data
  | ack _ => .ack
  | close _ _ => .close

/-- The most bytes that one DATA frame carries (`MAX_DATA_LEN`). -/
def maxPayload : Nat := 16384

/-- The most bytes that the name of a session takes (`MAX_SID_LEN`). -/
def maxSid : Nat := 1024

end RelayTunnel
