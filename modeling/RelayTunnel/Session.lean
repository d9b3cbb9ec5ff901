import RelayTunnel.Error

/-!
# The bookkeeping of a relay session

A session outlives its connections. It counts the bytes that went each way and
keeps everything sent that the relay has not acknowledged, so that it can be sent
again on another connection. Counts are cumulative, modulo 2^64, and compared by
their distance from the acknowledged count.
-/

namespace RelayTunnel

/-- The counters and the replay buffer of a session (`RelaySession`). -/
structure Session where
  /-- The name that the relay gave the session. -/
  sid : String
  /-- Bytes sent. -/
  sent : UInt64 := 0
  /-- Bytes sent that the relay has acknowledged. -/
  acked : UInt64 := 0
  /-- Bytes received. -/
  received : UInt64 := 0
  /-- The count in the last acknowledgement taken for sending. -/
  reported : UInt64 := 0
  /-- The payloads sent and not acknowledged, oldest first. -/
  replay : List Bytes := []
  deriving DecidableEq, Repr

namespace Session

/-- The bytes sent and not acknowledged (`RelaySession.outstanding`). -/
def outstanding (s : Session) : UInt64 := s.sent - s.acked

/-- The bytes received that no acknowledgement has covered
    (`RelaySession.unacknowledged_received`). -/
def unreported (s : Session) : UInt64 := s.received - s.reported

/-- The number of bytes in the replay buffer (`RelaySession.replay_len`). -/
def replaySize (s : Session) : Nat := s.replay.flatten.length

/-- Record a payload that is about to be sent (`RelaySession.record_sent`). -/
def recordSent (s : Session) (payload : Bytes) : Session :=
  { s with
    sent := s.sent + UInt64.ofNat payload.length
    replay := s.replay ++ [payload] }

/-- Drop `count` bytes from the front. A payload is dropped when all its bytes
    are; an empty one stays until bytes behind it are dropped. -/
def release : Nat → List Bytes → List Bytes
  | 0, payloads => payloads
  | _ + 1, [] => []
  | count + 1, payload :: payloads =>
    if payload.length ≤ count + 1 then
      release (count + 1 - payload.length) payloads
    else
      payload.drop (count + 1) :: payloads

/-- Apply the relay's count of the bytes it has received (`RelaySession.acknowledge`). A
    count that goes back, or beyond what was sent, is a breach of the protocol. -/
def acknowledge (s : Session) (count : UInt64) : Except Violation Session :=
  let advance := count - s.acked
  if s.outstanding < advance then
    .error (.ackOutsideWindow count s.acked s.sent)
  else
    .ok { s with acked := count, replay := release advance.toNat s.replay }

/-- Count bytes received (`RelaySession.record_received`). -/
def recordReceived (s : Session) (count : Nat) : Session :=
  { s with received := s.received + UInt64.ofNat count }

/-- Take everything received so far as acknowledged; `reported` of the result is the
    count to send (`RelaySession.take_ack`). -/
def takeAck (s : Session) : Session := { s with reported := s.received }

end Session

end RelayTunnel
