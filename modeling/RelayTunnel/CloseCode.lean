import RelayTunnel.Error

/-!
# Close codes

What the code of a close message means for the stream that gets it.
-/

namespace RelayTunnel

/-- The meaning of a close code. -/
inductive CloseDisposition where
  /-- The stream has ended; readers see its end. -/
  | orderly
  /-- The connection is lost, the session may be taken up again. -/
  | reconnect
  /-- The relay could not reach the target. -/
  | connectFailed
  | accessDenied
  /-- The session can no longer be used. -/
  | sessionLost
  | protocolViolation
  deriving DecidableEq, Repr

/-- The code of an ordinary end (`CLOSE_NORMAL`). -/
def closeNormal : UInt16 := 1000

/-- The code that stands for a close message without one (`CLOSE_NO_STATUS`). -/
def closeNoStatus : UInt16 := 1005

/-- The code that tells the relay of a breach of the protocol (`CLOSE_INVALID_DATA`). -/
def closeInvalidData : UInt16 := 4013

namespace CloseDisposition

/-- The meaning of a code (`CloseDisposition.from_code`). A code without a meaning of
    its own costs the connection, not the session. -/
def ofCode (code : UInt16) : CloseDisposition :=
  if code ∈ [1000, 4009, 4010] then .orderly
  else if code ∈ [4003, 4047, 4051] then .connectFailed
  else if code = 4033 then .accessDenied
  else if code ∈ [4001, 4002] then .sessionLost
  else if code ∈ [4005, 4006, 4007, 4008, 4013] then .protocolViolation
  else .reconnect

/-- The error that a close of this meaning stands for, if it is one
    (`CloseDisposition.into_error`). -/
def error? (disposition : CloseDisposition) (code : UInt16) (reason : String) :
    Option RelayError :=
  let detail := if reason.isEmpty then s!"close code {code}" else s!"close code {code}: {reason}"
  match disposition with
  | orderly | reconnect => none
  | connectFailed => some (.connectFailed detail)
  | accessDenied => some (.accessDenied detail)
  | sessionLost => some (.reconnectExhausted 0 detail)
  | protocolViolation => some (.protocolViolation (.reported detail))

/-- The name of the meaning. -/
def name : CloseDisposition → String
  | orderly => "Orderly"
  | reconnect => "Reconnect"
  | connectFailed => "ConnectFailed"
  | accessDenied => "AccessDenied"
  | sessionLost => "SessionLost"
  | protocolViolation => "ProtocolViolation"

end CloseDisposition

end RelayTunnel
