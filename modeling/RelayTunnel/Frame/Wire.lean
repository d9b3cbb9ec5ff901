import RelayTunnel.Error

/-!
# The wire form of frames

A message is a two-byte tag and a body, all integers big-endian. The body of
CONNECT_SUCCESS_SID and DATA is a four-byte length and exactly that many bytes;
the body of RECONNECT_SUCCESS_ACK and ACK is an eight-byte count. A message with
another tag is of no concern to this client.
-/

namespace RelayTunnel

namespace Wire

/-- A body that declares its own length (`encode_with_length`). -/
def prefixed (payload : Bytes) : Bytes :=
  BigEndian.encode 4 payload.length ++ payload

/-- The message of a frame kind around a body. -/
def message (tag : Nat) (body : Bytes) : Bytes := BigEndian.encode 2 tag ++ body

/-- The message of a frame (`encode`). -/
def encode : Frame → Except RelayError Bytes
  | .connectSuccess sid =>
    let name := Utf8.encode sid
    if maxSid < name.length then
      .error (.protocolViolation (.sidTooLong name.length))
    else
      .ok (message 0x0001 (prefixed name))
  | .reconnectSuccess count => .ok (message 0x0002 (BigEndian.encode 8 count.toNat))
  | .data payload =>
    if maxPayload < payload.length then
      .error (.invalidArgument (.payloadTooLong payload.length))
    else
      .ok (message 0x0004 (prefixed payload))
  | .ack count => .ok (message 0x0007 (BigEndian.encode 8 count.toNat))
  | .close _ _ => .error (.invalidArgument .closeNotEncodable)

/-- The bytes behind a length field, which has to count all of them and stay within
    `limit` (`read_length_prefixed`). -/
def readPrefixed (kind : FrameKind) (limit : Nat) (body : Bytes) : Except Violation Bytes :=
  if body.length < 4 then
    .error (.noLengthField kind)
  else
    let declared := BigEndian.decode (body.take 4)
    let carried := body.drop 4
    if limit < declared then
      .error (.overLimit kind declared limit)
    else if carried.length ≠ declared then
      .error (.lengthMismatch kind declared carried.length)
    else
      .ok carried

/-- The count that a body of eight bytes holds (`read_ack`). -/
def readCount (kind : FrameKind) (body : Bytes) : Except Violation UInt64 :=
  if body.length ≠ 8 then
    .error (.countSize kind body.length)
  else
    .ok (UInt64.ofNat (BigEndian.decode body))

/-- The name of a session that a body holds. -/
def readSid (body : Bytes) : Except Violation String := do
  let name ← readPrefixed .connectSuccess maxSid body
  match Utf8.decode? name with
  | some sid => .ok sid
  | none => .error (.sidNotText ((Utf8.defect? name).getD (.incomplete name.length)))

/-- The frame that a message holds, or `none` for a tag without a meaning (`decode`). -/
def decode : Bytes → Except Violation (Option Frame)
  | high :: low :: body =>
    match FrameKind.ofTag? (BigEndian.decode [high, low]) with
    | some .connectSuccess => return some (.connectSuccess (← readSid body))
    | some .reconnectSuccess =>
      return some (.reconnectSuccess (← readCount .reconnectSuccess body))
    | some .data => return some (.data (← readPrefixed .data maxPayload body))
    | some .ack => return some (.ack (← readCount .ack body))
    | _ => return none
  | short => .error (.noTag short.length)

end Wire

end RelayTunnel
