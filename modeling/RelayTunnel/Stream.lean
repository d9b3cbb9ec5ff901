import RelayTunnel.Carrier

/-!
# Streams

The two halves of a stream and what lies between them and its carrier: a queue of
data for the reader and one of writes. A write is cut into pieces that fit into a
frame, and each piece waits until the carrier has taken it.
-/

namespace RelayTunnel

/-- A piece of a write on its way to the carrier. -/
structure WriteRequest where
  /-- The pieces of a stream are numbered. -/
  number : Nat
  payload : Bytes
  deriving DecidableEq, Repr

/-- How far a write has come; `rest` are the bytes behind the current piece
    (`RelayWriter.write`). -/
inductive Writing where
  /-- Before the next piece. -/
  | next (rest : Bytes)
  /-- Until the queue has room for a piece. -/
  | queueing (payload rest : Bytes)
  /-- Until the carrier has taken a piece. -/
  | awaiting (number : Nat) (rest : Bytes)
  /-- Until the stream has ended, because a piece will not be taken. -/
  | refused
  deriving DecidableEq, Repr

/-- A stream: its carrier, what is queued, and its halves (`RelayStream`, `RelayReader`,
    `RelayWriter`). -/
structure Stream where
  carrier : Carrier
  /-- Data for the reader, oldest first. -/
  inbound : List Bytes := []
  readerOpen : Bool := true
  /-- Pieces of writes for the carrier, oldest first. -/
  requests : List WriteRequest := []
  writerOpen : Bool := true
  /-- How many pieces there have been. -/
  numbered : Nat := 0
  /-- The write that the writer is in. -/
  writing : Option Writing := none
  /-- Whether the writer has closed the stream. -/
  closedLocally : Bool := false
  deriving DecidableEq, Repr

/-- What a read finds. -/
inductive ReadResult where
  | data (payload : Bytes)
  | endOfFile
  | failed (error : RelayError)
  deriving DecidableEq, Repr

namespace Stream

/-- How much data waits for the reader at most, in pieces (`INBOUND_CAPACITY`). -/
def inboundCapacity : Nat := 16

/-- How many pieces of writes wait for the carrier at most (`WRITE_QUEUE_CAPACITY`). -/
def requestCapacity : Nat := 4

/-- The fewest bytes that a buffer for reading holds (`MIN_READ_SIZE`). -/
def minReadSize : Nat := maxPayload

/-- The stream of a session that was just opened (`RelayStream.spawn`). -/
def start (sid : String) : Stream := { carrier := { session := { sid } } }

/-- Whether the carrier has stopped. -/
def isStopped (s : Stream) : Bool := s.carrier.phase = .ended

/-! ## Between the halves and the carrier -/

/-- Whether something can happen to the carrier as far as the halves are
    concerned. -/
def allows (s : Stream) : Happening → Bool
  | .room reader =>
    reader == s.readerOpen && (!reader || s.inbound.length < inboundCapacity)
  | .write number payload => s.requests.head? = some ⟨number, payload⟩
  | .writesOver => !s.writerOpen && s.requests.isEmpty
  | _ => true

/-- The write after the carrier has done something. -/
def writingAfter (writing : Writing) (action : Action) : Writing :=
  match writing, action with
  | .awaiting number rest, .accept taken =>
    if number = taken then .next rest else .awaiting number rest
  | .awaiting number rest, .refuse lost =>
    if number = lost then .refused else .awaiting number rest
  | .awaiting _ _, .stop => .refused
  | .queueing _ _, .stop => .refused
  | writing, _ => writing

/-- The halves after the carrier has done something. -/
def apply (s : Stream) (action : Action) : Stream :=
  let s := { s with writing := s.writing.map (writingAfter · action) }
  match action with
  | .deliver payload => { s with inbound := s.inbound ++ [payload] }
  | .stop => { s with requests := [] }
  | _ => s

/-- The pieces that wait once something happens to the carrier. -/
def requestsAfter (s : Stream) : Happening → List WriteRequest
  | .write _ _ => s.requests.tail
  | _ => s.requests

/-- The stream after something has happened to its carrier, and what that did. -/
def step? (settings : RelaySettings) (s : Stream) (happening : Happening) :
    Option (Stream × List Action) :=
  if s.allows happening then
    (s.carrier.step? settings happening).map fun (carrier, actions) =>
      (actions.foldl apply { s with carrier, requests := s.requestsAfter happening }, actions)
  else
    none

/-- Tell the carrier to end. -/
def cancel (s : Stream) : Stream := { s with carrier := { s.carrier with cancelled := true } }

/-! ## Reading -/

/-- Why a read into a buffer of that size fails at once, if it does
    (`RelayReader.read`). -/
def readRefusal? (s : Stream) (size : Nat) : Option RelayError :=
  if size < minReadSize then some (.invalidArgument (.readBufferTooSmall size))
  else if s.closedLocally then some .streamClosed
  else none

/-- What a reader finds behind the last data (`RelayReader.end_of_stream`). -/
def endOfStream (s : Stream) : ReadResult :=
  if s.closedLocally then .failed .streamClosed
  else
    match s.carrier.state with
    | .closed => .endOfFile
    | .failed error => .failed error
    | .connected | .reconnecting => .failed .streamClosed

/-- What a read finds, `none` while it has to wait (`RelayReader.read`). -/
def takeChunk? (s : Stream) : Option (ReadResult × Stream) :=
  match s.inbound.dropWhile List.isEmpty with
  | payload :: rest => some (.data payload, { s with inbound := rest })
  | [] => if s.isStopped then some (s.endOfStream, { s with inbound := [] }) else none

/-! ## Writing -/

/-- Put a piece into the queue if it has room. -/
def enqueue (s : Stream) (payload rest : Bytes) : Stream :=
  if s.requests.length < requestCapacity then
    { s with
      requests := s.requests ++ [⟨s.numbered, payload⟩]
      numbered := s.numbered + 1
      writing := some (.awaiting s.numbered rest) }
  else
    { s with writing := some (.queueing payload rest) }

/-- Why a write fails whose piece was refused, `none` until that is known
    (`RelayWriter.terminal_error`). -/
def writeError? (s : Stream) : Option RelayError :=
  if s.closedLocally then some .streamClosed
  else
    match s.carrier.state with
    | .failed error => some error
    | .closed => some .streamClosed
    | .connected | .reconnecting => none

/-- The answer of a write whose piece was refused. -/
def answerRefused (s : Stream) : Stream × Option (Except RelayError Unit) :=
  match s.writeError? with
  | some error => ({ s with writing := none }, some (.error error))
  | none => ({ s with writing := some .refused }, none)

/-- Begin a write (`RelayWriter.write`). -/
def beginWrite (s : Stream) (buffer : Bytes) : Stream :=
  { s with writing := some (.next buffer) }

/-- Go on with the write as far as possible, and its result once there is one
    (`RelayWriter.write`). -/
def goOnWriting (s : Stream) : Stream × Option (Except RelayError Unit) :=
  match s.writing with
  | none => (s, none)
  | some (.next rest) =>
    if rest.isEmpty then ({ s with writing := none }, some (.ok ()))
    else if s.closedLocally then ({ s with writing := none }, some (.error .streamClosed))
    else if s.isStopped then s.answerRefused
    else (s.enqueue (rest.take maxPayload) (rest.drop maxPayload), none)
  | some (.queueing payload rest) => (s.enqueue payload rest, none)
  | some (.awaiting _ _) => (s, none)
  | some .refused => s.answerRefused

/-- Give up the write. What is queued of it is sent all the same. -/
def abortWrite (s : Stream) : Stream := { s with writing := none }

/-! ## Closing -/

/-- Close the stream from this side (`Shared.close`). -/
def closeLocally (s : Stream) : Stream := { s with closedLocally := true }.cancel

/-- Let the reader go. Without any half the carrier is told to end. -/
def dropReader (s : Stream) : Stream :=
  let s := { s with readerOpen := false, inbound := [] }
  if s.writerOpen then s else s.cancel

/-- Let the writer go. Without any half the carrier is told to end. -/
def dropWriter (s : Stream) : Stream :=
  let s := { s with writerOpen := false, writing := none }
  if s.readerOpen then s else s.cancel

/-- The stream as a value. -/
def describe (s : Stream) : String :=
  "RelayStream \x7b state: " ++ s.carrier.state.describe ++ " \x7d"

end Stream

end RelayTunnel
