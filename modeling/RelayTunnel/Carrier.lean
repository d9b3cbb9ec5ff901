import RelayTunnel.CloseCode
import RelayTunnel.Frame.Wire
import RelayTunnel.Handshake
import RelayTunnel.Session
import RelayTunnel.Settings
import RelayTunnel.Traffic

/-!
# The carrier of a stream

A carrier moves the bytes of one stream between its two halves and the relay. It
takes what the relay sends to the reader and acknowledges it, sends what the
writer writes, and takes the session up again on a new connection when the current
one is lost. It is a machine: at each point it waits for one of a few happenings,
and `Carrier.step?` says what it does about one.
-/

namespace RelayTunnel

/-- Whether an arrival is a close message that ends the stream in an orderly way. -/
def Arrival.isOrderlyClose : Arrival → Bool
  | .close code _ => CloseDisposition.ofCode code = .orderly
  | .message _ | .ended | .failed _ => false

/-- What the halves of a stream can see of it. -/
inductive StreamState where
  | connected
  | reconnecting
  /-- Ended in an orderly way by either side. -/
  | closed
  | failed (error : RelayError)
  deriving DecidableEq, Repr

namespace StreamState

/-- Whether the stream has ended. -/
def isTerminal : StreamState → Bool
  | closed | failed _ => true
  | connected | reconnecting => false

/-- The state as a value. -/
def describe : StreamState → String
  | connected => "Connected"
  | reconnecting => "Reconnecting"
  | closed => "Closed"
  | failed error => s!"Failed({error.describe})"

end StreamState

/-- A series of attempts to take a session up again (`Driver.reconnect`). -/
structure Recovery where
  backoff : Backoff
  /-- What went wrong last. -/
  lastFailure : String
  /-- The write that waits for the end of the series. -/
  write : Option Nat
  deriving DecidableEq, Repr

/-- What a message is sent for. -/
inductive Errand where
  /-- A write, known by its number. -/
  | write (number : Nat)
  | ack
  /-- Sending again what the relay does not hold; `rest` follows. -/
  | replay (recovery : Recovery) (rest : List Bytes)
  deriving DecidableEq, Repr

/-- The write behind an errand, if any. -/
def Errand.write? : Errand → Option Nat
  | write number => some number
  | ack => none
  | replay recovery _ => recovery.write

/-- What a carrier waits for. -/
inductive Phase where
  /-- Anything that may happen on an established session. -/
  | waiting
  /-- The end of sending a message. -/
  | sending (errand : Errand)
  /-- The end of a delay between two attempts. -/
  | pausing (recovery : Recovery)
  /-- The end of an attempt to take the session up again. -/
  | resuming (recovery : Recovery)
  /-- The end of sending a close message. -/
  | closing (last : StreamState)
  | ended
  deriving DecidableEq, Repr

/-- The machine that carries a stream (`Driver`). -/
structure Carrier where
  session : Session
  /-- Data for which the reader's queue had no room yet. -/
  pending : Option Bytes := none
  /-- Whether writes are suspended until the relay acknowledges more. -/
  throttled : Bool := false
  /-- Whether there may be more writes. -/
  writesOpen : Bool := true
  /-- Whether the stream was told to end. -/
  cancelled : Bool := false
  state : StreamState := .connected
  phase : Phase := .waiting
  deriving DecidableEq, Repr

/-- Something that can happen to a carrier. -/
inductive Happening where
  /-- The stream is told to end. -/
  | cancel
  /-- The carrier takes notice of that. -/
  | notice
  | arrival (arrival : Arrival)
  /-- There is room in the reader's queue, or there is no reader any more. -/
  | room (reader : Bool)
  | write (number : Nat) (payload : Bytes)
  /-- There will be no more writes. -/
  | writesOver
  | sent
  | sendFailed (error : RelayError)
  /-- A message was not sent in time. -/
  | sendStalled
  | pauseOver
  /-- The session goes on on a new connection, the relay holding `count` bytes. -/
  | resumed (count : UInt64)
  | resumeFailed (error : RelayError)
  /-- The close message was sent, or given up. -/
  | closeOver
  deriving DecidableEq, Repr

/-- Something that a carrier does. -/
inductive Action where
  | publish (state : StreamState)
  | count (entry : TrafficEntry)
  /-- Put data into the reader's queue. -/
  | deliver (payload : Bytes)
  /-- Let go of data for which there is no reader. -/
  | discard (payload : Bytes)
  /-- Begin to send a frame on the current connection. -/
  | send (frame : Frame)
  /-- Begin to send a close message on the current connection. -/
  | close (code : UInt16) (reason : String)
  /-- Begin a delay. -/
  | pause (delay : Duration)
  /-- Begin an attempt to take the session up again. -/
  | resume (sid : String) (received : UInt64)
  /-- Let the current connection go and put the resumed one in its place. -/
  | install
  /-- A write was taken. -/
  | accept (number : Nat)
  /-- A write will not be taken. -/
  | refuse (number : Nat)
  /-- Stop; writes that are queued will not be taken. -/
  | stop
  deriving DecidableEq, Repr

/-- The carrier after a move and what it did, in order. -/
abbrev Move := Carrier × List Action

namespace Carrier

/-! ## Ending -/

/-- End in a last state. -/
def stopIn (last : StreamState) (c : Carrier) : Move :=
  ({ c with phase := .ended, state := last }, [.publish last, .stop])

/-- Send a close message and then end in a last state (`Driver.close_channel`). -/
def closeIn (last : StreamState) (code : UInt16) (reason : String) (c : Carrier) : Move :=
  ({ c with phase := .closing last }, [.close code reason])

/-- End for a reason, `none` for an orderly end (`Driver.run`). The relay is told of its
    breach of the protocol and, if the stream was told to end, of the end: the carrier
    looks for that once more here. -/
def finish (error : Option RelayError) (c : Carrier) : Move :=
  match error with
  | none | some .streamClosed =>
    if c.cancelled then c.closeIn .closed closeNormal "" else c.stopIn .closed
  | some (.protocolViolation cause) =>
    c.closeIn (.failed (.protocolViolation cause)) closeInvalidData "protocol violation"
  | some error => c.stopIn (.failed error)

/-- End while a write may be waiting, which is not taken then. -/
def abandon (write : Option Nat) (error : Option RelayError) (c : Carrier) : Move :=
  let (c, actions) := c.finish error
  (c, (write.map Action.refuse).toList ++ actions)

/-! ## The window of writes -/

/-- Suspend writes at the high mark of unacknowledged bytes, and take them up at the low
    one (`Driver.update_throttle`). -/
def updateThrottle (flow : FlowSettings) (c : Carrier) : Carrier :=
  let outstanding := c.session.outstanding
  if !c.throttled && flow.highWaterMark ≤ outstanding then { c with throttled := true }
  else if c.throttled && outstanding ≤ flow.lowWaterMark then { c with throttled := false }
  else c

/-! ## Taking the session up again -/

/-- Begin an attempt. -/
def startAttempt (recovery : Recovery) (c : Carrier) : Move :=
  ({ c with phase := .resuming recovery }, [.resume c.session.sid c.session.received])

/-- Go on to the next attempt if there is one (`Driver.reconnect`). -/
def nextAttempt (recovery : Recovery) (c : Carrier) : Move :=
  match recovery.backoff.next with
  | none =>
    c.abandon recovery.write
      (some (.reconnectExhausted recovery.backoff.attempt recovery.lastFailure))
  | some (delay, backoff) =>
    let recovery := { recovery with backoff }
    if delay.isZero then c.startAttempt recovery
    else ({ c with phase := .pausing recovery }, [.pause delay])

/-- The connection is lost (`Driver.reconnect`). -/
def recover (settings : ReconnectSettings) (write : Option Nat) (reason : String)
    (c : Carrier) : Move :=
  let recovery := { backoff := .start settings, lastFailure := reason, write }
  let (c, actions) := { c with state := .reconnecting }.nextAttempt recovery
  (c, .publish .reconnecting :: actions)

/-- The write is taken and the carrier waits again. -/
def acceptWrite (flow : FlowSettings) (number : Nat) (c : Carrier) : Move :=
  ({ c.updateThrottle flow with phase := .waiting }, [.accept number])

/-- All that the relay did not hold has been sent again. -/
def recovered (flow : FlowSettings) (recovery : Recovery) (c : Carrier) : Move :=
  let c := { c.updateThrottle flow with state := .connected }
  let (c, actions) :=
    match recovery.write with
    | some number => c.acceptWrite flow number
    | none => ({ c with phase := .waiting }, [])
  (c, .count .reconnected :: .publish .connected :: actions)

/-- Send the payloads again, one after the other (`Driver.replay`). -/
def replay (flow : FlowSettings) (recovery : Recovery) (payloads : List Bytes)
    (c : Carrier) : Move :=
  match payloads with
  | [] => c.recovered flow recovery
  | payload :: rest =>
    ({ c with phase := .sending (.replay recovery rest) }, [.send (.data payload)])

/-- The first payload that does not fit into a frame (`Driver.replay`). -/
def unsendable? (payloads : List Bytes) : Option RelayError :=
  payloads.findSome? fun payload =>
    match Wire.encode (.data payload) with
    | .ok _ => none
    | .error e => some e

/-- The session goes on on a new connection, the relay holding `count` bytes
    (`Driver.reconnect`). -/
def goOn (flow : FlowSettings) (recovery : Recovery) (count : UInt64) (c : Carrier) : Move :=
  let (c, actions) :=
    match c.session.acknowledge count with
    | .error violation => c.abandon recovery.write (some (.protocolViolation violation))
    | .ok session =>
      let c := { c with session }
      match unsendable? session.replay with
      | some e => c.nextAttempt { recovery with lastFailure := e.message }
      | none => c.replay flow recovery session.replay
  (c, .install :: actions)

/-- An attempt has failed (`Driver.reconnect`). -/
def attemptFailed (recovery : Recovery) (error : RelayError) (c : Carrier) : Move :=
  match error with
  | .reconnectExhausted _ reason =>
    c.abandon recovery.write (some (.reconnectExhausted recovery.backoff.attempt reason))
  | error =>
    if error.isRetryable then c.nextAttempt { recovery with lastFailure := error.message }
    else c.abandon recovery.write (some error)

/-! ## Sending -/

/-- Take a write: from now on its bytes count as sent (`Driver.send_data`). -/
def takeWrite (number : Nat) (payload : Bytes) (c : Carrier) : Move :=
  match Wire.encode (.data payload) with
  | .error e => c.abandon (some number) (some e)
  | .ok _ =>
    ({ c with session := c.session.recordSent payload, phase := .sending (.write number) },
      [.count (.dataSent payload.length), .send (.data payload)])

/-- Acknowledge what was received if it is enough by now (`Driver.maybe_ack`). -/
def report (threshold : UInt64) (c : Carrier) : Move :=
  if c.session.unreported < max threshold 1 then
    ({ c with phase := .waiting }, [])
  else
    let session := c.session.takeAck
    ({ c with session, phase := .sending .ack }, [.send (.ack session.reported)])

/-- A message was sent. -/
def messageSent (flow : FlowSettings) (errand : Errand) (c : Carrier) : Move :=
  let (c, actions) :=
    match errand with
    | .write number => c.acceptWrite flow number
    | .ack => ({ c with phase := .waiting }, [])
    | .replay recovery rest => c.replay flow recovery rest
  (c, .count .frameSent :: actions)

/-- A message was not sent (`Driver.send_message`). Nothing is lost with it: the bytes
    are in the replay buffer, and the next attempt carries the received count. -/
def messageLost (settings : ReconnectSettings) (errand : Errand) (error : RelayError)
    (c : Carrier) : Move :=
  if error = .streamClosed then c.abandon errand.write? (some .streamClosed)
  else
    match errand with
    | .write number => c.recover settings (some number) error.message
    | .ack => c.recover settings none error.message
    | .replay recovery _ => c.nextAttempt { recovery with lastFailure := error.message }

/-! ## Arrivals -/

/-- A frame on the established session (`Driver.handle_message`). -/
def frameArrived (flow : FlowSettings) (frame : Frame) (c : Carrier) : Move :=
  match frame with
  | .data payload =>
    if payload.isEmpty then (c, [])
    else
      ({ c with
          session := c.session.recordReceived payload.length
          pending := some payload },
        [.count (.dataReceived payload.length)])
  | .ack count =>
    match c.session.acknowledge count with
    | .error violation => c.finish (some (.protocolViolation violation))
    | .ok session => ({ c with session }.updateThrottle flow, [])
  | other => c.finish (some (.protocolViolation (.unexpected other.kind)))

/-- A message on the established session (`Driver.handle_message`). -/
def messageArrived (flow : FlowSettings) (message : Bytes) (c : Carrier) : Move :=
  let (c, actions) :=
    match Wire.decode message with
    | .error violation => c.finish (some (.protocolViolation violation))
    | .ok none => (c, [])
    | .ok (some frame) => c.frameArrived flow frame
  (c, .count .frameReceived :: actions)

/-- A close message on the established session (`Driver.drive`). -/
def closeArrived (settings : ReconnectSettings) (code : UInt16) (reason : String)
    (c : Carrier) : Move :=
  match CloseDisposition.ofCode code with
  | .orderly => c.finish none
  | .reconnect => c.recover settings none s!"relay closed connection with code {code}"
  | other => c.finish (some ((other.error? code reason).getD .streamClosed))

/-- Something on the connection of the established session (`Driver.drive`). -/
def arrived (settings : RelaySettings) (arrival : Arrival) (c : Carrier) : Move :=
  match arrival with
  | .message message => c.messageArrived settings.flow message
  | .close code reason => c.closeArrived settings.reconnect code reason
  | .ended => c.recover settings.reconnect none "relay connection ended"
  | .failed error => c.recover settings.reconnect none error.message

/-! ## The machine -/

/-- Take notice of being told to end. -/
def noticed (c : Carrier) : Option Move :=
  match c.phase with
  | .waiting => some (c.finish none)
  | .sending errand => some (c.abandon errand.write? (some .streamClosed))
  | .pausing recovery | .resuming recovery =>
    some (c.abandon recovery.write (some .streamClosed))
  | .closing _ | .ended => none

/-- Whether the carrier waits on an established session and goes on with it. -/
def isOpen (c : Carrier) : Bool := c.phase = .waiting && !c.cancelled

/-- Whether the carrier takes what arrives. It would take notice first of being told
    to end, but an orderly close is followed by another look (`finish`), and in between
    it can be told to. -/
def takes (arrival : Arrival) (c : Carrier) : Bool :=
  c.phase = .waiting && c.pending.isNone && (!c.cancelled || arrival.isOrderlyClose)

/-- What a carrier does about something that happens; `none` if it is not waiting for
    that (`Driver.run`). -/
def step? (settings : RelaySettings) (c : Carrier) : Happening → Option Move
  | .cancel => some ({ c with cancelled := true }, [])
  | .notice => if c.cancelled then c.noticed else none
  | .arrival arrival =>
    if c.takes arrival then some (c.arrived settings arrival) else none
  | .room reader =>
    match c.pending with
    | some payload =>
      if c.isOpen then
        let (c, actions) := { c with pending := none }.report settings.ackThreshold
        some (c, (if reader then .deliver payload else .discard payload) :: actions)
      else none
    | none => none
  | .write number payload =>
    if c.isOpen && c.writesOpen && !c.throttled then some (c.takeWrite number payload) else none
  | .writesOver =>
    if c.isOpen && c.writesOpen && !c.throttled then some ({ c with writesOpen := false }, [])
    else none
  | .sent =>
    match c.phase with
    | .sending errand => some (c.messageSent settings.flow errand)
    | _ => none
  | .sendFailed error =>
    match c.phase with
    | .sending errand => some (c.messageLost settings.reconnect errand error)
    | _ => none
  | .sendStalled =>
    match c.phase with
    | .sending errand =>
      some (c.messageLost settings.reconnect errand
        (.transport s!"send stalled for {settings.connectTimeout.text}"))
    | _ => none
  | .pauseOver =>
    match c.phase with
    | .pausing recovery => some (c.startAttempt recovery)
    | _ => none
  | .resumed count =>
    match c.phase with
    | .resuming recovery => some (c.goOn settings.flow recovery count)
    | _ => none
  | .resumeFailed error =>
    match c.phase with
    | .resuming recovery => some (c.attemptFailed recovery error)
    | _ => none
  | .closeOver =>
    match c.phase with
    | .closing last => some (c.stopIn last)
    | _ => none

end Carrier

end RelayTunnel
