import RelayTunnel.Stream

/-!
# The relaying of a client

One accepted client and its stream over the relay. Two loops copy what the client
sends to the stream and what the stream brings to the client; the first of them to
end, for whatever reason, ends the relaying. Then the stream is closed, and after
that the connection of the client.
-/

namespace RelayTunnel

/-- What the loop from the client to the stream waits for (`upstream`). -/
inductive Outbound where
  /-- What the client sends. -/
  | client
  /-- The end of a write to the stream. -/
  | stream
  deriving DecidableEq, Repr

/-- What the loop from the stream to the client waits for (`downstream`). -/
inductive Inbound where
  /-- What the stream brings. -/
  | stream
  /-- The client taking the rest of a piece of `size` bytes. -/
  | client (rest : Bytes) (size : Nat)
  deriving DecidableEq, Repr

/-- How far a relaying has come. -/
inductive RelayingPhase where
  | opening
  | copying (up : Outbound) (down : Inbound)
  /-- The stream is being closed. -/
  | closing (result : Except SessionError Unit)
  | ended (result : Except SessionError ClientTraffic)

/-- The relaying of a client (`TunnelSession`). -/
structure Relaying where
  /-- The stream, once it is open. -/
  stream : Option Stream := none
  traffic : ClientTraffic := {}
  /-- Whether the tunnel was told to stop. -/
  cancelled : Bool := false
  phase : RelayingPhase := .opening

/-- Something that happens to a relaying. -/
inductive RelayingHappening where
  | cancel
  /-- Some part of the relaying takes notice of that. -/
  | notice
  | opened (sid : String)
  | openFailed (error : RelayError)
  /-- Something happens to the carrier of the stream. -/
  | carrier (happening : Happening)
  | clientSent (bytes : Bytes)
  /-- The client has closed its side. -/
  | clientEnded
  | clientLost (detail : String)
  /-- The loop to the stream goes on. -/
  | goOnUp
  /-- The loop from the stream goes on. -/
  | goOnDown
  /-- The client takes so many bytes. -/
  | clientTook (count : Nat)
  /-- The stream has ended after it was closed. -/
  | streamEnded
  deriving DecidableEq, Repr

/-- Something that a relaying does. -/
inductive RelayingAction where
  | carrier (action : Action)
  /-- Bytes go to the client. -/
  | toClient (bytes : Bytes)
  /-- Tell the client that nothing follows. -/
  | shutClient
  deriving DecidableEq, Repr

namespace Relaying

/-- A relaying after a move and what it did, in order. -/
abbrev Move := Relaying × List RelayingAction

/-- End, the client having been told. -/
def endWith (result : Except SessionError ClientTraffic) (r : Relaying) : Move :=
  ({ r with phase := .ended result }, [.shutClient])

/-- A loop has ended: close the stream. -/
def finish (result : Except SessionError Unit) (r : Relaying) : Move :=
  ({ r with
      stream := r.stream.map fun s => s.abortWrite.closeLocally
      phase := .closing result },
    [])

/-- What a relaying has come to when the stream is closed. That the tunnel was told
    to stop is no failure. -/
def verdict (traffic : ClientTraffic) :
    Except SessionError Unit → Except SessionError ClientTraffic
  | .ok () | .error .cancelled => .ok traffic
  | .error error => .error error

/-- The relaying with its stream in another state. -/
def withStream (r : Relaying) (s : Stream) : Relaying := { r with stream := some s }

/-- The loop to the stream goes on (`upstream`). -/
def goOnUp (down : Inbound) (s : Stream) (r : Relaying) : Move :=
  match s.goOnWriting with
  | (s, none) => (r.withStream s, [])
  | (s, some (.ok ())) => ({ r.withStream s with phase := .copying .client down }, [])
  | (s, some (.error error)) => (r.withStream s).finish (.error (.relay error))

/-- The loop from the stream goes on with what it brings (`downstream`). -/
def goOnDown (up : Outbound) (s : Stream) (r : Relaying) : Option Move :=
  s.takeChunk?.map fun (found, s) =>
    match found with
    | .data payload =>
      ({ r.withStream s with phase := .copying up (.client payload payload.length) }, [])
    | .endOfFile => (r.withStream s).finish (.ok ())
    | .failed error => (r.withStream s).finish (.error (.relay error))

/-- The client takes bytes of a piece; they count when it has taken all of it
    (`downstream`). -/
def clientTook (up : Outbound) (rest : Bytes) (size count : Nat) (r : Relaying) : Move :=
  let left := rest.drop count
  let r :=
    if left.isEmpty then
      { r with traffic := r.traffic.recordSent size, phase := .copying up .stream }
    else
      { r with phase := .copying up (.client left size) }
  (r, [.toClient (rest.take count)])

/-- What a relaying does about something that happens; `none` if it is not waiting for
    that (`TunnelSession.run`). -/
def step? (settings : RelaySettings) (r : Relaying) (happening : RelayingHappening) :
    Option Move :=
  match happening, r.phase, r.stream with
  | .cancel, _, stream =>
    some ({ r with cancelled := true, stream := stream.map Stream.cancel }, [])
  | .notice, .opening, _ =>
    if r.cancelled then some (r.endWith (.error (.relay .streamClosed))) else none
  | .notice, .copying _ _, _ =>
    if r.cancelled then some (r.finish (.error .cancelled)) else none
  | .opened sid, .opening, _ =>
    let s := Stream.start sid
    let s := if r.cancelled then s.cancel else s
    some ({ r with stream := some s, phase := .copying .client .stream }, [])
  | .openFailed error, .opening, _ => some (r.endWith (.error (.relay error)))
  | .carrier happening, .copying _ _, some s | .carrier happening, .closing _, some s =>
    (s.step? settings happening).map fun (s, actions) =>
      (r.withStream s, actions.map .carrier)
  | .clientSent bytes, .copying .client down, some s =>
    if bytes.isEmpty || maxPayload < bytes.length then none
    else
      some ({ r with
          traffic := r.traffic.recordReceived bytes.length
          stream := some (s.beginWrite bytes)
          phase := .copying .stream down },
        [])
  | .clientEnded, .copying .client _, _ => some (r.finish (.ok ()))
  | .clientLost detail, .copying _ _, _ => some (r.finish (.error (.localSocket detail)))
  | .goOnUp, .copying .stream down, some s => some (r.goOnUp down s)
  | .goOnDown, .copying up .stream, some s => r.goOnDown up s
  | .clientTook count, .copying up (.client rest size), _ =>
    if count = 0 || rest.length < count then none else some (r.clientTook up rest size count)
  | .streamEnded, .closing result, some s =>
    if s.carrier.state.isTerminal then some (r.endWith (verdict r.traffic result)) else none
  | _, _, _ => none

end Relaying

end RelayTunnel
