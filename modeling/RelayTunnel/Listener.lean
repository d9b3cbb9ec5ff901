import RelayTunnel.Admission
import RelayTunnel.Error
import RelayTunnel.Event
import RelayTunnel.Traffic

/-!
# The listener of a tunnel

A listener accepts local clients, turns away those that are not admitted, and has
one session for each of the others. It stops accepting at its limit, when it is
told to, or when accepting fails; it has stopped once all its sessions have ended.
-/

namespace RelayTunnel

/-- How many clients a listener has accepted and turned away. -/
structure ListenerSummary where
  accepted : UInt64 := 0
  rejected : UInt64 := 0
  deriving DecidableEq, Repr

/-- How far a listener has come. -/
inductive ListenerPhase where
  | accepting
  /-- The socket is closed and sessions are still running; `failure` says why
      accepting has failed, if it has. -/
  | draining (failure : Option String)
  | stopped (failure : Option String)
  deriving DecidableEq, Repr

/-- A listener. -/
structure Listener where
  admission : Admission
  /-- The number of clients after which it stops accepting. -/
  limit : Option UInt64
  summary : ListenerSummary := {}
  /-- The sessions that have not ended, with their clients. -/
  sessions : List (UInt64 × SocketAddress) := []
  phase : ListenerPhase := .accepting

/-- Something that happens to a listener. -/
inductive ListenerHappening where
  /-- A client has connected, and the policy has decided about it. -/
  | client (address : SocketAddress) (admitted : Bool)
  | acceptFailed (detail : String)
  /-- The listener was told to stop. -/
  | cancelled
  | sessionEnded (id : UInt64) (client : SocketAddress)
      (result : Except SessionError ClientTraffic)

/-- Something that a listener does. -/
inductive ListenerAction where
  | publish (event : TunnelEvent)
  | count (entry : TrafficEntry)
  /-- Begin a session for a client. -/
  | beginSession (id : UInt64) (client : SocketAddress)
  /-- Close the connection of a client without a word. -/
  | turnAway (client : SocketAddress)
  | closeSocket
  deriving DecidableEq, Repr

namespace Listener

/-- A listener after a move and what it did, in order. -/
abbrev Move := Listener × List ListenerAction

/-- Stop once there are no sessions any more. -/
def drain (failure : Option String) (l : Listener) : Move :=
  if l.sessions.isEmpty then
    ({ l with phase := .stopped failure },
      [.publish (.listenerStopped l.summary.accepted l.summary.rejected)])
  else
    ({ l with phase := .draining failure }, [])

/-- Accept no more clients. -/
def stopAccepting (failure : Option String) (l : Listener) : Move :=
  let (l, actions) := l.drain failure
  (l, .closeSocket :: actions)

/-- Whether the limit is reached. -/
def isFull (l : Listener) : Bool := l.limit.any (· ≤ l.summary.accepted)

/-- Accept no more clients at the limit. -/
def checkLimit (l : Listener) : Move := if l.isFull then l.stopAccepting none else (l, [])

/-- A listener that begins to accept clients. -/
def start (admission : Admission) (limit : Option UInt64) : Move :=
  ({ admission, limit } : Listener).checkLimit

/-- A client has connected, and the policy has decided about it. -/
def meet (client : SocketAddress) (admitted : Bool) (l : Listener) : Move :=
  if admitted then
    let id := l.summary.accepted + 1
    let l :=
      { l with
        summary := { l.summary with accepted := id }
        sessions := l.sessions ++ [(id, client)] }
    let (l, actions) := l.checkLimit
    (l, .count .accepted :: .publish (.clientAccepted id client) ::
      .beginSession id client :: actions)
  else
    ({ l with summary := { l.summary with rejected := l.summary.rejected + 1 } },
      [.count .rejected, .publish (.clientRejected client), .turnAway client])

/-- What is told about the end of a session (`report_session`). -/
def reportEnd (id : UInt64) (client : SocketAddress) :
    Except SessionError ClientTraffic → List ListenerAction
  | .ok traffic => [.publish (.sessionClosed id client traffic.sent traffic.received)]
  | .error e => [.count .failed, .publish (.sessionFailed id client e.message)]

/-- A session has ended. -/
def endSession (id : UInt64) (client : SocketAddress)
    (result : Except SessionError ClientTraffic) (l : Listener) : Move :=
  let l := { l with sessions := l.sessions.erase (id, client) }
  let (l, actions) :=
    match l.phase with
    | .draining failure => l.drain failure
    | .accepting | .stopped _ => (l, [])
  (l, reportEnd id client result ++ actions)

/-- What a listener does about something that happens; `none` if it is not waiting for
    that (`Listener.listen`). -/
def step? (l : Listener) : ListenerHappening → Option Move
  | .client address admitted =>
    if l.phase = .accepting ∧ l.admission.mayDecide address admitted then
      some (l.meet address admitted)
    else none
  | .acceptFailed detail =>
    if l.phase = .accepting then some (l.stopAccepting (some detail)) else none
  | .cancelled => if l.phase = .accepting then some (l.stopAccepting none) else none
  | .sessionEnded id client result =>
    if (id, client) ∈ l.sessions then some (l.endSession id client result) else none

/-- What came of a listener that has stopped. -/
def outcome? (l : Listener) : Option (Except ListenerError ListenerSummary) :=
  match l.phase with
  | .stopped none => some (.ok l.summary)
  | .stopped (some detail) => some (.error (.accept detail))
  | .accepting | .draining _ => none

end Listener

end RelayTunnel
