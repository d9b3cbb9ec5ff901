import RelayTunnel.Tunnel

/-!
# The lifetime of a tunnel

A tunnel from its start to its end, line by line of a script. Callers wait for it,
with or without telling it to stop and with or without a limit of time; the handle
on it may be dropped. A tunnel that neither a handle nor a caller holds is told to
stop. Which clients the network brings to it, and how their sessions end, is part of
the script. What happens to the listener happens at once, and after each line
everything that can end has ended.
-/

namespace RelayTunnel

namespace Lifetime

/-- A call that waits for the end of a tunnel (`Tunnel.close`, `Tunnel.wait`,
    `ShutdownCoordinator.shutdown_tunnel`). -/
inductive Call where
  /-- Tell the tunnel to stop and wait for that (`Tunnel.close`). -/
  | close
  /-- Wait for that alone (`Tunnel.wait`). -/
  | wait
  /-- Close the tunnel, but wait no longer than a limit allows
      (`ShutdownCoordinator.shutdown_tunnel`). -/
  | shutDown (limit : Duration)
  deriving DecidableEq, Repr

/-- What can be done with the handle on a tunnel. -/
inductive Use where
  | call (call : Call)
  | drop
  deriving DecidableEq, Repr

namespace Use

@[match_pattern] abbrev close : Use := call .close

@[match_pattern] abbrev wait : Use := call .wait

@[match_pattern] abbrev shutDown (limit : Duration) : Use := call (.shutDown limit)

end Use

/-- A line of a script. -/
inductive Cue where
  /-- A client tries to connect; the network brings it to the tunnel from an address, or does
      not bring it there. -/
  | tryConnect (client : Option SocketAddress)
  /-- The session of a client ends. -/
  | endSession (id : UInt64) (client : SocketAddress) (result : Except SessionError ClientTraffic)
  /-- Something else that only a connected client or a connection to the relay could do. -/
  | useConnection
  /-- Prepare the relay for connections to come. -/
  | planRelay
  | useHandle (use : Use)
  /-- Let so many milliseconds pass. -/
  | sleep (milliseconds : Nat)

/-- A client tries to connect where the network brings none to the tunnel. -/
@[match_pattern] abbrev Cue.connect : Cue := .tryConnect none

/-- How something asked for ended. -/
inductive Answer where
  /-- A client was not connected. -/
  | refused
  | outcome (outcome : TunnelOutcome)
  /-- The tunnel has stopped within the limit. -/
  | shutDown
  /-- It has not. -/
  | overdue (limit : Duration)

namespace Call

/-- Whether the call tells the tunnel to stop. -/
def tells : Call → Bool
  | close | shutDown _ => true
  | wait => false

/-- How long the call waits at most. -/
def limit? : Call → Option Duration
  | shutDown limit => some limit
  | close | wait => none

/-- What the call answers once it has got an outcome. With a limit it notes the outcome for
    itself and says only that the tunnel has stopped. -/
def answer (call : Call) (outcome : TunnelOutcome) : Answer :=
  match call with
  | close | wait => .outcome outcome
  | shutDown _ => .shutDown

end Call

/-- A caller that waits for the tunnel, known by its line. -/
structure Caller where
  line : Nat
  call : Call
  /-- The time at which it came. -/
  since : Nat

/-- What a line of a script has led to. -/
structure Report where
  /-- What ended, by the number of the line that asked for it. -/
  answers : List (Nat × Answer)
  events : List TunnelEvent
  /-- How many clients have tried to connect so far. -/
  clients : Nat
  /-- Whether the tunnel was told to stop, as far as a handle can tell. -/
  isClosed : Option Bool
  traffic : Traffic
  /-- Whether the line had nothing to act on. -/
  skipped : Bool

end Lifetime

open Lifetime

/-- A tunnel under way, with those who hold it. -/
structure Lifetime where
  tunnel : Tunnel
  /-- Whether there still is a handle. -/
  hasHandle : Bool := true
  callers : List Caller := []
  /-- The time since the beginning. -/
  milliseconds : Nat := 0
  clients : Nat := 0
  traffic : Traffic := {}
  answers : List (Nat × Answer) := []
  events : List TunnelEvent := []

namespace Lifetime

/-- A part of a lifetime. -/
abbrev Course := StateM Lifetime

/-- Note how something ended. -/
def answer (line : Nat) (answer : Answer) : Course Unit :=
  modify fun l => { l with answers := l.answers ++ [(line, answer)] }

/-- Do what the listener does. Its sessions begin on their own, and end where the script says. -/
def act : ListenerAction → Course Unit
  | .publish event => modify fun l => { l with events := l.events ++ [event] }
  | .count entry => modify fun l => { l with traffic := l.traffic.record entry }
  | .beginSession .. | .turnAway _ | .closeSocket => return

/-- Tell the tunnel to stop. -/
def cancel : Course Unit := do
  let l ← get
  let (tunnel, actions) := l.tunnel.cancel
  set { l with tunnel }
  actions.forM act

/-- Let something happen to the listener; `false` if it is not waiting for that. -/
def happen (happening : ListenerHappening) : Course Bool := do
  let l ← get
  match l.tunnel.listener.step? happening with
  | some (listener, actions) => do
    set { l with tunnel := { l.tunnel with listener } }
    actions.forM act
    return true
  | none => return false

/-- Serve the callers whose turn it is, at most so many. -/
def serve : Nat → Course Unit
  | 0 => return
  | most + 1 => do
    let l ← get
    match l.tunnel.complete? with
    | none => return
    | some (line, outcome, tunnel) => do
      set { l with tunnel, callers := l.callers.filter (·.line ≠ line) }
      if let some caller := l.callers.find? (·.line = line) then
        answer line (caller.call.answer outcome)
      serve most

/-- The time when a duration has passed. -/
def timeAfter (since : Nat) (d : Duration) : Nat := since + (d.nanoseconds + 999999) / 1000000

/-- Let a caller give up whose limit is over. -/
def giveUp (caller : Caller) : Course Unit := do
  let l ← get
  match caller.call.limit? with
  | some limit =>
    if timeAfter caller.since limit ≤ l.milliseconds then
      set { l with
        tunnel := l.tunnel.abandon caller.line
        callers := l.callers.filter (·.line ≠ caller.line) }
      answer caller.line (.overdue limit)
  | none => return

/-- Let everything end that can: callers get what there is for them, or give up. -/
def settle : Course Unit := do
  serve (← get).callers.length
  (← get).callers.forM giveUp
  let l ← get
  if !l.hasHandle && l.callers.isEmpty then cancel

/-- A caller comes and waits. -/
def call (caller : Caller) : Course Unit := do
  modify fun l =>
    { l with tunnel := l.tunnel.join caller.line, callers := l.callers ++ [caller] }
  settle

/-- Use the handle. -/
def useHandle (line : Nat) : Use → Course Unit
  | .call how => do
    call { line, call := how, since := (← get).milliseconds }
    if how.tells then cancel
  | .drop => modify fun l => { l with hasHandle := false }

/-- A client tries to connect, which fails unless the network brings it to a listener that
    accepts clients. -/
def tryConnect (line : Nat) (client : Option SocketAddress) : Course Unit := do
  modify fun l => { l with clients := l.clients + 1 }
  let met ←
    match client with
    | some address => do
      happen (.client address ((← get).tunnel.listener.admission.admits address))
    | none => pure false
  unless met do answer line .refused

/-- Do what a line says; `false` if it has nothing to act on. -/
def follow (line : Nat) : Cue → Course Bool
  | .tryConnect client => do
    tryConnect line client
    return true
  | .endSession id client result => happen (.sessionEnded id client result)
  | .useConnection => return false
  | .planRelay => return true
  | .useHandle use => do
    if (← get).hasHandle then
      useHandle line use
      return true
    return false
  | .sleep milliseconds => do
    modify fun l => { l with milliseconds := l.milliseconds + milliseconds }
    return true

/-- Play a line, and report what it has led to. -/
def playLine (line : Nat) (cue : Cue) : Course Report := do
  let followed ← follow line cue
  settle
  let l ← get
  set { l with answers := [], events := [] }
  return {
    answers := l.answers.mergeSort fun a b => a.1 ≤ b.1
    events := l.events
    clients := l.clients
    isClosed := if l.hasHandle then some l.tunnel.cancelled else none
    traffic := l.traffic
    skipped := !followed }

/-- A tunnel that has just been started. -/
def start (admission : Admission) (limit : Option UInt64) : Lifetime :=
  let (listener, actions) := Listener.start admission limit
  (actions.forM act |>.run { tunnel := { listener } }).2

/-- Play a script line by line. -/
def play (script : List Cue) : Course (List Report) :=
  script.zipIdx.mapM fun (cue, line) => playLine line cue

end Lifetime

end RelayTunnel
