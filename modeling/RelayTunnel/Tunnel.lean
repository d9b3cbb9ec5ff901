import RelayTunnel.Listener

/-!
# Tunnels

A tunnel is a listener with a handle on it. Any number of callers can wait for its
end, with or without telling it to stop. They wait in turn, one of them at a time
for the listener itself, and what came of the listener is handed out once.
-/

namespace RelayTunnel

/-- What a caller gets that has waited for a tunnel: what came of the listener,
    or nothing if that was handed out before. -/
abbrev TunnelOutcome := Except ListenerError (Option ListenerSummary)

/-- A tunnel and those who wait for it, known by numbers. -/
structure Tunnel where
  listener : Listener
  /-- Whether it was told to stop. -/
  cancelled : Bool := false
  /-- Whether the outcome of the listener was handed out. -/
  handedOut : Bool := false
  /-- Who waits for the listener. -/
  holder : Option Nat := none
  /-- Who waits for their turn. -/
  queue : List Nat := []

namespace Tunnel

/-- Tell the tunnel to stop. -/
def cancel (t : Tunnel) : Tunnel × List ListenerAction :=
  let t := { t with cancelled := true }
  match t.listener.step? .cancelled with
  | some (listener, actions) => ({ t with listener }, actions)
  | none => (t, [])

/-- A caller begins to wait (`Tunnel.join`). -/
def join (caller : Nat) (t : Tunnel) : Tunnel :=
  if t.holder.isNone then { t with holder := some caller }
  else { t with queue := t.queue ++ [caller] }

/-- The next caller takes its turn. -/
def release (t : Tunnel) : Tunnel :=
  { t with holder := t.queue.head?, queue := t.queue.tail }

/-- A caller gives up waiting. -/
def abandon (caller : Nat) (t : Tunnel) : Tunnel :=
  if t.holder = some caller then t.release
  else { t with queue := t.queue.filter (· ≠ caller) }

/-- What the caller whose turn it is gets, `none` while it has to wait
    (`Tunnel.join`). -/
def complete? (t : Tunnel) : Option (Nat × TunnelOutcome × Tunnel) := do
  let caller ← t.holder
  if t.handedOut then
    return (caller, .ok none, t.release)
  else
    let outcome ← t.listener.outcome?
    return (caller, outcome.map some, { t with handedOut := true }.release)

/-- The wording for a tunnel that did not stop in the time given for it
    (`ShutdownCoordinator.shutdown_tunnel`). -/
def overdue (limit : Duration) : String := s!"tunnel did not close within {limit.text}"

end Tunnel

end RelayTunnel
