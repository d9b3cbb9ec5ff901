import RelayTunnel.Listener

/-!
# What can be observed of a listener

A reception is a listener together with everything that can be observed of it and of its
sessions: the events, the counters, and who asks for a token and connects to the relay.
Clients come and sessions end in any order and with any result, and the listener may be told
to stop or fail to accept at any time. `Reception.Step` has one constructor for each thing
that a reception can do.
-/

namespace RelayTunnel

/-! ## What events and actions tell -/

namespace TunnelEvent

/-- The id that an event gives to a client. -/
@[simp] def accepted? : TunnelEvent → Option UInt64
  | clientAccepted id _ => some id
  | _ => none

/-- The id of the session of whose end an event tells. -/
@[simp] def ended? : TunnelEvent → Option UInt64
  | sessionClosed id _ _ _ | sessionFailed id _ _ => some id
  | _ => none

/-- The client of whose admission an event tells. -/
@[simp] def acceptedClient? : TunnelEvent → Option SocketAddress
  | clientAccepted _ client => some client
  | _ => none

/-- The client that an event tells to have been turned away. -/
@[simp] def rejectedClient? : TunnelEvent → Option SocketAddress
  | clientRejected client => some client
  | _ => none

/-- Whether an event tells of a client that was turned away. -/
@[simp] def isRejection : TunnelEvent → Bool
  | clientRejected _ => true
  | _ => false

/-- Whether an event tells of a session that has failed. -/
@[simp] def isFailure : TunnelEvent → Bool
  | sessionFailed _ _ _ => true
  | _ => false

/-- Whether an event tells of the end of a listener. -/
@[simp] def isStop : TunnelEvent → Bool
  | listenerStopped _ _ => true
  | _ => false

end TunnelEvent

/-- The ids given to clients, in order. -/
def acceptedIds (events : List TunnelEvent) : List UInt64 :=
  events.filterMap TunnelEvent.accepted?

/-- The ids of the sessions that have ended, in order. -/
def endedIds (events : List TunnelEvent) : List UInt64 :=
  events.filterMap TunnelEvent.ended?

/-- How many clients were turned away. -/
def rejections (events : List TunnelEvent) : Nat := events.countP TunnelEvent.isRejection

/-- How many sessions have failed. -/
def failures (events : List TunnelEvent) : Nat := events.countP TunnelEvent.isFailure

/-- The clients that were accepted, in order. -/
def acceptedClients (events : List TunnelEvent) : List SocketAddress :=
  events.filterMap TunnelEvent.acceptedClient?

/-- The clients that were turned away, in order. -/
def rejectedClients (events : List TunnelEvent) : List SocketAddress :=
  events.filterMap TunnelEvent.rejectedClient?

/-- The first ids, counted from one modulo 2^64. -/
def firstIds (count : Nat) : List UInt64 :=
  (List.range count).map fun i => UInt64.ofNat (i + 1)

/-- A session ends once, and only after its client was accepted: before each end of a session
    fewer sessions with its id have ended than clients were accepted under it. -/
def EndsAfterwards (events : List TunnelEvent) : Prop :=
  ∀ before event after id, events = before ++ event :: after → event.ended? = some id →
    (endedIds before).count id < (acceptedIds before).count id

/-- What is picked out of a list that grows at its end does so too. -/
theorem filterMap_concat {α β : Type} (pick : α → Option β) (items : List α) (item : α) :
    (items ++ [item]).filterMap pick = items.filterMap pick ++ (pick item).toList := by
  rw [List.filterMap_append, List.filterMap_cons]
  cases pick item <;> rfl

@[simp] theorem acceptedIds_concat (events : List TunnelEvent) (event : TunnelEvent) :
    acceptedIds (events ++ [event]) = acceptedIds events ++ event.accepted?.toList :=
  filterMap_concat ..

@[simp] theorem endedIds_concat (events : List TunnelEvent) (event : TunnelEvent) :
    endedIds (events ++ [event]) = endedIds events ++ event.ended?.toList :=
  filterMap_concat ..

@[simp] theorem acceptedClients_concat (events : List TunnelEvent) (event : TunnelEvent) :
    acceptedClients (events ++ [event]) =
      acceptedClients events ++ event.acceptedClient?.toList :=
  filterMap_concat ..

@[simp] theorem rejectedClients_concat (events : List TunnelEvent) (event : TunnelEvent) :
    rejectedClients (events ++ [event]) =
      rejectedClients events ++ event.rejectedClient?.toList :=
  filterMap_concat ..

/-- Each client was accepted under the id at its place. -/
theorem mem_zip_accepted {events : List TunnelEvent} {id : UInt64} {client : SocketAddress}
    (accepted : .clientAccepted id client ∈ events) :
    (id, client) ∈ (acceptedIds events).zip (acceptedClients events) := by
  induction events with
  | nil => cases accepted
  | cons event events ih =>
    rcases List.mem_cons.mp accepted with rfl | later
    · exact List.mem_cons_self
    · have among := ih later
      cases event with
      | clientAccepted => exact List.mem_cons_of_mem _ among
      | clientRejected | sessionClosed | sessionFailed | listenerStopped => exact among

@[simp] theorem rejections_concat (events : List TunnelEvent) (event : TunnelEvent) :
    rejections (events ++ [event]) = rejections events + event.isRejection.toNat := by
  rw [rejections, List.countP_append, List.countP_singleton]
  cases event.isRejection <;> rfl

@[simp] theorem failures_concat (events : List TunnelEvent) (event : TunnelEvent) :
    failures (events ++ [event]) = failures events + event.isFailure.toNat := by
  rw [failures, List.countP_append, List.countP_singleton]
  cases event.isFailure <;> rfl

theorem firstIds_succ (count : Nat) :
    firstIds (count + 1) = firstIds count ++ [UInt64.ofNat (count + 1)] := by
  simp [firstIds, List.range_succ]

/-- With fewer than 2^64 clients every one has an id of its own. -/
theorem nodup_firstIds {count : Nat} (few : count < UInt64.size) : (firstIds count).Nodup := by
  rw [firstIds, List.Nodup, List.pairwise_map]
  refine List.pairwise_lt_range.imp_of_mem ?_
  intro i j _ member less same
  have bound := List.mem_range.mp member
  have equal := congrArg UInt64.toNat same
  simp only [UInt64.size] at few
  simp only [UInt64.toNat_ofNat'] at equal
  omega

theorem EndsAfterwards.concat {events : List TunnelEvent} {event : TunnelEvent}
    (h : EndsAfterwards events)
    (last : ∀ id, event.ended? = some id →
      (endedIds events).count id < (acceptedIds events).count id) :
    EndsAfterwards (events ++ [event]) := by
  intro before other after id split ends
  obtain rfl | ⟨rest, final, rfl⟩ := List.eq_nil_or_concat after
  · obtain ⟨rfl, same⟩ := List.append_inj' split rfl
    cases same
    exact last id ends
  · rw [List.concat_eq_append, ← List.cons_append, ← List.append_assoc] at split
    exact h before other rest id (List.append_inj' split rfl).1 ends

/-! ## Receptions -/

/-- A listener and what can be observed of it. -/
structure Reception where
  listener : Listener
  /-- The events so far, oldest first. -/
  events : List TunnelEvent := []
  traffic : Traffic := {}
  /-- The sessions that were begun, with their clients. -/
  begun : List (UInt64 × SocketAddress) := []
  /-- For each time that a session asked for a token to connect to the relay, its id and its
      client. -/
  dials : List (UInt64 × SocketAddress) := []
  /-- Whether the listener was told to stop, or why accepting has failed. -/
  halted : Option (Option String) := none

namespace Reception

/-- Something that can happen at a reception. -/
inductive Event where
  /-- To the listener. -/
  | happens (happening : ListenerHappening)
  /-- A session asks for a token and, if there is one, connects to the relay. It may do so
      any number of times. -/
  | dials (id : UInt64) (client : SocketAddress)

namespace Event

/-- The client that an event brings if the policy admits it. -/
@[simp] def admitted? : Event → Option SocketAddress
  | happens (.client client true) => some client
  | _ => none

/-- The client that an event brings if the policy does not admit it. -/
@[simp] def refused? : Event → Option SocketAddress
  | happens (.client client false) => some client
  | _ => none

end Event

/-- The clients that the policy has admitted, in the order of their coming. -/
def admittedClients (events : List Event) : List SocketAddress := events.filterMap Event.admitted?

/-- The clients that the policy has not admitted, in the order of their coming. -/
def refusedClients (events : List Event) : List SocketAddress := events.filterMap Event.refused?

theorem admittedClients_cons (event : Event) (events : List Event) :
    admittedClients (event :: events) = event.admitted?.toList ++ admittedClients events := by
  rw [admittedClients, List.filterMap_cons]
  cases event.admitted? <;> rfl

theorem refusedClients_cons (event : Event) (events : List Event) :
    refusedClients (event :: events) = event.refused?.toList ++ refusedClients events := by
  rw [refusedClients, List.filterMap_cons]
  cases event.refused? <;> rfl

/-- What is observed of something that the listener does. -/
def note (r : Reception) : ListenerAction → Reception
  | .publish event => { r with events := r.events ++ [event] }
  | .count entry => { r with traffic := r.traffic.record entry }
  | .beginSession id client => { r with begun := r.begun ++ [(id, client)] }
  | .turnAway _ | .closeSocket => r

/-- The reception after a move of its listener. -/
def after (r : Reception) (move : Listener.Move) : Reception :=
  move.2.foldl note { r with listener := move.1 }

/-- Note that the listener is told to stop or that accepting fails. -/
def halt (r : Reception) : ListenerHappening → Reception
  | .cancelled => { r with halted := some none }
  | .acceptFailed detail => { r with halted := some (some detail) }
  | .client _ _ | .sessionEnded _ _ _ => r

/-- The reception after an event; `none` if it cannot happen. There are no sessions but those
    that the listener has begun. -/
def step? (r : Reception) : Event → Option Reception
  | .happens happening => (r.listener.step? happening).map (r.halt happening).after
  | .dials id client =>
    if r.begun.contains (id, client) then some { r with dials := r.dials ++ [(id, client)] }
    else none

/-- The reception after a series of events. -/
def run? (r : Reception) : List Event → Option Reception
  | [] => some r
  | event :: events => (r.step? event).bind (run? · events)

/-- The reception of a listener that begins to accept clients. -/
def start (admission : Admission) (limit : Option UInt64) : Reception :=
  after { listener := { admission, limit } } (Listener.start admission limit)

variable {r r' : Reception}

/-! ## Moves -/

/-- A client has been accepted. -/
def accept (r : Reception) (client : SocketAddress) : Reception :=
  let id := r.listener.summary.accepted + 1
  { r with
    listener :=
      { r.listener with
        summary := { r.listener.summary with accepted := id }
        sessions := r.listener.sessions ++ [(id, client)] }
    events := r.events ++ [.clientAccepted id client]
    traffic := r.traffic.record .accepted
    begun := r.begun ++ [(id, client)] }

/-- A client has been turned away. -/
def turnAway (r : Reception) (client : SocketAddress) : Reception :=
  { r with
    listener :=
      { r.listener with
        summary := { r.listener.summary with rejected := r.listener.summary.rejected + 1 } }
    events := r.events ++ [.clientRejected client]
    traffic := r.traffic.record .rejected }

/-- The event about the end of a session. -/
def endEvent (id : UInt64) (client : SocketAddress) :
    Except SessionError ClientTraffic → TunnelEvent
  | .ok traffic => .sessionClosed id client traffic.sent traffic.received
  | .error e => .sessionFailed id client e.message

/-- A session has ended. -/
def endSession (r : Reception) (id : UInt64) (client : SocketAddress)
    (result : Except SessionError ClientTraffic) : Reception :=
  { r with
    listener := { r.listener with sessions := r.listener.sessions.erase (id, client) }
    events := r.events ++ [endEvent id client result]
    traffic :=
      match result with
      | .ok _ => r.traffic
      | .error _ => r.traffic.record .failed }

/-- No more clients are accepted, and with the last session the listener has stopped. -/
def close (r : Reception) (failure : Option String) : Reception :=
  if r.listener.sessions = [] then
    { r with
      listener := { r.listener with phase := .stopped failure }
      events := r.events ++
        [.listenerStopped r.listener.summary.accepted r.listener.summary.rejected] }
  else
    { r with listener := { r.listener with phase := .draining failure } }

section

variable (failure : Option String) (id : UInt64) (client : SocketAddress)
  (result : Except SessionError ClientTraffic)

@[simp] theorem acceptedIds_close :
    acceptedIds (r.close failure).events = acceptedIds r.events := by
  unfold close
  split <;> simp

@[simp] theorem rejections_close :
    rejections (r.close failure).events = rejections r.events := by
  unfold close
  split <;> simp

@[simp] theorem acceptedClients_close :
    acceptedClients (r.close failure).events = acceptedClients r.events := by
  unfold close
  split <;> simp

@[simp] theorem rejectedClients_close :
    rejectedClients (r.close failure).events = rejectedClients r.events := by
  unfold close
  split <;> simp

theorem close_ne_accepting : (r.close failure).listener.phase ≠ .accepting := by
  unfold close
  split <;> simp

@[simp] theorem acceptedIds_endSession :
    acceptedIds (r.endSession id client result).events = acceptedIds r.events := by
  cases result <;> simp [endSession, endEvent]

@[simp] theorem rejections_endSession :
    rejections (r.endSession id client result).events = rejections r.events := by
  cases result <;> simp [endSession, endEvent]

@[simp] theorem acceptedClients_endSession :
    acceptedClients (r.endSession id client result).events = acceptedClients r.events := by
  cases result <;> simp [endSession, endEvent]

@[simp] theorem rejectedClients_endSession :
    rejectedClients (r.endSession id client result).events = rejectedClients r.events := by
  cases result <;> simp [endSession, endEvent]

end

theorem after_drain (failure : Option String) :
    r.after (r.listener.drain failure) = r.close failure := by
  unfold Listener.drain close
  simp only [List.isEmpty_iff]
  split <;> rfl

theorem after_stopAccepting (failure : Option String) :
    r.after (r.listener.stopAccepting failure) = r.close failure :=
  after_drain failure

theorem after_checkLimit :
    r.after r.listener.checkLimit = if r.listener.isFull then r.close none else r := by
  unfold Listener.checkLimit
  split
  · exact after_stopAccepting none
  · rfl

theorem after_meet (client : SocketAddress) (admitted : Bool) :
    r.after (r.listener.meet client admitted) =
      if admitted then (r.accept client).after (r.accept client).listener.checkLimit
      else r.turnAway client := by
  unfold Listener.meet
  split <;> rfl

theorem after_endSession_draining {failure : Option String}
    (drains : r.listener.phase = .draining failure) (id : UInt64) (client : SocketAddress)
    (result : Except SessionError ClientTraffic) :
    r.after (r.listener.endSession id client result) =
      (r.endSession id client result).close failure := by
  rw [← after_drain]
  simp only [Listener.endSession]
  split
  next other same =>
    cases same.symm.trans drains
    cases result <;> rfl
  next phase => cases phase.symm.trans drains
  next phase => cases phase.symm.trans drains

theorem after_endSession_idle (idle : ∀ failure, r.listener.phase ≠ .draining failure)
    (id : UInt64) (client : SocketAddress) (result : Except SessionError ClientTraffic) :
    r.after (r.listener.endSession id client result) = r.endSession id client result := by
  simp only [Listener.endSession]
  split
  next failure drains => exact absurd drains (idle failure)
  all_goals cases result <;> rfl

/-- What a reception can do. -/
inductive Step (r : Reception) : Event → Reception → Prop
  | accepted {client : SocketAddress} (accepting : r.listener.phase = .accepting)
    (may : r.listener.admission.mayDecide client true = true)
    (room : (r.accept client).listener.isFull = false) :
    Step r (.happens (.client client true)) (r.accept client)
  | acceptedLast {client : SocketAddress} (accepting : r.listener.phase = .accepting)
    (may : r.listener.admission.mayDecide client true = true)
    (full : (r.accept client).listener.isFull = true) :
    Step r (.happens (.client client true)) ((r.accept client).close none)
  | turnedAway {client : SocketAddress} (accepting : r.listener.phase = .accepting)
    (may : r.listener.admission.mayDecide client false = true) :
    Step r (.happens (.client client false)) (r.turnAway client)
  | told (accepting : r.listener.phase = .accepting) :
    Step r (.happens .cancelled) (close { r with halted := some none } none)
  | failed {detail : String} (accepting : r.listener.phase = .accepting) :
    Step r (.happens (.acceptFailed detail))
      (close { r with halted := some (some detail) } (some detail))
  | ended {id : UInt64} {client : SocketAddress} {result : Except SessionError ClientTraffic}
    (running : (id, client) ∈ r.listener.sessions)
    (idle : ∀ failure, r.listener.phase ≠ .draining failure) :
    Step r (.happens (.sessionEnded id client result)) (r.endSession id client result)
  | drained {id : UInt64} {client : SocketAddress} {result : Except SessionError ClientTraffic}
    {failure : Option String} (running : (id, client) ∈ r.listener.sessions)
    (drains : r.listener.phase = .draining failure) :
    Step r (.happens (.sessionEnded id client result))
      ((r.endSession id client result).close failure)
  | dialled {id : UInt64} {client : SocketAddress} (began : (id, client) ∈ r.begun) :
    Step r (.dials id client) { r with dials := r.dials ++ [(id, client)] }

theorem step_of_step? {event : Event} (stepped : r.step? event = some r') : r.Step event r' := by
  cases event with
  | dials id client =>
    simp only [step?, Option.ite_none_right_eq_some, Option.some.injEq] at stepped
    obtain ⟨began, rfl⟩ := stepped
    exact .dialled (List.contains_iff_mem.mp began)
  | happens happening =>
    obtain ⟨move, moved, rfl⟩ := Option.map_eq_some_iff.mp stepped
    cases happening with
    | client client admitted =>
      simp only [Listener.step?, Option.ite_none_right_eq_some, Option.some.injEq] at moved
      obtain ⟨⟨accepting, may⟩, rfl⟩ := moved
      rw [halt, after_meet, after_checkLimit]
      cases admitted with
      | true =>
        rw [if_pos rfl]
        split
        next full => exact .acceptedLast accepting may full
        next room => exact .accepted accepting may (by simpa using room)
      | false => exact .turnedAway accepting may
    | acceptFailed detail =>
      simp only [Listener.step?, Option.ite_none_right_eq_some, Option.some.injEq] at moved
      obtain ⟨accepting, rfl⟩ := moved
      exact after_stopAccepting (r := r.halt (.acceptFailed detail)) _ ▸ .failed accepting
    | cancelled =>
      simp only [Listener.step?, Option.ite_none_right_eq_some, Option.some.injEq] at moved
      obtain ⟨accepting, rfl⟩ := moved
      exact after_stopAccepting (r := r.halt .cancelled) _ ▸ .told accepting
    | sessionEnded id client result =>
      simp only [Listener.step?, Option.ite_none_right_eq_some, Option.some.injEq] at moved
      obtain ⟨running, rfl⟩ := moved
      rw [halt]
      cases phase : r.listener.phase with
      | draining failure =>
        rw [after_endSession_draining phase]
        exact .drained running phase
      | accepting | stopped failure =>
        have idle : ∀ failure, r.listener.phase ≠ .draining failure := by simp [phase]
        rw [after_endSession_idle idle]
        exact .ended running idle

/-! ## Runs -/

theorem start_eq (admission : Admission) (limit : Option UInt64) :
    start admission limit =
      let r : Reception := { listener := { admission, limit } }
      if r.listener.isFull then r.close none else r :=
  after_checkLimit (r := { listener := { admission, limit } })

/-- What every step preserves holds throughout a run. -/
theorem run?_invariant {P : Reception → Prop} (steps : ∀ r event r', P r → r.Step event r' → P r')
    (holds : P r) {events : List Event} (run : r.run? events = some r') : P r' := by
  induction events generalizing r with
  | nil =>
    cases run
    exact holds
  | cons event events ih =>
    obtain ⟨next, stepped, rest⟩ := Option.bind_eq_some_iff.mp run
    exact ih (steps r event next holds (step_of_step? stepped)) rest

end Reception

end RelayTunnel
