import RelayTunnel.Proofs.Reception

/-!
# The accounts of a listener

`Reception.Books` says that the events, the summary and the counters of a listener tell the
same story about the same clients, and `Reception.Staged` when the last event has been
published. Every step preserves both. `Reception.Shut` says that a listener that accepts no
more clients has done with them.

What the policy decides about a client is part of its coming. A custom policy may decide in two
ways about one address, so who was accepted and who was turned away is told by the order in
which they came (`Reception.clients_of_start`).
-/

namespace RelayTunnel

/-- A policy that is not a custom one goes by the address alone. -/
theorem Admission.mayDecide_iff {admission : Admission}
    (fixed : ∀ accepts, admission ≠ .custom accepts) {client : SocketAddress} {admitted : Bool} :
    admission.mayDecide client admitted = true ↔ admission.admits client = admitted := by
  cases admission with
  | custom accepts => exact absurd rfl (fixed accepts)
  | allowAll | loopbackOnly | allowList networks => exact decide_eq_true_iff

namespace Reception

variable {r r' : Reception}

/-! ## The books -/

/-- Listener, events and counters agree about the clients. -/
structure Books (admission : Admission) (limit : Option UInt64) (r : Reception) : Prop where
  sameAdmission : r.listener.admission = admission
  sameLimit : r.listener.limit = limit
  ids : acceptedIds r.events = firstIds (acceptedIds r.events).length
  ordered : EndsAfterwards r.events
  /-- Every client that was accepted has a session that runs or has ended. -/
  sessions : ∀ id, (r.listener.sessions.map Prod.fst).count id + (endedIds r.events).count id =
    (acceptedIds r.events).count id
  begun : ∀ session ∈ r.begun, .clientAccepted session.1 session.2 ∈ r.events
  admitted : ∀ session ∈ r.begun, admission.mayDecide session.2 true = true
  barred : ∀ client, .clientRejected client ∈ r.events →
    admission.mayDecide client false = true
  dialled : ∀ dial ∈ r.dials, dial ∈ r.begun
  accepted : r.listener.summary.accepted = UInt64.ofNat (acceptedIds r.events).length
  rejected : r.listener.summary.rejected = UInt64.ofNat (rejections r.events)
  countedAccepted : r.traffic.accepted = UInt64.ofNat (acceptedIds r.events).length
  countedRejected : r.traffic.rejected = UInt64.ofNat (rejections r.events)
  countedFailed : r.traffic.failed = UInt64.ofNat (failures r.events)
  within : ∀ most ∈ limit, (acceptedIds r.events).length ≤ most.toNat

namespace Books

variable {admission : Admission} {limit : Option UInt64}

theorem empty (admission : Admission) (limit : Option UInt64) :
    Books admission limit { listener := { admission, limit } } where
  sameAdmission := rfl
  sameLimit := rfl
  ids := rfl
  ordered before event after id split := by cases before <;> cases split
  sessions _ := rfl
  begun _ member := by cases member
  admitted _ member := by cases member
  barred _ member := by cases member
  dialled _ member := by cases member
  accepted := rfl
  rejected := rfl
  countedAccepted := rfl
  countedRejected := rfl
  countedFailed := rfl
  within _ _ := Nat.zero_le _

/-- It does not matter how far the listener has come, nor why. -/
theorem congr (h : r.Books admission limit) (phase : ListenerPhase)
    (halted : Option (Option String)) :
    Books admission limit { r with listener := { r.listener with phase }, halted } :=
  { h with }

/-- Another time that a session asks for a token. -/
theorem dial (h : r.Books admission limit) {session : UInt64 × SocketAddress}
    (began : session ∈ r.begun) :
    Books admission limit { r with dials := r.dials ++ [session] } :=
  { h with
    dialled := fun dial member => by
      rcases List.mem_append.mp member with member | member
      · exact h.dialled dial member
      · exact List.mem_singleton.mp member ▸ began }

/-- The end of the listener is no news of a client. -/
theorem close (h : r.Books admission limit) (failure : Option String) :
    (r.close failure).Books admission limit := by
  unfold Reception.close
  split
  next =>
    exact {
      h.congr (.stopped failure) r.halted with
      ids := by simpa using h.ids
      ordered := h.ordered.concat (by simp)
      sessions := by simpa using h.sessions
      begun := fun session member => List.mem_append_left _ (h.begun session member)
      barred := by simpa using h.barred
      accepted := by simpa using h.accepted
      rejected := by simpa using h.rejected
      countedAccepted := by simpa using h.countedAccepted
      countedRejected := by simpa using h.countedRejected
      countedFailed := by simpa using h.countedFailed
      within := by simpa using h.within }
  next => exact h.congr (.draining failure) r.halted

/-- A client is turned away, which does not count towards the limit. -/
theorem turnAway (h : r.Books admission limit) {client : SocketAddress}
    (refused : r.listener.admission.mayDecide client false = true) :
    (r.turnAway client).Books admission limit where
  sameAdmission := h.sameAdmission
  sameLimit := h.sameLimit
  ids := by simpa [Reception.turnAway] using h.ids
  ordered := h.ordered.concat (by simp)
  sessions := by simpa [Reception.turnAway] using h.sessions
  begun session member := List.mem_append_left _ (h.begun session member)
  admitted := h.admitted
  barred other member := by
    rcases List.mem_append.mp member with member | member
    · exact h.barred other member
    · cases List.mem_singleton.mp member
      exact h.sameAdmission ▸ refused
  dialled := h.dialled
  accepted := by simpa [Reception.turnAway] using h.accepted
  rejected := by simp [Reception.turnAway, h.rejected]
  countedAccepted := by simpa [Reception.turnAway, Traffic.record] using h.countedAccepted
  countedRejected := by simp [Reception.turnAway, Traffic.record, h.countedRejected]
  countedFailed := by simpa [Reception.turnAway, Traffic.record] using h.countedFailed
  within := by simpa [Reception.turnAway] using h.within

/-- A client is accepted below the limit. -/
theorem accept (h : r.Books admission limit) {client : SocketAddress}
    (welcome : r.listener.admission.mayDecide client true = true)
    (below : ∀ most ∈ limit, (acceptedIds r.events).length < most.toNat) :
    (r.accept client).Books admission limit where
  sameAdmission := h.sameAdmission
  sameLimit := h.sameLimit
  ids := by
    have last : r.listener.summary.accepted + 1 =
        UInt64.ofNat ((acceptedIds r.events).length + 1) := by simp [h.accepted]
    simp [Reception.accept, firstIds_succ, ← h.ids, last]
  ordered := h.ordered.concat (by simp)
  sessions id := by
    have balance := h.sessions id
    simp only [Reception.accept, acceptedIds_concat, endedIds_concat, TunnelEvent.accepted?,
      TunnelEvent.ended?, Option.toList_some, Option.toList_none, List.append_nil,
      List.map_append, List.map_cons, List.map_nil, List.count_append]
    omega
  begun session member := by
    rcases List.mem_append.mp member with member | member
    · exact List.mem_append_left _ (h.begun session member)
    · cases List.mem_singleton.mp member
      exact List.mem_append_right _ (List.mem_singleton.mpr rfl)
  admitted session member := by
    rcases List.mem_append.mp member with member | member
    · exact h.admitted session member
    · cases List.mem_singleton.mp member
      exact h.sameAdmission ▸ welcome
  barred := by simpa [Reception.accept] using h.barred
  dialled dial member := List.mem_append_left _ (h.dialled dial member)
  accepted := by simp [Reception.accept, h.accepted]
  rejected := by simpa [Reception.accept] using h.rejected
  countedAccepted := by simp [Reception.accept, Traffic.record, h.countedAccepted]
  countedRejected := by simpa [Reception.accept, Traffic.record] using h.countedRejected
  countedFailed := by simpa [Reception.accept, Traffic.record] using h.countedFailed
  within := by simpa [Reception.accept, Nat.succ_le_iff] using below

/-- A session that runs has ended. -/
theorem endSession (h : r.Books admission limit) {id : UInt64} {client : SocketAddress}
    (running : (id, client) ∈ r.listener.sessions)
    (result : Except SessionError ClientTraffic) :
    (r.endSession id client result).Books admission limit := by
  have left (other : UInt64) : (r.listener.sessions.map Prod.fst).count other =
      [id].count other + ((r.listener.sessions.erase (id, client)).map Prod.fst).count other := by
    have same := ((List.perm_cons_erase running).map Prod.fst).count_eq other
    rw [same, List.map_cons, ← List.singleton_append, List.count_append]
  have before : (endedIds r.events).count id < (acceptedIds r.events).count id := by
    have balance := h.sessions id
    have one := left id
    simp only [List.count_singleton_self] at one
    omega
  have last : (endEvent id client result).ended? = some id := by cases result <;> rfl
  exact {
    sameAdmission := h.sameAdmission
    sameLimit := h.sameLimit
    ids := by simpa using h.ids
    ordered := h.ordered.concat fun other same => by
      cases last.symm.trans same
      exact before
    sessions := fun other => by
      have balance := h.sessions other
      have left := left other
      have ended : endedIds (r.endSession id client result).events = endedIds r.events ++ [id] := by
        cases result <;> simp [Reception.endSession, endEvent]
      rw [acceptedIds_endSession, ended, List.count_append]
      simp only [Reception.endSession]
      omega
    begun := fun session member => List.mem_append_left _ (h.begun session member)
    admitted := h.admitted
    barred := by cases result <;> simpa [Reception.endSession, endEvent] using h.barred
    dialled := h.dialled
    accepted := by cases result <;> simpa [Reception.endSession, endEvent] using h.accepted
    rejected := by cases result <;> simpa [Reception.endSession, endEvent] using h.rejected
    countedAccepted := by
      cases result <;>
        simpa [Reception.endSession, endEvent, Traffic.record] using h.countedAccepted
    countedRejected := by
      cases result <;>
        simpa [Reception.endSession, endEvent, Traffic.record] using h.countedRejected
    countedFailed := by
      cases result <;>
        simpa [Reception.endSession, endEvent, Traffic.record] using h.countedFailed
    within := by simpa using h.within }

/-- The limit is reached when as many clients have been accepted. -/
theorem isFull_iff (h : r.Books admission limit) :
    r.listener.isFull = true ↔ ∃ most ∈ limit, (acceptedIds r.events).length = most.toNat := by
  have accepted (most : UInt64) (limited : most ∈ limit) :
      most ≤ r.listener.summary.accepted ↔ (acceptedIds r.events).length = most.toNat := by
    have within := h.within most limited
    rw [h.accepted, UInt64.le_iff_toNat_le,
      UInt64.toNat_ofNat_of_lt' (Nat.lt_of_le_of_lt within most.toNat_lt)]
    omega
  rw [Listener.isFull, h.sameLimit, Option.any_eq_true]
  exact exists_congr fun most => and_congr_right fun limited => by simp [accepted most limited]

/-- What one step preserves. -/
theorem step (h : r.Books admission limit) {event : Event} (step : r.Step event r')
    (room : r.listener.phase = .accepting → r.listener.isFull = false) :
    r'.Books admission limit := by
  have below (accepting : r.listener.phase = .accepting) (most : UInt64) (limited : most ∈ limit) :
      (acceptedIds r.events).length < most.toNat := by
    have within := h.within most limited
    have few : ¬(acceptedIds r.events).length = most.toNat := fun same =>
      Bool.eq_false_iff.mp (room accepting) (h.isFull_iff.mpr ⟨most, limited, same⟩)
    omega
  cases step with
  | accepted accepting admitted => exact h.accept admitted (below accepting)
  | acceptedLast accepting admitted => exact (h.accept admitted (below accepting)).close none
  | turnedAway accepting refused => exact h.turnAway refused
  | told => exact (h.congr r.listener.phase (some none)).close none
  | @failed detail => exact (h.congr r.listener.phase (some (some detail))).close (some detail)
  | ended running => exact h.endSession running _
  | drained running => exact (h.endSession running _).close _
  | dialled began => exact h.dial began

end Books

/-! ## How far a listener has come -/

/-- No end of the listener is among the events. -/
def Unstopped (events : List TunnelEvent) : Prop := ∀ event ∈ events, event.isStop = false

theorem Unstopped.concat {events : List TunnelEvent} {event : TunnelEvent}
    (h : Unstopped events) (other : event.isStop = false) : Unstopped (events ++ [event]) := by
  intro some member
  rcases List.mem_append.mp member with member | member
  · exact h some member
  · exact List.mem_singleton.mp member ▸ other

/-- Why a listener accepts no more clients: it was told to stop, accepting has failed, or the
    limit is reached. -/
def Reason (failure : Option String) (r : Reception) : Prop :=
  r.halted = some failure ∨ r.halted = none ∧ failure = none ∧ r.listener.isFull = true

/-- What is the case while a listener accepts clients, while it waits for sessions, and once it
    has stopped. -/
def Staged (r : Reception) : Prop :=
  match r.listener.phase with
  | .accepting => r.halted = none ∧ r.listener.isFull = false ∧ Unstopped r.events
  | .draining failure => r.Reason failure ∧ r.listener.sessions ≠ [] ∧ Unstopped r.events
  | .stopped failure =>
    r.Reason failure ∧ r.listener.sessions = [] ∧
      ∃ front, Unstopped front ∧ r.events = front ++
        [.listenerStopped r.listener.summary.accepted r.listener.summary.rejected]

namespace Staged

theorem room (h : r.Staged) (accepting : r.listener.phase = .accepting) :
    r.listener.isFull = false := by
  rw [Staged, accepting] at h
  exact h.2.1

/-- A listener accepts no more clients for a reason. -/
theorem reason (h : r.Staged) (shut : r.listener.phase ≠ .accepting) :
    ∃ failure, r.Reason failure := by
  unfold Staged at h
  cases phase : r.listener.phase with
  | accepting => exact absurd phase shut
  | draining failure | stopped failure =>
    rw [phase] at h
    exact ⟨failure, h.1⟩

/-- Once it accepts no more clients, it has stopped without sessions. -/
theorem outcome?_ne_none (h : r.Staged) (shut : r.listener.phase ≠ .accepting)
    (empty : r.listener.sessions = []) : r.listener.outcome? ≠ none := by
  unfold Staged at h
  unfold Listener.outcome?
  cases phase : r.listener.phase with
  | accepting => exact absurd phase shut
  | draining failure =>
    rw [phase] at h
    exact absurd empty h.2.1
  | stopped failure => cases failure <;> exact Option.some_ne_none _

/-- Until it has stopped, no end of the listener has been published. -/
theorem unstopped (h : r.Staged) (running : r.listener.outcome? = none) : Unstopped r.events := by
  unfold Staged at h
  unfold Listener.outcome? at running
  cases phase : r.listener.phase with
  | accepting | draining failure =>
    rw [phase] at h
    exact h.2.2
  | stopped failure =>
    rw [phase] at running
    cases failure <;> cases running

/-- Once it has stopped, this was published last, and accepting has failed if that is what comes
    of the listener. -/
theorem stopped (h : r.Staged) {outcome : Except ListenerError ListenerSummary}
    (stopped : r.listener.outcome? = some outcome) :
    r.listener.sessions = [] ∧
      (∃ front, Unstopped front ∧ r.events = front ++
        [.listenerStopped r.listener.summary.accepted r.listener.summary.rejected]) ∧
      outcome =
        match r.halted with
        | some (some detail) => .error (.accept detail)
        | _ => .ok r.listener.summary := by
  unfold Staged at h
  unfold Listener.outcome? at stopped
  cases phase : r.listener.phase with
  | accepting | draining failure =>
    rw [phase] at stopped
    cases stopped
  | stopped failure =>
    rw [phase] at h stopped
    obtain ⟨why, empty, published⟩ := h
    refine ⟨empty, published, ?_⟩
    rcases why with halted | ⟨halted, rfl, -⟩
    · rw [halted]
      cases failure <;> exact (Option.some.inj stopped).symm
    · rw [halted]
      exact (Option.some.inj stopped).symm

theorem close {failure : Option String} (unstopped : Unstopped r.events)
    (reason : r.Reason failure) : (r.close failure).Staged := by
  unfold Reception.close
  split
  next none => exact ⟨reason, none, r.events, unstopped, rfl⟩
  next some => exact ⟨reason, some, unstopped⟩

theorem step (h : r.Staged) {event : Event} (step : r.Step event r') : r'.Staged := by
  cases step with
  | accepted accepting admitted room =>
    rw [Staged, accepting] at h
    rw [Staged, show (r.accept _).listener.phase = .accepting from accepting]
    exact ⟨h.1, room, h.2.2.concat rfl⟩
  | acceptedLast accepting admitted full =>
    rw [Staged, accepting] at h
    exact close (h.2.2.concat rfl) (.inr ⟨h.1, rfl, full⟩)
  | turnedAway accepting =>
    rw [Staged, accepting] at h
    rw [Staged, show (r.turnAway _).listener.phase = .accepting from accepting]
    exact ⟨h.1, h.2.1, h.2.2.concat rfl⟩
  | told accepting | failed accepting =>
    rw [Staged, accepting] at h
    exact close h.2.2 (.inl rfl)
  | @ended id client result running idle =>
    have other : (endEvent id client result).isStop = false := by cases result <;> rfl
    unfold Staged at h ⊢
    rw [show (r.endSession id client result).listener.phase = r.listener.phase from rfl]
    cases phase : r.listener.phase with
    | accepting =>
      rw [phase] at h
      exact ⟨h.1, h.2.1, h.2.2.concat other⟩
    | draining failure => exact absurd phase (idle failure)
    | stopped failure =>
      rw [phase] at h
      rw [h.2.1] at running
      cases running
  | @drained id client result failure running drains =>
    have other : (endEvent id client result).isStop = false := by cases result <;> rfl
    rw [Staged, drains] at h
    exact close (h.2.2.concat other) h.1
  | dialled => exact h

end Staged

/-- The books balance at every moment of a run, and the stages follow each other. -/
theorem books_staged_of_run {admission : Admission} {limit : Option UInt64} {events : List Event}
    (run : (start admission limit).run? events = some r) :
    r.Books admission limit ∧ r.Staged := by
  refine run?_invariant (P := fun r => r.Books admission limit ∧ r.Staged)
    (fun r event r' h step => ⟨h.1.step step h.2.room, h.2.step step⟩) ?_ run
  have books := Books.empty admission limit
  have unstopped : Unstopped [] := fun event member => by cases member
  rw [start_eq]
  dsimp only
  split
  next full => exact ⟨books.close none, .close unstopped (.inr ⟨rfl, rfl, full⟩)⟩
  next room => exact ⟨books, rfl, by simpa using room, unstopped⟩

/-! ## Who came -/

theorem Step.clients {event : Event} (step : r.Step event r') :
    acceptedClients r'.events = acceptedClients r.events ++ event.admitted?.toList ∧
      rejectedClients r'.events = rejectedClients r.events ++ event.refused?.toList := by
  cases step with
  | accepted | acceptedLast => simp [Reception.accept]
  | turnedAway => simp [Reception.turnAway]
  | told | failed | ended | drained | dialled => simp

/-- The clients accepted and turned away are those about which the policy has decided so, in the
    order of their coming. -/
theorem clients_of_run? {events : List Event} (run : r.run? events = some r') :
    acceptedClients r'.events = acceptedClients r.events ++ admittedClients events ∧
      rejectedClients r'.events = rejectedClients r.events ++ refusedClients events := by
  induction events generalizing r with
  | nil =>
    cases run
    simp [admittedClients, refusedClients]
  | cons event events ih =>
    obtain ⟨next, stepped, rest⟩ := Option.bind_eq_some_iff.mp run
    obtain ⟨welcome, bar⟩ := (step_of_step? stepped).clients
    obtain ⟨welcomes, bars⟩ := ih rest
    rw [welcomes, bars, welcome, bar, admittedClients_cons, refusedClients_cons]
    exact ⟨List.append_assoc .., List.append_assoc ..⟩

/-- So it is from the start. -/
theorem clients_of_start {admission : Admission} {limit : Option UInt64}
    {events : List Event} (run : (start admission limit).run? events = some r) :
    acceptedClients r.events = admittedClients events ∧
      rejectedClients r.events = refusedClients events := by
  have none : acceptedClients (start admission limit).events = [] ∧
      rejectedClients (start admission limit).events = [] := by
    rw [start_eq]
    dsimp only
    split
    · exact ⟨acceptedClients_close none, rejectedClients_close none⟩
    · exact ⟨rfl, rfl⟩
  obtain ⟨welcomes, bars⟩ := clients_of_run? run
  rw [none.1] at welcomes
  rw [none.2] at bars
  exact ⟨welcomes, bars⟩

/-- Whether the policy decides about each address in one way only. -/
def ByAddress (events : List Event) : Prop :=
  ∀ client ∈ admittedClients events, client ∉ refusedClients events

/-- With such a policy no client that was accepted comes from an address from which one was
    turned away. -/
theorem Books.not_barred {admission : Admission} {limit : Option UInt64}
    (h : r.Books admission limit) {events : List Event}
    (accepted : acceptedClients r.events = admittedClients events)
    (rejected : rejectedClients r.events = refusedClients events)
    (byAddress : (∀ accepts, admission ≠ .custom accepts) ∨ ByAddress events)
    {session : UInt64 × SocketAddress} (began : session ∈ r.begun) :
    .clientRejected session.2 ∉ r.events := by
  intro turned
  rcases byAddress with fixed | byAddress
  · have welcome := (Admission.mayDecide_iff fixed).mp (h.admitted session began)
    have refused := (Admission.mayDecide_iff fixed).mp (h.barred session.2 turned)
    cases welcome.symm.trans refused
  · refine byAddress session.2 ?_ ?_
    · rw [← accepted]
      exact List.mem_filterMap.mpr ⟨_, h.begun session began, rfl⟩
    · rw [← rejected]
      exact List.mem_filterMap.mpr ⟨_, turned, rfl⟩

/-! ## Behind closed doors -/

/-- A reception that takes no more clients, seen from an earlier one. -/
structure Shut (r r' : Reception) : Prop where
  shut : r'.listener.phase ≠ .accepting
  accepted : acceptedIds r'.events = acceptedIds r.events
  rejected : rejections r'.events = rejections r.events

namespace Shut

theorem step {earlier : Reception} {event : Event} (h : earlier.Shut r) (step : r.Step event r') :
    earlier.Shut r' := by
  cases step with
  | accepted accepting | acceptedLast accepting | turnedAway accepting | told accepting
  | failed accepting => exact absurd accepting h.shut
  | ended => exact ⟨h.shut, by simpa using h.accepted, by simpa using h.rejected⟩
  | drained =>
    exact ⟨close_ne_accepting _, by simpa using h.accepted, by simpa using h.rejected⟩
  | dialled => exact ⟨h.shut, h.accepted, h.rejected⟩

/-- Once a listener accepts no more clients it takes and turns away none. -/
theorem of_run (shut : r.listener.phase ≠ .accepting) {later : List Event}
    (run : r.run? later = some r') : r.Shut r' :=
  run?_invariant (fun _ _ _ => Shut.step) ⟨shut, rfl, rfl⟩ run

end Shut

/-! ## Whole runs -/

/-- Whatever clients come, whatever the policy decides about each of them, however and in
    whichever order their sessions end, whenever the listener is told to stop or accepting fails,
    and whatever the limit is:

    - those are accepted about whom the policy decides so, the others are turned away, and all
      in the order of their coming;
    - the clients that are accepted get the ids 1, 2, 3 and so on;
    - each end of a session is told once, and after its client was accepted;
    - the counters are the numbers of events;
    - only for clients that were accepted a token is asked for and the relay connected to, each
      under the id at its place, and none of them comes from where another one was turned away
      if the policy goes by the address;
    - no more clients are accepted than the limit says, and at the limit no more are accepted
      or turned away, which happens for no other reason than that or an interruption;
    - the end of the listener is told once it accepts no more clients and has no session any
      more: once, as the last event, when every session has ended, and with the same numbers as
      the summary that it returns. -/
theorem clients_accounted (admission : Admission) (limit : Option UInt64) (events : List Event)
    (r : Reception) (run : (start admission limit).run? events = some r) :
    let accepted := (acceptedIds r.events).length
    let rejected := rejections r.events
    acceptedClients r.events = admittedClients events ∧
      rejectedClients r.events = refusedClients events ∧
      acceptedIds r.events = firstIds accepted ∧
      (accepted < UInt64.size → (acceptedIds r.events).Nodup) ∧
      EndsAfterwards r.events ∧
      r.traffic.accepted = UInt64.ofNat accepted ∧
      r.traffic.rejected = UInt64.ofNat rejected ∧
      r.traffic.failed = UInt64.ofNat (failures r.events) ∧
      (∀ dial ∈ r.dials, .clientAccepted dial.1 dial.2 ∈ r.events ∧
        dial ∈ (firstIds accepted).zip (admittedClients events) ∧
        ((∀ accepts, admission ≠ .custom accepts) ∨ ByAddress events →
          .clientRejected dial.2 ∉ r.events)) ∧
      (∀ most ∈ limit, accepted ≤ most.toNat ∧
        (accepted = most.toNat → ∀ later r', r.run? later = some r' →
          acceptedIds r'.events = acceptedIds r.events ∧ rejections r'.events = rejected)) ∧
      (r.listener.phase ≠ .accepting →
        (r.halted ≠ none ∨ ∃ most ∈ limit, accepted = most.toNat) ∧
          (r.listener.sessions = [] → r.listener.outcome? ≠ none)) ∧
      (r.listener.outcome? = none → Unstopped r.events) ∧
      ∀ outcome, r.listener.outcome? = some outcome → ∃ front,
        r.events = front ++
            [.listenerStopped (UInt64.ofNat accepted) (UInt64.ofNat rejected)] ∧
          Unstopped front ∧
          (∀ id, (endedIds front).count id = (acceptedIds front).count id) ∧
          outcome =
            match r.halted with
            | some (some detail) => .error (.accept detail)
            | _ => .ok ⟨UInt64.ofNat accepted, UInt64.ofNat rejected⟩ := by
  intro accepted rejected
  obtain ⟨books, staged⟩ := books_staged_of_run run
  obtain ⟨taken, barred⟩ := clients_of_start run
  refine ⟨taken, barred, books.ids, fun few => ?_, books.ordered, books.countedAccepted,
    books.countedRejected, books.countedFailed, fun dial member => ?_, fun most limited => ?_,
    fun shut => ?_, staged.unstopped, fun outcome stopped => ?_⟩
  · rw [books.ids]
    exact nodup_firstIds few
  · have began := books.dialled dial member
    have welcome := books.begun dial began
    refine ⟨welcome, ?_, fun byAddress => books.not_barred taken barred byAddress began⟩
    rw [← books.ids, ← taken]
    exact mem_zip_accepted welcome
  · refine ⟨books.within most limited, fun reached later r' further => ?_⟩
    have full := books.isFull_iff.mpr ⟨most, limited, reached⟩
    have shut : r.listener.phase ≠ .accepting := fun accepting =>
      Bool.eq_false_iff.mp (staged.room accepting) full
    have same := Shut.of_run shut further
    exact ⟨same.accepted, same.rejected⟩
  · refine ⟨?_, staged.outcome?_ne_none shut⟩
    obtain ⟨failure, halted | ⟨-, -, full⟩⟩ := staged.reason shut
    · exact .inl (by simp [halted])
    · exact .inr (books.isFull_iff.mp full)
  · obtain ⟨empty, ⟨front, unstopped, split⟩, came⟩ := staged.stopped stopped
    have summary : r.listener.summary = ⟨UInt64.ofNat accepted, UInt64.ofNat rejected⟩ := by
      rw [← books.accepted, ← books.rejected]
    refine ⟨front, ?_, unstopped, fun id => ?_, ?_⟩
    · rw [← books.accepted, ← books.rejected]
      exact split
    · have balance := books.sessions id
      simpa [empty, split] using balance
    · rw [← summary]
      exact came

/-- Three clients of a listener with a limit of two, one of which is turned away; of the two
    sessions the second one ends first, with a failure. -/
theorem clients_accounted_turned_away :
    let client (port : Nat) : SocketAddress := { ip := .v4 0x7f000001, port }
    let events : List Event :=
      [.happens (.client (client 1) true), .happens (.client (client 9) false),
        .dials 1 (client 1), .happens (.client (client 2) true),
        .happens (.sessionEnded 2 (client 2) (.error (.relay .streamClosed))),
        .happens (.sessionEnded 1 (client 1) (.ok {}))]
    ∃ r, (start (.custom (·.port ≠ 9)) (some 2)).run? events = some r ∧
      r.listener.phase = .stopped none ∧ r.listener.sessions = [] ∧
      r.listener.outcome? = some (.ok ⟨2, 1⟩) ∧
      acceptedIds r.events = [1, 2] ∧ endedIds r.events = [2, 1] ∧
      ∃ front, r.events = front ++ [.listenerStopped 2 1] ∧ Unstopped front ∧
        ∀ id, (endedIds front).count id = (acceptedIds front).count id := by
  intro client events
  have ran : ((start (.custom (·.port ≠ 9)) (some 2)).run? events).any (fun r =>
      r.listener.phase = .stopped none ∧ r.listener.summary = ⟨2, 1⟩ ∧
        r.listener.sessions = [] ∧ acceptedIds r.events = [1, 2] ∧ rejections r.events = 1 ∧
        endedIds r.events = [2, 1]) = true := by
    decide +kernel
  obtain ⟨r, run, last⟩ := (Option.any_eq_true ..).mp ran
  simp only [decide_eq_true_eq] at last
  obtain ⟨stopped, summary, empty, accepted, rejected, ended⟩ := last
  have outcome : r.listener.outcome? = some (.ok ⟨2, 1⟩) := by
    rw [Listener.outcome?, stopped, summary]
  obtain ⟨front, split, unstopped, balance, -⟩ :=
    (clients_accounted _ _ events r run).2.2.2.2.2.2.2.2.2.2.2.2 _ outcome
  rw [accepted, rejected] at split
  exact ⟨r, run, stopped, empty, outcome, accepted, ended, front, split, unstopped, balance⟩

end Reception

end RelayTunnel
