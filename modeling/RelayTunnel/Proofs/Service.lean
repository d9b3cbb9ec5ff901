import RelayTunnel.Proofs.Accounts
import RelayTunnel.Proofs.Stopping

/-!
# A listener and its sessions

A service is the reception of a listener together with the relayings of the clients that it
has accepted, any number of them, each in any phase. Telling the tunnel to stop reaches all of
them at once, and the listener and every relaying take notice of it when they come to it.
`Service.Kept` says that the listener reports exactly the sessions that have ended, with what
has come of them, and so of a session that only the stop has ended whether it is told to have
failed.
-/

namespace RelayTunnel

/-! ## Reports -/

/-- Whether an event tells of the end of a session. -/
def TunnelEvent.isReport (event : TunnelEvent) : Bool := event.ended?.isSome

/-- The events that tell of the ends of sessions. -/
def reports (events : List TunnelEvent) : List TunnelEvent := events.filter TunnelEvent.isReport

theorem reports_concat (events : List TunnelEvent) {event : TunnelEvent}
    (other : event.isReport = false) : reports (events ++ [event]) = reports events := by
  simp [reports, other]

/-- Only the end of a session tells of a failure. -/
theorem failures_eq_countP_reports (events : List TunnelEvent) :
    failures events = (reports events).countP TunnelEvent.isFailure := by
  rw [reports, List.countP_filter]
  refine List.countP_congr fun event _ => ?_
  cases event <;> simp [TunnelEvent.isReport]

namespace Reception

variable {r r' : Reception} {happening : ListenerHappening}

@[simp] theorem isReport_endEvent (id : UInt64) (client : SocketAddress)
    (result : Except SessionError ClientTraffic) :
    (endEvent id client result).isReport = true := by
  cases result <;> rfl

/-- What the sessions of a listener see of something other than the end of one of them. -/
inductive Admits (r r' : Reception) : Prop
  /-- A session begins. -/
  | begins {session : UInt64 × SocketAddress} (begun : r'.begun = r.begun ++ [session])
      (running : r'.listener.sessions = r.listener.sessions ++ [session])
      (silent : reports r'.events = reports r.events)
  | stays (begun : r'.begun = r.begun) (running : r'.listener.sessions = r.listener.sessions)
      (silent : reports r'.events = reports r.events)

/-- Closing the socket is nothing that the sessions see. -/
theorem close_frame (failure : Option String) :
    (r.close failure).begun = r.begun ∧
      (r.close failure).listener.sessions = r.listener.sessions ∧
      reports (r.close failure).events = reports r.events := by
  unfold close
  split
  · exact ⟨rfl, rfl, reports_concat _ rfl⟩
  · exact ⟨rfl, rfl, rfl⟩

theorem Admits.close (h : r.Admits r') (failure : Option String) :
    r.Admits (r'.close failure) := by
  obtain ⟨begun, running, silent⟩ := close_frame (r := r') failure
  cases h with
  | begins b s e => exact .begins (begun.trans b) (running.trans s) (silent.trans e)
  | stays b s e => exact .stays (begun.trans b) (running.trans s) (silent.trans e)

theorem Step.admits (step : r.Step (.happens happening) r')
    (other : ∀ id client result, happening ≠ .sessionEnded id client result) : r.Admits r' := by
  have accepted (client : SocketAddress) : r.Admits (r.accept client) :=
    .begins rfl rfl (reports_concat _ rfl)
  have halted (why : Option (Option String)) : r.Admits { r with halted := why } :=
    .stays rfl rfl rfl
  cases step with
  | accepted => exact accepted _
  | acceptedLast => exact (accepted _).close none
  | turnedAway => exact .stays rfl rfl (reports_concat _ rfl)
  | told => exact (halted _).close none
  | failed => exact (halted _).close _
  | ended | drained => exact absurd rfl (other _ _ _)

/-- The end of a session is reported. -/
theorem Step.ends {id : UInt64} {client : SocketAddress}
    {result : Except SessionError ClientTraffic}
    (step : r.Step (.happens (.sessionEnded id client result)) r') :
    r'.begun = r.begun ∧ r'.listener.sessions = r.listener.sessions.erase (id, client) ∧
      reports r'.events = reports r.events ++ [endEvent id client result] := by
  have reported : reports (r.endSession id client result).events =
      reports r.events ++ [endEvent id client result] := by
    simp [endSession, reports]
  cases step with
  | ended => exact ⟨rfl, rfl, reported⟩
  | @drained _ _ _ failure =>
    obtain ⟨begun, running, silent⟩ := close_frame (r := r.endSession id client result) failure
    exact ⟨begun, running, silent.trans reported⟩

/-- The end of a session that runs can be reported. -/
theorem step?_sessionEnded_ne_none {id : UInt64} {client : SocketAddress}
    (running : (id, client) ∈ r.listener.sessions) (result : Except SessionError ClientTraffic) :
    r.step? (.happens (.sessionEnded id client result)) ≠ none := by
  simp [step?, Listener.step?, running]

end Reception

/-! ## Sessions -/

/-- A session: the client that it was begun for, its relaying, and what has been observed of
    it. -/
structure Seat where
  id : UInt64
  client : SocketAddress
  relaying : Relaying
  /-- Whether something other than the stop of the tunnel has ended the relaying or its stream. -/
  broken : Bool := false
  /-- Whether a write to its stream was refused. -/
  refused : Bool := false

namespace Seat

/-- A session that begins, the tunnel having been told to stop or not. -/
def ofSession (told : Bool) (session : UInt64 × SocketAddress) : Seat :=
  { id := session.1, client := session.2, relaying := { cancelled := told } }

/-- The session as its listener knows it. -/
def session (seat : Seat) : UInt64 × SocketAddress := (seat.id, seat.client)

/-- What has come of the session if it has ended. -/
def result? (seat : Seat) : Option (Except SessionError ClientTraffic) :=
  match seat.relaying.phase with
  | .ended result => some result
  | _ => none

/-- Whether the session has not ended. -/
def isRunning (seat : Seat) : Bool := seat.result?.isNone

/-- The event that tells of the end of the session if it has ended. -/
def report? (seat : Seat) : Option TunnelEvent :=
  seat.result?.map (Reception.endEvent seat.id seat.client)

/-- Whether the session has ended with an error. -/
def hasFailed (seat : Seat) : Bool := seat.result?.any fun result => !result.toBool

/-- The tunnel is told to stop. -/
def tell (seat : Seat) : Seat := { seat with relaying := seat.relaying.tell }

/-- The session after something has happened to it. It is not told to end but with the whole
    tunnel. -/
def step? (settings : RelaySettings) (seat : Seat) (happening : RelayingHappening) :
    Option Seat :=
  if happening.isTelling then none
  else
    (seat.relaying.step? settings happening).map fun (relaying, _) =>
      { seat with
        relaying
        broken := seat.broken || seat.relaying.isBrokenBy settings happening
        refused := seat.refused || seat.relaying.isRefusedBy happening }

/-- Nothing but the stop of the tunnel has ended the session. -/
def Fair (seat : Seat) : Prop := seat.broken = false → seat.relaying.Unhindered seat.refused

variable {settings : RelaySettings} {seat seat' : Seat} {happening : RelayingHappening}

theorem fair_ofSession (told : Bool) (session : UInt64 × SocketAddress) :
    (ofSession told session).Fair := fun _ => .start told

theorem Fair.tell (h : seat.Fair) : seat.tell.Fair := fun whole => (h whole).tell

/-- What happens to a session happens to its relaying. -/
theorem moves_of_step? (stepped : seat.step? settings happening = some seat') :
    happening.isTelling = false ∧ ∃ relaying actions,
      seat.relaying.step? settings happening = some (relaying, actions) ∧
        seat' = { seat with
          relaying
          broken := seat.broken || seat.relaying.isBrokenBy settings happening
          refused := seat.refused || seat.relaying.isRefusedBy happening } := by
  obtain ⟨other, stepped⟩ := Option.ite_none_left_eq_some.mp stepped
  obtain ⟨⟨relaying, actions⟩, moved, same⟩ := Option.map_eq_some_iff.mp stepped
  exact ⟨by simpa using other, relaying, actions, moved, same.symm⟩

theorem Fair.step (h : seat.Fair) (stepped : seat.step? settings happening = some seat') :
    seat'.Fair := by
  obtain ⟨other, relaying, actions, moved, rfl⟩ := moves_of_step? stepped
  intro whole
  obtain ⟨before, unbroken⟩ := Bool.or_eq_false_iff.mp whole
  exact (h before).step moved other unbroken

theorem step?_session (stepped : seat.step? settings happening = some seat') :
    seat'.session = seat.session := by
  obtain ⟨-, relaying, actions, -, rfl⟩ := moves_of_step? stepped
  rfl

theorem step?_cancelled (stepped : seat.step? settings happening = some seat') :
    seat'.relaying.cancelled = seat.relaying.cancelled := by
  obtain ⟨other, relaying, actions, moved, rfl⟩ := moves_of_step? stepped
  exact Relaying.step?_cancelled moved other

/-- Things happen to sessions that have not ended. -/
theorem result?_of_step? (stepped : seat.step? settings happening = some seat') :
    seat.result? = none := by
  obtain ⟨other, relaying, actions, moved, -⟩ := moves_of_step? stepped
  cases phase : seat.relaying.phase with
  | ended result =>
    cases happening with
    | cancel => cases other
    | _ => simp [Relaying.step?, phase] at moved
  | _ => simp [result?, phase]

theorem phase_of_result? {result : Except SessionError ClientTraffic}
    (ended : seat.result? = some result) : seat.relaying.phase = .ended result := by
  unfold result? at ended
  split at ended
  · rename_i phase
    rw [phase, Option.some.inj ended]
  · cases ended

theorem result?_ofSession (told : Bool) (session : UInt64 × SocketAddress) :
    (ofSession told session).result? = none := rfl

theorem report?_of_result? {seat : Seat} (running : seat.result? = none) :
    seat.report? = none := by
  rw [report?, running]
  rfl

theorem isRunning_of_result? {seat : Seat} (running : seat.result? = none) :
    seat.isRunning = true := by
  rw [isRunning, running]
  rfl

end Seat

/-! ## Services -/

/-- A listener and its sessions. -/
structure Service where
  reception : Reception
  /-- The sessions that were begun, in that order. -/
  seats : List Seat := []
  /-- Whether the tunnel was told to stop. -/
  told : Bool := false

namespace Service

/-- Something that can happen to a service. -/
inductive Event where
  /-- A client has connected, and the policy has decided about it. -/
  | client (address : SocketAddress) (admitted : Bool)
  | acceptFailed (detail : String)
  /-- The tunnel is told to stop. -/
  | told
  /-- The listener takes notice of that. -/
  | notice
  /-- Something happens to one of the sessions. -/
  | session (number : Nat) (happening : RelayingHappening)
  deriving DecidableEq, Repr

/-- The service after something has happened to its listener, which may begin sessions. -/
def hear? (s : Service) (happening : ListenerHappening) : Option Service :=
  (s.reception.step? (.happens happening)).map fun reception =>
    { s with
      reception
      seats := s.seats ++
        (reception.begun.drop s.seats.length).map (Seat.ofSession s.told) }

/-- The service with a session that has gone on. Once that has ended, the listener is told
    what has come of it. -/
def seat? (s : Service) (number : Nat) (seat : Seat) : Option Service :=
  let s := { s with seats := s.seats.set number seat }
  match seat.result? with
  | none => some s
  | some result => s.hear? (.sessionEnded seat.id seat.client result)

/-- The service after an event; `none` if it cannot happen. -/
def step? (settings : RelaySettings) (s : Service) : Event → Option Service
  | .client address admitted => s.hear? (.client address admitted)
  | .acceptFailed detail => s.hear? (.acceptFailed detail)
  | .told => some { s with told := true, seats := s.seats.map Seat.tell }
  | .notice => if s.told then s.hear? .cancelled else none
  | .session number happening =>
    s.seats[number]?.bind fun seat =>
      (seat.step? settings happening).bind (s.seat? number)

/-- The service after a series of events. -/
def run? (settings : RelaySettings) (s : Service) : List Event → Option Service
  | [] => some s
  | event :: events => (s.step? settings event).bind (run? settings · events)

/-- The service of a listener that begins to accept clients. -/
def start (admission : Admission) (limit : Option UInt64) : Service :=
  { reception := .start admission limit }

variable {settings : RelaySettings} {admission : Admission} {limit : Option UInt64}
  {s s' : Service} {happening : ListenerHappening}

/-- A session of a service and the others. -/
theorem exists_split {seats : List Seat} {number : Nat} {seat : Seat}
    (found : seats[number]? = some seat) (other : Seat) :
    ∃ front back, seats = front ++ seat :: back ∧
      seats.set number other = front ++ other :: back := by
  induction seats generalizing number with
  | nil => cases found
  | cons first seats ih =>
    cases number with
    | zero =>
      cases found
      exact ⟨[], seats, rfl, rfl⟩
    | succ number =>
      obtain ⟨front, back, all, replaced⟩ := ih found
      exact ⟨first :: front, back, congrArg _ all, congrArg _ replaced⟩

/-- Listener and sessions agree. -/
structure Kept (admission : Admission) (limit : Option UInt64) (s : Service) : Prop where
  books : s.reception.Books admission limit
  staged : s.reception.Staged
  begun : s.reception.begun = s.seats.map Seat.session
  running : s.reception.listener.sessions.Perm ((s.seats.filter Seat.isRunning).map Seat.session)
  reported : (reports s.reception.events).Perm (s.seats.filterMap Seat.report?)
  told : ∀ seat ∈ s.seats, seat.relaying.cancelled = s.told
  fair : ∀ seat ∈ s.seats, seat.Fair

namespace Kept

theorem start (admission : Admission) (limit : Option UInt64) :
    (Service.start admission limit).Kept admission limit := by
  have run : (Reception.start admission limit).run? [] =
      some (Reception.start admission limit) := rfl
  obtain ⟨books, staged⟩ := Reception.books_staged_of_run run
  have frame : (Reception.start admission limit).begun = [] ∧
      (Reception.start admission limit).listener.sessions = [] ∧
      reports (Reception.start admission limit).events = [] := by
    rw [Reception.start_eq]
    dsimp only
    split
    · exact Reception.close_frame none
    · exact ⟨rfl, rfl, rfl⟩
  obtain ⟨begun, running, silent⟩ := frame
  exact {
    books
    staged
    begun
    running := by simp [Service.start, running]
    reported := by simp [Service.start, silent]
    told := fun seat member => by cases member
    fair := fun seat member => by cases member }

/-- The tunnel is told to stop. -/
theorem tell (h : s.Kept admission limit) :
    Kept admission limit { s with told := true, seats := s.seats.map Seat.tell } where
  books := h.books
  staged := h.staged
  begun := by
    rw [List.map_map]
    exact h.begun
  running := by
    have same : ((s.seats.map Seat.tell).filter Seat.isRunning).map Seat.session =
        (s.seats.filter Seat.isRunning).map Seat.session := by
      rw [List.filter_map, List.map_map]
      rfl
    rw [same]
    exact h.running
  reported := by
    rw [List.filterMap_map]
    exact h.reported
  told seat member := by
    obtain ⟨seat, -, rfl⟩ := List.mem_map.mp member
    rfl
  fair seat member := by
    obtain ⟨seat, before, rfl⟩ := List.mem_map.mp member
    exact (h.fair seat before).tell

/-- Something other than the end of a session happens to the listener. -/
theorem hear (h : s.Kept admission limit) (other : ∀ id client result,
      happening ≠ .sessionEnded id client result)
    (heard : s.hear? happening = some s') : s'.Kept admission limit := by
  obtain ⟨reception, stepped, rfl⟩ := Option.map_eq_some_iff.mp heard
  have step := Reception.step_of_step? stepped
  have books := h.books.step step h.staged.room
  have staged := h.staged.step step
  have all : s.reception.begun.length = s.seats.length := by simp [h.begun]
  cases step.admits other with
  | @begins session begun running silent =>
    have fresh : reception.begun.drop s.seats.length = [session] := by
      rw [begun, ← all, List.drop_left]
    rw [fresh]
    refine ⟨books, staged, ?_, ?_, ?_, ?_, ?_⟩
    · rw [begun, h.begun, List.map_append]
      rfl
    · rw [running, List.filter_append, List.map_append]
      exact h.running.append_right _
    · rw [silent, List.filterMap_append]
      simpa [Seat.report?_of_result? (Seat.result?_ofSession ..)] using h.reported
    · intro seat member
      rcases List.mem_append.mp member with member | member
      · exact h.told seat member
      · cases List.mem_singleton.mp member
        rfl
    · intro seat member
      rcases List.mem_append.mp member with member | member
      · exact h.fair seat member
      · cases List.mem_singleton.mp member
        exact Seat.fair_ofSession s.told session
  | stays begun running silent =>
    have none : reception.begun.drop s.seats.length = [] := by
      rw [begun, ← all, List.drop_length]
    rw [none, List.map_nil, List.append_nil]
    refine ⟨books, staged, begun.trans h.begun, ?_, ?_, h.told, h.fair⟩
    · rw [running]
      exact h.running
    · rw [silent]
      exact h.reported

/-- Something happens to a session. -/
theorem seat (h : s.Kept admission limit) {number : Nat} {seat seat' : Seat}
    {happening : RelayingHappening} (found : s.seats[number]? = some seat)
    (stepped : seat.step? settings happening = some seat')
    (seated : s.seat? number seat' = some s') : s'.Kept admission limit := by
  obtain ⟨front, back, all, replaced⟩ := exists_split found seat'
  have same := Seat.step?_session stepped
  have ran := Seat.result?_of_step? stepped
  have before : seat ∈ s.seats := List.mem_of_getElem? found
  have begun : (front ++ seat' :: back).map Seat.session = s.seats.map Seat.session := by
    rw [all, List.map_append, List.map_cons, List.map_append, List.map_cons, same]
  have told : ∀ other ∈ front ++ seat' :: back, other.relaying.cancelled = s.told := by
    intro other member
    rcases List.mem_append.mp member with member | member
    · exact h.told other (all ▸ List.mem_append_left _ member)
    · rcases List.mem_cons.mp member with rfl | member
      · rw [Seat.step?_cancelled stepped]
        exact h.told seat before
      · exact h.told other (all ▸ List.mem_append_right _ (List.mem_cons_of_mem _ member))
  have fair : ∀ other ∈ front ++ seat' :: back, other.Fair := by
    intro other member
    rcases List.mem_append.mp member with member | member
    · exact h.fair other (all ▸ List.mem_append_left _ member)
    · rcases List.mem_cons.mp member with rfl | member
      · exact (h.fair seat before).step stepped
      · exact h.fair other (all ▸ List.mem_append_right _ (List.mem_cons_of_mem _ member))
  -- what runs and what is reported besides this session
  have running := h.running
  have reported := h.reported
  rw [all, List.filter_append, List.filter_cons_of_pos (Seat.isRunning_of_result? ran)] at running
  rw [all, List.filterMap_append, List.filterMap_cons_none (Seat.report?_of_result? ran)]
    at reported
  unfold seat? at seated
  dsimp only at seated
  rw [replaced] at seated
  split at seated
  next goesOn =>
    cases seated
    refine ⟨h.books, h.staged, h.begun.trans begun.symm, ?_, ?_, told, fair⟩
    · rw [List.filter_append, List.filter_cons_of_pos (Seat.isRunning_of_result? goesOn)]
      simpa [same] using running
    · rw [List.filterMap_append, List.filterMap_cons_none (Seat.report?_of_result? goesOn)]
      exact reported
  next result ended =>
    obtain ⟨reception, heard, rfl⟩ := Option.map_eq_some_iff.mp seated
    have step := Reception.step_of_step? heard
    obtain ⟨begins, erased, added⟩ := step.ends
    have stopped : seat'.isRunning = false := by rw [Seat.isRunning, ended]; rfl
    have report : seat'.report? = some (Reception.endEvent seat'.id seat'.client result) := by
      rw [Seat.report?, ended]
      rfl
    have none : reception.begun.drop (front ++ seat' :: back).length = [] := by
      rw [begins, h.begun, ← begun, List.drop_eq_nil_of_le (by simp)]
    dsimp only
    rw [none, List.map_nil, List.append_nil]
    refine ⟨h.books.step step h.staged.room, h.staged.step step,
      (begins.trans h.begun).trans begun.symm, ?_, ?_, told, fair⟩
    · rw [erased, List.filter_append, List.filter_cons_of_neg (by simp [stopped]),
        List.map_append]
      rw [List.map_append, List.map_cons, ← same] at running
      have rest := (running.trans List.perm_middle).erase seat'.session
      rwa [List.erase_cons_head] at rest
    · rw [added, List.filterMap_append, List.filterMap_cons_some report]
      have all := reported.append_right [Reception.endEvent seat'.id seat'.client result]
      rw [List.append_assoc] at all
      exact all.trans ((List.perm_append_singleton _ _).append_left _)

/-- What one step preserves. -/
theorem step {event : Event} (h : s.Kept admission limit)
    (stepped : s.step? settings event = some s') : s'.Kept admission limit := by
  cases event with
  | client address admitted => exact h.hear (by simp) stepped
  | acceptFailed detail => exact h.hear (by simp) stepped
  | told =>
    cases stepped
    exact h.tell
  | notice => exact h.hear (by simp) (Option.ite_none_right_eq_some.mp stepped).2
  | session number happening =>
    obtain ⟨seat, found, stepped⟩ := Option.bind_eq_some_iff.mp stepped
    obtain ⟨seat', moved, seated⟩ := Option.bind_eq_some_iff.mp stepped
    exact h.seat found moved seated

/-- What every run preserves. -/
theorem run {events : List Event} (h : s.Kept admission limit)
    (run : s.run? settings events = some s') : s'.Kept admission limit := by
  induction events generalizing s with
  | nil =>
    cases run
    exact h
  | cons event events ih =>
    obtain ⟨next, stepped, rest⟩ := Option.bind_eq_some_iff.mp run
    exact ih (h.step stepped) rest

/-- The sessions that have ended with an error are those that are told to have failed. -/
theorem failures_eq (h : s.Kept admission limit) :
    failures s.reception.events = s.seats.countP Seat.hasFailed := by
  rw [failures_eq_countP_reports, h.reported.countP_eq, List.countP_filterMap]
  refine List.countP_congr fun seat _ => ?_
  unfold Seat.report? Seat.hasFailed
  cases seat.result? with
  | none => simp
  | some result => cases result <;> simp [Reception.endEvent, Except.toBool]

/-- The end of a session is reported. -/
theorem report_mem (h : s.Kept admission limit) {seat : Seat} (member : seat ∈ s.seats)
    {result : Except SessionError ClientTraffic} (ended : seat.relaying.phase = .ended result) :
    Reception.endEvent seat.id seat.client result ∈ s.reception.events := by
  have report : seat.report? = some (Reception.endEvent seat.id seat.client result) := by
    rw [Seat.report?, Seat.result?, ended]
    rfl
  have among := h.reported.mem_iff.mpr (List.mem_filterMap.mpr ⟨seat, member, report⟩)
  exact (List.mem_filter.mp among).1

/-- Whatever can happen to a session, the listener takes the end that comes of it. -/
theorem step?_session_ne_none (h : s.Kept admission limit) {number : Nat} {seat seat' : Seat}
    {happening : RelayingHappening} (found : s.seats[number]? = some seat)
    (moved : seat.step? settings happening = some seat') :
    s.step? settings (.session number happening) ≠ none := by
  have running : seat'.session ∈ s.reception.listener.sessions := by
    rw [h.running.mem_iff, Seat.step?_session moved]
    refine List.mem_map_of_mem (List.mem_filter.mpr ⟨List.mem_of_getElem? found, ?_⟩)
    exact Seat.isRunning_of_result? (Seat.result?_of_step? moved)
  simp only [step?, found, Option.bind_some, moved, seat?]
  split
  · exact Option.some_ne_none _
  · rw [hear?, ne_eq, Option.map_eq_none_iff]
    exact Reception.step?_sessionEnded_ne_none running _

end Kept

/-- Whatever clients come and whatever happens to their sessions, however many there are and in
    whichever phases the stop of the tunnel finds them:

    - the listener reports each session once that has ended, and counts those that have failed;
    - a session that nothing but the stop has ended is told to be closed, with what it has
      carried, unless its stream was still being opened or a write to it was refused: then it is
      told to have failed, the stream being closed;
    - what can happen to a session is never held up by its listener. -/
theorem stopped_sessions_reported (settings : RelaySettings) (admission : Admission)
    (limit : Option UInt64) (events : List Event) (s : Service)
    (run : (start admission limit).run? settings events = some s) :
    (reports s.reception.events).Perm (s.seats.filterMap Seat.report?) ∧
      failures s.reception.events = s.seats.countP Seat.hasFailed ∧
      s.reception.traffic.failed = UInt64.ofNat (failures s.reception.events) ∧
      (∀ seat ∈ s.seats, seat.broken = false →
        ∀ result, seat.relaying.phase = .ended result → s.told = true ∧
          if seat.relaying.stream = none ∨ seat.refused = true then
            result = .error (.relay .streamClosed) ∧
              .sessionFailed seat.id seat.client "stream closed" ∈ s.reception.events
          else
            result = .ok seat.relaying.traffic ∧
              .sessionClosed seat.id seat.client seat.relaying.traffic.sent
                seat.relaying.traffic.received ∈ s.reception.events) ∧
      ∀ number seat happening, s.seats[number]? = some seat →
        seat.step? settings happening ≠ none →
          s.step? settings (.session number happening) ≠ none := by
  have kept := (Kept.start admission limit).run run
  refine ⟨kept.reported, kept.failures_eq, kept.books.countedFailed, ?_, ?_⟩
  · intro seat member whole result ended
    have unhindered := kept.fair seat member whole
    rw [Relaying.Unhindered, ended] at unhindered
    obtain ⟨told, came⟩ := unhindered
    have report := kept.report_mem member ended
    refine ⟨(kept.told seat member).symm.trans told, ?_⟩
    split
    next cut =>
      rw [if_pos cut] at came
      subst came
      exact ⟨rfl, report⟩
    next orderly =>
      rw [if_neg orderly] at came
      subst came
      exact ⟨rfl, report⟩
  · intro number seat happening found possible
    obtain ⟨seat', moved⟩ := Option.ne_none_iff_exists'.mp possible
    exact kept.step?_session_ne_none found moved

/-- Of two sessions the stop finds one idle and the other one before its stream is open. -/
theorem stopped_sessions_reported_idle_and_opening :
    let client (port : Nat) : SocketAddress := { ip := .v4 0x7f000001, port }
    let events : List Event :=
      [.client (client 1) true, .client (client 2) true, .session 0 (.opened "s"), .told, .notice,
        .session 1 .notice, .session 0 (.carrier .notice), .session 0 (.carrier .closeOver),
        .session 0 .goOnDown, .session 0 .streamEnded]
    ∃ s, (start (.custom fun _ => true) none).run? {} events = some s ∧ s.told = true ∧
      (∀ seat ∈ s.seats, seat.broken = false) ∧
      .sessionClosed 1 (client 1) 0 0 ∈ s.reception.events ∧
      .sessionFailed 2 (client 2) "stream closed" ∈ s.reception.events := by
  intro client events
  have ran : ((start (.custom fun _ => true) none).run? {} events).any (fun s =>
      s.seats.all (!·.broken) ∧
        s.seats.any (fun seat => seat.id = 1 ∧ seat.client = client 1 ∧
          seat.relaying.traffic = {} ∧ seat.refused = false ∧ seat.relaying.stream.isSome ∧
          seat.result?.isSome) ∧
        s.seats.any (fun seat => seat.id = 2 ∧ seat.client = client 2 ∧
          seat.relaying.stream = none ∧ seat.result?.isSome)) = true := by
    decide +kernel
  obtain ⟨s, run, found⟩ := (Option.any_eq_true ..).mp ran
  obtain ⟨whole, idle, opening⟩ := of_decide_eq_true found
  have whole : ∀ seat ∈ s.seats, seat.broken = false := by simpa using whole
  obtain ⟨seat, first, idle⟩ := List.any_eq_true.mp idle
  obtain ⟨one, of_one, traffic, taken, opened, ended⟩ := of_decide_eq_true idle
  obtain ⟨other, second, opening⟩ := List.any_eq_true.mp opening
  obtain ⟨two, of_two, unopened, came⟩ := of_decide_eq_true opening
  have said := (stopped_sessions_reported {} _ none events s run).2.2.2.1
  obtain ⟨result, ended⟩ := Option.isSome_iff_exists.mp ended
  obtain ⟨told, closed⟩ := said seat first (whole seat first) result (Seat.phase_of_result? ended)
  rw [if_neg (by simp [taken, Option.isSome_iff_ne_none.mp opened]), one, of_one, traffic] at closed
  obtain ⟨result, came⟩ := Option.isSome_iff_exists.mp came
  obtain ⟨-, failed⟩ := said other second (whole other second) result (Seat.phase_of_result? came)
  rw [if_pos (.inl unopened), two, of_two] at failed
  exact ⟨s, run, told, whole, closed.2, failed.2⟩

/-- A session is told to have failed although nothing but the stop of the tunnel has ended it. -/
theorem stop_fails_opening_session :
    let client : SocketAddress := { ip := .v4 0x7f000001, port := 1 }
    ∃ s, (start (.custom fun _ => true) none).run? {}
        [.client client true, .told, .session 0 .notice, .notice] = some s ∧
      s.seats.length = 1 ∧ (∀ seat ∈ s.seats, seat.broken = false) ∧
      s.reception.events = [.clientAccepted 1 client, .sessionFailed 1 client "stream closed",
        .listenerStopped 1 0] ∧
      s.reception.traffic.failed = 1 := by
  intro client
  have ran : ((start (.custom fun _ => true) none).run? {}
      [.client client true, .told, .session 0 .notice, .notice]).any (fun s =>
        s.seats.length = 1 ∧ s.seats.all (!·.broken) ∧
          s.reception.events = [.clientAccepted 1 client, .sessionFailed 1 client "stream closed",
            .listenerStopped 1 0] ∧
          s.reception.traffic.failed = 1) = true := by
    decide +kernel
  obtain ⟨s, run, found⟩ := (Option.any_eq_true ..).mp ran
  obtain ⟨one, whole, events, failed⟩ := of_decide_eq_true found
  exact ⟨s, run, one, by simpa using whole, events, failed⟩

end Service

end RelayTunnel
