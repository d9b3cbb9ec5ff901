import RelayTunnel.Tunnel.Lifetime

/-!
# Who gets the outcome of a tunnel

The handle on a tunnel may be used by any number of callers at once. They wait in turn, each of
them may give up while it waits, be it for its turn or for the listener, and meanwhile the
listener goes on: clients come, sessions end, and it takes notice at any time later of having
been told to stop. `Custody.Kept` says where every call has got to, and that the outcome of the
listener has either gone to the first call that was answered or is still there to be had.

What a call answers is up to the call (`Lifetime.Call.answer`): one with a limit keeps the outcome
to itself. If such a call is the first one, no caller is ever told of the outcome
(`Custody.shutDown_keeps_outcome`).
-/

namespace RelayTunnel

/-! ## What a listener has done -/

namespace ListenerAction

/-- The session that an action begins. -/
def begun? : ListenerAction → Option (UInt64 × SocketAddress)
  | beginSession id client => some (id, client)
  | _ => none

/-- The session of whose end an action tells. -/
def ended? : ListenerAction → Option (UInt64 × SocketAddress)
  | publish (.sessionClosed id client _ _) | publish (.sessionFailed id client _) =>
    some (id, client)
  | _ => none

end ListenerAction

/-- The sessions that a listener has begun, in order. -/
def begunSessions (did : List ListenerAction) : List (UInt64 × SocketAddress) :=
  did.filterMap ListenerAction.begun?

/-- The sessions of whose end a listener has told, in order. -/
def endedSessions (did : List ListenerAction) : List (UInt64 × SocketAddress) :=
  did.filterMap ListenerAction.ended?

theorem begunSessions_append (did more : List ListenerAction) :
    begunSessions (did ++ more) = begunSessions did ++ begunSessions more :=
  List.filterMap_append

theorem endedSessions_append (did more : List ListenerAction) :
    endedSessions (did ++ more) = endedSessions did ++ endedSessions more :=
  List.filterMap_append

/-- Every session that was begun has ended or is among those that run. -/
def Balanced (did : List ListenerAction) (running : List (UInt64 × SocketAddress)) : Prop :=
  (begunSessions did).Perm (endedSessions did ++ running)

namespace Balanced

variable {did more : List ListenerAction} {running : List (UInt64 × SocketAddress)}
  {session : UInt64 × SocketAddress}

theorem silent (h : Balanced did running) (begun : begunSessions more = [])
    (ended : endedSessions more = []) : Balanced (did ++ more) running := by
  rw [Balanced, begunSessions_append, endedSessions_append, begun, ended, List.append_nil,
    List.append_nil]
  exact h

theorem begins (h : Balanced did running) (begun : begunSessions more = [session])
    (ended : endedSessions more = []) : Balanced (did ++ more) (running ++ [session]) := by
  rw [Balanced, begunSessions_append, endedSessions_append, begun, ended, List.append_nil,
    ← List.append_assoc]
  exact h.append_right [session]

theorem finish (h : Balanced did running) (begun : begunSessions more = [])
    (ended : endedSessions more = [session]) (ran : session ∈ running) :
    Balanced (did ++ more) (running.erase session) := by
  rw [Balanced, begunSessions_append, endedSessions_append, begun, ended, List.append_nil,
    List.append_assoc]
  exact h.trans ((List.perm_cons_erase ran).append_left _)

end Balanced

namespace Listener

/-- What a listener has done goes with how far it has come. -/
structure Record (l : Listener) (did : List ListenerAction) : Prop where
  sessions : Balanced did l.sessions
  closed : l.phase ≠ .accepting → .closeSocket ∈ did
  empty : l.outcome? ≠ none → l.sessions = []

variable {l : Listener} {did : List ListenerAction} {happening : ListenerHappening} {move : Move}

theorem outcome?_of_accepting (accepting : l.phase = .accepting) : l.outcome? = none := by
  rw [outcome?, accepting]

/-- A listener that has stopped accepts no more clients. -/
theorem shut_of_outcome? (stopped : l.outcome? ≠ none) : l.phase ≠ .accepting :=
  fun accepting => stopped (outcome?_of_accepting accepting)

namespace Record

/-- While clients are accepted, only the sessions matter. -/
theorem of_accepting (accepting : l.phase = .accepting) (sessions : Balanced did l.sessions) :
    l.Record did where
  sessions
  closed shut := absurd accepting shut
  empty stopped := absurd accepting (shut_of_outcome? stopped)

/-- With its socket closed the listener stops unless there are sessions. -/
theorem drain (sessions : Balanced did l.sessions) (closed : .closeSocket ∈ did)
    (failure : Option String) :
    (l.drain failure).1.Record (did ++ (l.drain failure).2) := by
  unfold Listener.drain
  split
  next none =>
    exact {
      sessions := sessions.silent rfl rfl
      closed := fun _ => List.mem_append_left _ closed
      empty := fun _ => List.isEmpty_iff.mp none }
  next some =>
    exact {
      sessions := sessions.silent rfl rfl
      closed := fun _ => List.mem_append_left _ closed
      empty := fun stopped => absurd rfl stopped }

theorem stopAccepting (sessions : Balanced did l.sessions) (failure : Option String) :
    (l.stopAccepting failure).1.Record (did ++ (l.stopAccepting failure).2) := by
  -- the socket is closed before the listener looks for sessions
  have same : did ++ (l.stopAccepting failure).2 =
      did ++ [.closeSocket] ++ (l.drain failure).2 := by
    rw [List.append_assoc]
    rfl
  rw [same]
  exact drain (sessions.silent rfl rfl) (by simp) failure

theorem checkLimit (accepting : l.phase = .accepting) (sessions : Balanced did l.sessions) :
    l.checkLimit.1.Record (did ++ l.checkLimit.2) := by
  unfold Listener.checkLimit
  split
  next full => exact stopAccepting sessions none
  next room =>
    rw [List.append_nil]
    exact of_accepting accepting sessions

theorem start (admission : Admission) (limit : Option UInt64) :
    (Listener.start admission limit).1.Record (Listener.start admission limit).2 := by
  let l : Listener := { admission, limit }
  have sessions : Balanced [] l.sessions := .rfl
  have checked := checkLimit (l := l) rfl sessions
  exact checked

theorem meet (h : l.Record did) (accepting : l.phase = .accepting) (client : SocketAddress)
    (admitted : Bool) :
    (l.meet client admitted).1.Record (did ++ (l.meet client admitted).2) := by
  unfold Listener.meet
  split
  next admitted =>
    let id := l.summary.accepted + 1
    let begins : List ListenerAction :=
      [.count .accepted, .publish (.clientAccepted id client), .beginSession id client]
    dsimp only
    rw [show ∀ actions, did ++ .count .accepted :: .publish (.clientAccepted id client) ::
      .beginSession id client :: actions = did ++ begins ++ actions by simp [begins]]
    exact checkLimit accepting (h.sessions.begins rfl rfl)
  next barred => exact of_accepting accepting (h.sessions.silent rfl rfl)

theorem endSession (h : l.Record did) {id : UInt64} {client : SocketAddress}
    (running : (id, client) ∈ l.sessions) (result : Except SessionError ClientTraffic) :
    (l.endSession id client result).1.Record (did ++ (l.endSession id client result).2) := by
  -- the report alone keeps the sessions in balance; then the listener may stop
  have sessions : Balanced (did ++ reportEnd id client result)
      (l.sessions.erase (id, client)) := by
    cases result <;> exact h.sessions.finish rfl rfl running
  cases phase : l.phase with
  | accepting =>
    simp only [Listener.endSession, phase, List.append_nil]
    exact of_accepting rfl sessions
  | draining failure =>
    have closed : .closeSocket ∈ did ++ reportEnd id client result :=
      List.mem_append_left _ (h.closed (by simp [phase]))
    simp only [Listener.endSession, phase, ← List.append_assoc]
    exact drain sessions closed failure
  | stopped failure =>
    have stopped : l.outcome? ≠ none := by
      rw [outcome?, phase]
      cases failure <;> exact Option.some_ne_none _
    rw [h.empty stopped] at running
    cases running

theorem step (h : l.Record did) (stepped : l.step? happening = some move) :
    move.1.Record (did ++ move.2) := by
  cases happening with
  | client address admitted =>
    obtain ⟨⟨accepting, -⟩, moved⟩ := Option.ite_none_right_eq_some.mp stepped
    cases moved
    exact h.meet accepting address admitted
  | acceptFailed detail =>
    obtain ⟨-, moved⟩ := Option.ite_none_right_eq_some.mp stepped
    cases moved
    exact stopAccepting h.sessions _
  | cancelled =>
    obtain ⟨-, moved⟩ := Option.ite_none_right_eq_some.mp stepped
    cases moved
    exact stopAccepting h.sessions _
  | sessionEnded id client result =>
    obtain ⟨running, moved⟩ := Option.ite_none_right_eq_some.mp stepped
    cases moved
    exact h.endSession running result

/-- Nothing happens to a listener that has stopped. -/
theorem step?_eq_none (h : l.Record did) (stopped : l.outcome? ≠ none)
    (happening : ListenerHappening) : l.step? happening = none := by
  have shut := shut_of_outcome? stopped
  have empty := h.empty stopped
  cases happening <;> simp [step?, shut, empty]

/-- Once the listener has stopped, its socket is closed and all its sessions have ended. -/
theorem finished (h : l.Record did) (stopped : l.outcome? ≠ none) :
    .closeSocket ∈ did ∧ l.sessions = [] ∧ (begunSessions did).Perm (endedSessions did) := by
  have empty := h.empty stopped
  have sessions := h.sessions
  rw [Balanced, empty, List.append_nil] at sessions
  exact ⟨h.closed (shut_of_outcome? stopped), empty, sessions⟩

end Record

end Listener

/-! ## Those who wait -/

namespace Tunnel

/-- Those who wait, first the one whose turn it is. -/
def waiting (t : Tunnel) : List Nat := t.holder.toList ++ t.queue

/-- As long as anyone waits it is someone's turn. -/
def Orderly (t : Tunnel) : Prop := t.holder = none → t.queue = []

variable {t t' : Tunnel} {caller : Nat} {answer : TunnelOutcome}

theorem orderly_release (t : Tunnel) : t.release.Orderly := by
  intro none
  rw [release, List.head?_eq_none_iff.mp none]
  rfl

theorem orderly_join (t : Tunnel) (caller : Nat) : (t.join caller).Orderly := by
  intro none
  unfold join at none
  split at none
  next => cases none
  next held => exact absurd (Option.isNone_iff_eq_none.mpr none) held

theorem Orderly.abandon (h : t.Orderly) (caller : Nat) : (t.abandon caller).Orderly := by
  unfold Tunnel.abandon
  split
  · exact t.orderly_release
  · intro none
    rw [h none]
    rfl

theorem waiting_of_holder (held : t.holder = some caller) :
    t.waiting = caller :: t.release.waiting := by
  have rest : t.release.waiting = t.queue := by
    rw [waiting, release]
    cases t.queue <;> rfl
  rw [rest, waiting, held]
  rfl

/-- As long as anyone waits, the first one has its turn. -/
theorem Orderly.holder (h : t.Orderly) {others : List Nat}
    (waits : t.waiting = caller :: others) : t.holder = some caller := by
  cases held : t.holder with
  | none =>
    rw [waiting, held, h held] at waits
    cases waits
  | some first =>
    rw [waiting, held] at waits
    exact congrArg some (List.cons.inj waits).1

/-- Who comes waits behind the others. -/
theorem waiting_join (h : t.Orderly) (caller : Nat) :
    (t.join caller).waiting = t.waiting ++ [caller] := by
  unfold join
  split
  next free =>
    have none := Option.isNone_iff_eq_none.mp free
    rw [waiting, waiting, none, h none]
    rfl
  next held =>
    rw [waiting, waiting]
    exact (List.append_assoc _ _ _).symm

/-- Who gives up takes no one else along. -/
theorem waiting_abandon (once : t.waiting.Nodup) (waits : caller ∈ t.waiting) :
    t.waiting.Perm (caller :: (t.abandon caller).waiting) := by
  unfold abandon
  split
  next held => rw [waiting_of_holder held]
  next other =>
    -- everyone waits once, so the filter takes out one place in the queue
    have queued : t.queue.Nodup := (List.nodup_append.mp once).2.1
    have unheld : caller ∉ t.holder.toList := fun member => other (Option.mem_toList.mp member)
    have left : waiting { t with queue := t.queue.filter (· ≠ caller) } =
        t.waiting.erase caller := by
      rw [waiting, waiting, List.erase_append_right _ unheld, queued.erase_eq_filter]
      congr 1
      exact List.filter_congr fun other _ => Bool.eq_iff_iff.mpr (by simp)
    rw [left]
    exact List.perm_cons_erase waits

/-- Only who waits for the tunnel is touched when a caller comes. -/
theorem join_frame (t : Tunnel) (caller : Nat) :
    (t.join caller).listener = t.listener ∧ (t.join caller).handedOut = t.handedOut := by
  unfold join
  split <;> exact ⟨rfl, rfl⟩

theorem abandon_frame (t : Tunnel) (caller : Nat) :
    (t.abandon caller).listener = t.listener ∧ (t.abandon caller).handedOut = t.handedOut := by
  unfold abandon
  split <;> exact ⟨rfl, rfl⟩

/-- How the caller whose turn it is gets an answer. -/
inductive Completes (t : Tunnel) (caller : Nat) : TunnelOutcome → Tunnel → Prop
  | first {outcome : Except ListenerError ListenerSummary} (held : t.holder = some caller)
    (kept : t.handedOut = false) (stopped : t.listener.outcome? = some outcome) :
    Completes t caller (outcome.map some) { t with handedOut := true }.release
  | later (held : t.holder = some caller) (handed : t.handedOut = true) :
    Completes t caller (.ok none) t.release

theorem completes_iff : t.Completes caller answer t' ↔ t.complete? = some (caller, answer, t') := by
  constructor
  · intro completes
    cases completes with
    | first held kept stopped => simp [complete?, held, kept, stopped]
    | later held handed => simp [complete?, held, handed]
  · intro completed
    obtain ⟨holder, held, completed⟩ := Option.bind_eq_some_iff.mp completed
    split at completed
    next handed =>
      cases completed
      exact .later held handed
    next kept =>
      obtain ⟨outcome, stopped, completed⟩ := Option.bind_eq_some_iff.mp completed
      cases completed
      exact .first held (by simpa using kept) stopped

end Tunnel

/-! ## Courses of events -/

/-- A tunnel with all those who have called. -/
structure Custody where
  tunnel : Tunnel
  /-- What the listener has done so far. -/
  did : List ListenerAction
  /-- The calls there have been; each caller is known by how many came before it. -/
  calls : List Lifetime.Call := []
  /-- Who has been answered what, in that order. -/
  answers : List (Nat × Lifetime.Answer) := []
  /-- Who has given up, and what was answered if a limit was over. -/
  gone : List (Nat × Option Lifetime.Answer) := []

namespace Custody

/-- Something that can happen. -/
inductive Event where
  /-- The handle is used. -/
  | uses (use : Lifetime.Use)
  /-- A caller that waits is dropped. -/
  | drops (caller : Nat)
  /-- The limit of a caller that waits is over. -/
  | expires (caller : Nat)
  /-- The caller whose turn it is gets its answer. -/
  | completes
  /-- Something happens to the listener. -/
  | happens (happening : ListenerHappening)

/-- A caller comes. -/
def call (c : Custody) (how : Lifetime.Call) : Custody :=
  { c with tunnel := c.tunnel.join c.calls.length, calls := c.calls ++ [how] }

/-- The tunnel is told to stop, of which its listener may take notice from now on. -/
def tell (c : Custody) : Custody := { c with tunnel := { c.tunnel with cancelled := true } }

/-- What comes of using the handle. -/
def use (c : Custody) : Lifetime.Use → Custody
  | .call how => if how.tells then c.tell.call how else c.call how
  | .drop => c.tell

/-- A caller gives up. -/
def giveUp (c : Custody) (caller : Nat) (answer : Option Lifetime.Answer) : Custody :=
  { c with tunnel := c.tunnel.abandon caller, gone := c.gone ++ [(caller, answer)] }

/-- Whether something may happen to the listener: it was told to stop if the tunnel was. -/
def allows (c : Custody) : ListenerHappening → Bool
  | .cancelled => c.tunnel.cancelled
  | .client _ _ | .acceptFailed _ | .sessionEnded _ _ _ => true

/-- What comes of an event; `none` if it cannot happen. -/
def step? (c : Custody) : Event → Option Custody
  | .uses use => some (c.use use)
  | .drops caller => if caller ∈ c.tunnel.waiting then some (c.giveUp caller none) else none
  | .expires caller =>
    if caller ∈ c.tunnel.waiting then
      (c.calls[caller]?.bind Lifetime.Call.limit?).map fun limit =>
        c.giveUp caller (some (.overdue limit))
    else none
  | .completes =>
    c.tunnel.complete?.bind fun (caller, outcome, tunnel) =>
      c.calls[caller]?.map fun how =>
        { c with tunnel, answers := c.answers ++ [(caller, how.answer outcome)] }
  | .happens happening =>
    if c.allows happening then
      (c.tunnel.listener.step? happening).map fun (listener, actions) =>
        { c with tunnel := { c.tunnel with listener }, did := c.did ++ actions }
    else none

/-- What comes of a series of events. -/
def run? (c : Custody) : List Event → Option Custody
  | [] => some c
  | event :: events => (c.step? event).bind (run? · events)

/-- A tunnel that begins to accept clients. -/
def start (admission : Admission) (limit : Option UInt64) : Custody :=
  { tunnel := { listener := (Listener.start admission limit).1 }
    did := (Listener.start admission limit).2 }

/-- A caller has answered what its call makes of an outcome. -/
def Conveys (calls : List Lifetime.Call) (answer : Nat × Lifetime.Answer)
    (outcome : TunnelOutcome) : Prop :=
  ∃ how, calls[answer.1]? = some how ∧ answer.2 = how.answer outcome

/-- The first call that was answered got what came of the listener, the others nothing. -/
def Answered (calls : List Lifetime.Call)
    (outcome? : Option (Except ListenerError ListenerSummary)) :
    List (Nat × Lifetime.Answer) → Prop
  | [] => True
  | first :: later =>
    (∃ outcome, outcome? = some outcome ∧ Conveys calls first (outcome.map some)) ∧
      ∀ answer ∈ later, Conveys calls answer (.ok none)

/-- Who has answered on giving up is a call whose limit was over. -/
def Expired (calls : List Lifetime.Call) (gone : List (Nat × Option Lifetime.Answer)) : Prop :=
  ∀ caller answer, (caller, some answer) ∈ gone →
    ∃ limit, calls[caller]? = some (.shutDown limit) ∧ answer = .overdue limit

/-- Every call is somewhere, and so is the outcome of the listener. -/
structure Kept (c : Custody) : Prop where
  record : c.tunnel.listener.Record c.did
  orderly : c.tunnel.Orderly
  places : (c.answers.map Prod.fst ++ c.gone.map Prod.fst ++ c.tunnel.waiting).Perm
    (List.range c.calls.length)
  handed : c.tunnel.handedOut = !c.answers.isEmpty
  answered : Answered c.calls c.tunnel.listener.outcome? c.answers
  expired : Expired c.calls c.gone

variable {c c' : Custody} {event : Event} {happening : ListenerHappening} {caller : Nat}
  {outcome : Except ListenerError ListenerSummary} {calls : List Lifetime.Call}
  {how : Lifetime.Call}

theorem getElem?_concat_of_eq_some (found : calls[caller]? = some how) (more : Lifetime.Call) :
    (calls ++ [more])[caller]? = some how := by
  rw [List.getElem?_append_left (List.getElem?_eq_some_iff.mp found).1, found]

/-- Calls to come change no answer. -/
theorem Answered.concat {outcome? : Option (Except ListenerError ListenerSummary)}
    {answers : List (Nat × Lifetime.Answer)} (h : Answered calls outcome? answers)
    (more : Lifetime.Call) : Answered (calls ++ [more]) outcome? answers := by
  have conveys {answer : Nat × Lifetime.Answer} {outcome : TunnelOutcome}
      (conveys : Conveys calls answer outcome) : Conveys (calls ++ [more]) answer outcome := by
    obtain ⟨how, found, said⟩ := conveys
    exact ⟨how, getElem?_concat_of_eq_some found more, said⟩
  cases answers with
  | nil => trivial
  | cons first later =>
    obtain ⟨⟨outcome, came, got⟩, nothing⟩ := h
    exact ⟨⟨outcome, came, conveys got⟩, fun answer member => conveys (nothing answer member)⟩

theorem Expired.concat {gone : List (Nat × Option Lifetime.Answer)} (h : Expired calls gone)
    (more : Lifetime.Call) : Expired (calls ++ [more]) gone := by
  intro caller answer member
  obtain ⟨limit, found, said⟩ := h caller answer member
  exact ⟨limit, getElem?_concat_of_eq_some found more, said⟩

theorem moves_of_step? (stepped : c.step? (.happens happening) = some c') :
    ∃ listener actions, c.tunnel.listener.step? happening = some (listener, actions) ∧
      c' = { c with tunnel := { c.tunnel with listener }, did := c.did ++ actions } := by
  obtain ⟨-, stepped⟩ := Option.ite_none_right_eq_some.mp stepped
  obtain ⟨⟨listener, actions⟩, moved, same⟩ := Option.map_eq_some_iff.mp stepped
  exact ⟨listener, actions, moved, same.symm⟩

theorem completes_of_step? (stepped : c.step? .completes = some c') :
    ∃ caller outcome tunnel how, c.tunnel.Completes caller outcome tunnel ∧
      c.calls[caller]? = some how ∧
      c' = { c with tunnel, answers := c.answers ++ [(caller, how.answer outcome)] } := by
  obtain ⟨⟨caller, outcome, tunnel⟩, completed, stepped⟩ := Option.bind_eq_some_iff.mp stepped
  obtain ⟨how, found, same⟩ := Option.map_eq_some_iff.mp stepped
  exact ⟨caller, outcome, tunnel, how, Tunnel.completes_iff.mpr completed, found, same.symm⟩

/-- Whoever gives up waits, and answers only if its limit is over. -/
theorem givesUp_of_step? (stepped : c.step? event = some c')
    (gives : event = .drops caller ∨ event = .expires caller) :
    caller ∈ c.tunnel.waiting ∧ ∃ answer, c' = c.giveUp caller answer ∧
      ∀ said ∈ answer, ∃ limit, c.calls[caller]? = some (.shutDown limit) ∧
        said = .overdue limit := by
  rcases gives with rfl | rfl
  · obtain ⟨waits, same⟩ := Option.ite_none_right_eq_some.mp stepped
    cases same
    exact ⟨waits, none, rfl, by simp⟩
  · obtain ⟨waits, stepped⟩ := Option.ite_none_right_eq_some.mp stepped
    obtain ⟨limit, found, same⟩ := Option.map_eq_some_iff.mp stepped
    obtain ⟨how, called, limited⟩ := Option.bind_eq_some_iff.mp found
    refine ⟨waits, _, same.symm, fun said told => ?_⟩
    cases told
    cases how with
    | shutDown own =>
      cases limited
      exact ⟨limit, called, rfl⟩
    | close | wait => cases limited

namespace Kept

theorem start (admission : Admission) (limit : Option UInt64) :
    (Custody.start admission limit).Kept where
  record := Listener.Record.start admission limit
  orderly _ := rfl
  places := .rfl
  handed := rfl
  answered := trivial
  expired _ _ member := by cases member

theorem tell (h : c.Kept) : c.tell.Kept where
  record := h.record
  orderly := h.orderly
  places := h.places
  handed := h.handed
  answered := h.answered
  expired := h.expired

theorem call (h : c.Kept) (how : Lifetime.Call) : (c.call how).Kept := by
  obtain ⟨listener, handedOut⟩ := c.tunnel.join_frame c.calls.length
  unfold Custody.call
  refine ⟨?_, c.tunnel.orderly_join c.calls.length, ?_, ?_, ?_, h.expired.concat how⟩
  · rw [listener]
    exact h.record
  · rw [Tunnel.waiting_join h.orderly, ← List.append_assoc, List.length_append,
      List.length_singleton, List.range_succ]
    exact h.places.append_right _
  · rw [handedOut]
    exact h.handed
  · rw [listener]
    exact h.answered.concat how

theorem use (h : c.Kept) (use : Lifetime.Use) : (c.use use).Kept := by
  cases use with
  | call how =>
    simp only [Custody.use]
    split
    · exact h.tell.call how
    · exact h.call how
  | drop => exact h.tell

/-- No one waits twice. -/
theorem nodup (h : c.Kept) : c.tunnel.waiting.Nodup :=
  (List.nodup_append.mp (h.places.nodup_iff.mpr List.nodup_range)).2.1

/-- Who waits has called. -/
theorem exists_call (h : c.Kept) (waits : caller ∈ c.tunnel.waiting) :
    ∃ how, c.calls[caller]? = some how := by
  have among := h.places.mem_iff.mp (List.mem_append_right _ waits)
  exact ⟨_, List.getElem?_eq_getElem (List.mem_range.mp among)⟩

/-- Giving up changes nothing about the outcome. -/
theorem giveUp (h : c.Kept) (waits : caller ∈ c.tunnel.waiting) {answer : Option Lifetime.Answer}
    (expires : ∀ said ∈ answer, ∃ limit, c.calls[caller]? = some (.shutDown limit) ∧
      said = .overdue limit) :
    (c.giveUp caller answer).Kept := by
  obtain ⟨listener, handedOut⟩ := c.tunnel.abandon_frame caller
  unfold Custody.giveUp
  refine ⟨?_, h.orderly.abandon _, ?_, ?_, ?_, ?_⟩
  · rw [listener]
    exact h.record
  · have left := Tunnel.waiting_abandon h.nodup waits
    have moved := left.append_left (c.answers.map Prod.fst ++ c.gone.map Prod.fst)
    refine .trans ?_ (moved.symm.trans h.places)
    simp
  · rw [handedOut]
    exact h.handed
  · rw [listener]
    exact h.answered
  · intro other said member
    rcases List.mem_append.mp member with member | member
    · exact h.expired other said member
    · cases List.mem_singleton.mp member
      exact expires said rfl

/-- Once a call was answered the listener has stopped. -/
theorem stopped (h : c.Kept) (some : c.answers ≠ []) : c.tunnel.listener.outcome? ≠ none := by
  have answered := h.answered
  cases all : c.answers with
  | nil => exact absurd all some
  | cons first later =>
    rw [all] at answered
    obtain ⟨⟨outcome, stopped, -⟩, -⟩ := answered
    rw [stopped]
    exact Option.some_ne_none _

/-- The answer of the caller whose turn it is goes to the end of the answers. -/
theorem answer (h : c.Kept) {outcome : TunnelOutcome} {tunnel : Tunnel}
    (completes : c.tunnel.Completes caller outcome tunnel) (called : c.calls[caller]? = some how) :
    Kept { c with tunnel, answers := c.answers ++ [(caller, how.answer outcome)] } := by
  -- the caller goes from those who wait to those who were answered
  have places {rest : List Nat} (waits : c.tunnel.waiting = caller :: rest) :
      ((c.answers ++ [(caller, how.answer outcome)]).map Prod.fst ++ c.gone.map Prod.fst ++
        rest).Perm (List.range c.calls.length) := by
    refine .trans ?_ h.places
    have moved : (caller :: (c.gone.map Prod.fst ++ rest)).Perm
        (c.gone.map Prod.fst ++ caller :: rest) :=
      List.perm_middle.symm
    rw [waits, List.map_append, List.append_assoc, List.append_assoc, List.append_assoc]
    exact moved.append_left _
  have handed := h.handed
  have answered := h.answered
  cases completes with
  | first held kept stopped =>
    have none : c.answers = [] := by simpa [kept] using handed
    refine ⟨h.record, Tunnel.orderly_release _, places (Tunnel.waiting_of_holder held), ?_, ?_,
      h.expired⟩
    · rw [none]
      rfl
    · rw [none]
      exact ⟨⟨_, stopped, how, called, rfl⟩, fun other member => by cases member⟩
  | later held handedOut =>
    refine ⟨h.record, Tunnel.orderly_release _, places (Tunnel.waiting_of_holder held), ?_, ?_,
      h.expired⟩
    · show c.tunnel.handedOut = _
      rw [handedOut]
      simp
    · cases all : c.answers with
      | nil => simp [handedOut, all] at handed
      | cons first later =>
        rw [all] at answered
        refine ⟨answered.1, fun other member => ?_⟩
        rcases List.mem_append.mp member with member | member
        · exact answered.2 other member
        · cases List.mem_singleton.mp member
          exact ⟨how, called, rfl⟩

/-- As long as things happen to the listener no call was answered. -/
theorem happens (h : c.Kept) (stepped : c.step? (.happens happening) = some c') : c'.Kept := by
  obtain ⟨listener, actions, moved, rfl⟩ := moves_of_step? stepped
  -- nothing happens any more to a listener of which an answer tells
  have none : c.answers = [] := Classical.byContradiction fun some => by
    have stuck := h.record.step?_eq_none (h.stopped some) happening
    cases stuck.symm.trans moved
  refine ⟨h.record.step moved, h.orderly, h.places, h.handed, ?_, h.expired⟩
  rw [none]
  trivial

theorem step (h : c.Kept) (stepped : c.step? event = some c') : c'.Kept := by
  cases event with
  | uses use =>
    cases stepped
    exact h.use use
  | drops caller =>
    obtain ⟨waits, answer, rfl, expires⟩ := givesUp_of_step? stepped (.inl rfl)
    exact h.giveUp waits expires
  | expires caller =>
    obtain ⟨waits, answer, rfl, expires⟩ := givesUp_of_step? stepped (.inr rfl)
    exact h.giveUp waits expires
  | completes =>
    obtain ⟨caller, outcome, tunnel, how, completes, called, rfl⟩ := completes_of_step? stepped
    exact h.answer completes called
  | happens happening => exact h.happens stepped

theorem run {events : List Event} (h : c.Kept) (run : c.run? events = some c') : c'.Kept := by
  induction events generalizing c with
  | nil =>
    cases run
    exact h
  | cons event events ih =>
    obtain ⟨next, stepped, rest⟩ := Option.bind_eq_some_iff.mp run
    exact ih (h.step stepped) rest

/-- A call that can be answered waits for nothing but a listener that has stopped. -/
theorem stopped_of_completes (h : c.Kept) (possible : c.step? .completes ≠ none) :
    c.tunnel.listener.outcome? ≠ none := by
  obtain ⟨next, stepped⟩ := Option.ne_none_iff_exists'.mp possible
  obtain ⟨caller, outcome, tunnel, how, completes, -⟩ := completes_of_step? stepped
  cases completes with
  | first _ _ stopped =>
    rw [stopped]
    exact Option.some_ne_none _
  | later _ handed =>
    refine h.stopped fun none => ?_
    rw [h.handed, none] at handed
    cases handed

/-- The caller whose turn it is gets its answer of a listener that has stopped. -/
theorem completes (h : c.Kept) (stopped : c.tunnel.listener.outcome? = some outcome)
    {others : List Nat} (waits : c.tunnel.waiting = caller :: others) :
    ∃ how tunnel, c.calls[caller]? = some how ∧ tunnel.waiting = others ∧
      tunnel.listener = c.tunnel.listener ∧
      c.step? .completes = some { c with
        tunnel
        answers := c.answers ++
          [(caller, how.answer (if c.answers = [] then outcome.map some else .ok none))] } := by
  have first : caller ∈ c.tunnel.waiting := by simp [waits]
  obtain ⟨how, called⟩ := h.exists_call first
  have held := h.orderly.holder waits
  have rest : c.tunnel.release.waiting = others :=
    (List.cons.inj ((Tunnel.waiting_of_holder held).symm.trans waits)).2
  have handed := h.handed
  -- what is recorded of a caller that gets this outcome of the tunnel
  have stepped {outcome : TunnelOutcome} {tunnel : Tunnel}
      (completes : c.tunnel.Completes caller outcome tunnel) :
      c.step? .completes = some { c with
        tunnel, answers := c.answers ++ [(caller, how.answer outcome)] } := by
    rw [step?, Tunnel.completes_iff.mp completes, Option.bind_some]
    dsimp only
    rw [called]
    rfl
  split
  next none =>
    rw [none] at handed
    exact ⟨how, { c.tunnel with handedOut := true }.release, called, rest, rfl,
      stepped (.first held handed stopped)⟩
  next some =>
    have handed : c.tunnel.handedOut = true := by simp [handed, some]
    exact ⟨how, _, called, rest, rfl, stepped (.later held handed)⟩

/-- All who wait for a listener that has stopped get their answers one after the other. -/
theorem served (h : c.Kept) (stopped : c.tunnel.listener.outcome? = some outcome) :
    ∃ c', c.run? (List.replicate c.tunnel.waiting.length .completes) = some c' ∧
      c'.tunnel.waiting = [] ∧
      c'.answers.map Prod.fst = c.answers.map Prod.fst ++ c.tunnel.waiting := by
  -- each answer leaves the others waiting in their order, for the same listener
  induction waits : c.tunnel.waiting generalizing c with
  | nil => exact ⟨c, rfl, waits, by simp⟩
  | cons caller others ih =>
    obtain ⟨how, tunnel, -, rest, same, stepped⟩ := h.completes stopped waits
    obtain ⟨c', run, none, all⟩ := ih (h.step stepped) (by rw [← stopped, ← same]) rest
    refine ⟨c', ?_, none, ?_⟩
    · rw [List.length_cons, List.replicate_succ, run?, stepped]
      exact run
    · simpa using all

end Kept

/-- Answers stay, and so does what came of the listener. -/
structure Onward (c c' : Custody) : Prop where
  answers : c.answers <+: c'.answers
  outcome : ∀ outcome, c.tunnel.listener.outcome? = some outcome →
    c'.tunnel.listener.outcome? = some outcome

namespace Onward

theorem call (c : Custody) (how : Lifetime.Call) : c.Onward (c.call how) where
  answers := List.prefix_rfl
  outcome outcome stopped := by
    rw [Custody.call, (c.tunnel.join_frame _).1]
    exact stopped

theorem giveUp (c : Custody) (caller : Nat) (answer : Option Lifetime.Answer) :
    c.Onward (c.giveUp caller answer) where
  answers := List.prefix_rfl
  outcome outcome stopped := by
    rw [Custody.giveUp, (c.tunnel.abandon_frame caller).1]
    exact stopped

theorem step (h : c.Kept) (stepped : c.step? event = some c') : c.Onward c' := by
  cases event with
  | uses use =>
    cases stepped
    cases use with
    | call how =>
      simp only [Custody.use]
      split
      · exact { call c.tell how with }
      · exact call c how
    | drop => exact ⟨List.prefix_rfl, fun _ => id⟩
  | drops caller =>
    obtain ⟨-, answer, rfl, -⟩ := givesUp_of_step? stepped (.inl rfl)
    exact giveUp c caller answer
  | expires caller =>
    obtain ⟨-, answer, rfl, -⟩ := givesUp_of_step? stepped (.inr rfl)
    exact giveUp c caller answer
  | completes =>
    obtain ⟨caller, outcome, tunnel, how, completes, -, rfl⟩ := completes_of_step? stepped
    refine ⟨List.prefix_append .., fun outcome stopped => ?_⟩
    cases completes <;> exact stopped
  | happens happening =>
    obtain ⟨listener, actions, moved, rfl⟩ := moves_of_step? stepped
    refine ⟨List.prefix_rfl, fun outcome stopped => ?_⟩
    have stuck := h.record.step?_eq_none (by simp [stopped]) happening
    cases stuck.symm.trans moved

theorem run {events : List Event} (h : c.Kept) (run : c.run? events = some c') :
    c.Onward c' := by
  induction events generalizing c with
  | nil =>
    cases run
    exact ⟨List.prefix_rfl, fun _ => id⟩
  | cons event events ih =>
    obtain ⟨next, stepped, rest⟩ := Option.bind_eq_some_iff.mp run
    have first := step h stepped
    have later := ih (h.step stepped) rest
    exact ⟨first.answers.trans later.answers, fun outcome stopped =>
      later.outcome outcome (first.outcome outcome stopped)⟩

end Onward

/-- However many callers use the handle on a tunnel, whoever of them gives up and whenever, and
    in whichever order the tunnel is told to stop, its listener takes notice of that, clients
    come, accepting fails and sessions end:

    - every call was answered, and once, or has given up, or waits;
    - the first call that is answered gets what came of the listener, and all others nothing,
      and each of them answers what it makes of that: one that closes the tunnel or waits for it
      hands it on, and one with a limit says that the tunnel has stopped;
    - of those that give up, the ones whose limit is over say so;
    - none is answered before the listener has closed its socket and all its sessions have
      ended;
    - neither the answers nor what came of the listener are ever taken back;
    - once the listener has stopped, the caller whose turn it is can get its answer, which is
      about what came of the listener unless someone else has got that, and so can all who wait
      behind it. -/
theorem outcome_handed_out_once (admission : Admission) (limit : Option UInt64)
    (events : List Event) (c : Custody) (run : (start admission limit).run? events = some c) :
    (c.answers.map Prod.fst ++ c.gone.map Prod.fst ++ c.tunnel.waiting).Perm
        (List.range c.calls.length) ∧
      (∀ first later, c.answers = first :: later →
        (∃ outcome, c.tunnel.listener.outcome? = some outcome ∧
          ∃ how, c.calls[first.1]? = some how ∧ first.2 = how.answer (outcome.map some)) ∧
        ∀ answer ∈ later,
          ∃ how, c.calls[answer.1]? = some how ∧ answer.2 = how.answer (.ok none)) ∧
      (∀ caller answer, (caller, some answer) ∈ c.gone →
        ∃ limit, c.calls[caller]? = some (.shutDown limit) ∧ answer = .overdue limit) ∧
      (c.answers ≠ [] ∨ c.step? .completes ≠ none →
        c.tunnel.listener.outcome? ≠ none ∧ .closeSocket ∈ c.did ∧
          c.tunnel.listener.sessions = [] ∧ (begunSessions c.did).Perm (endedSessions c.did)) ∧
      (∀ later c', c.run? later = some c' → c.answers <+: c'.answers ∧
        ∀ outcome, c.tunnel.listener.outcome? = some outcome →
          c'.tunnel.listener.outcome? = some outcome) ∧
      ∀ outcome, c.tunnel.listener.outcome? = some outcome →
        (∀ caller others, c.tunnel.waiting = caller :: others →
          ∃ how tunnel, c.calls[caller]? = some how ∧ tunnel.waiting = others ∧
            tunnel.listener = c.tunnel.listener ∧
            c.step? .completes = some { c with
              tunnel
              answers := c.answers ++
                [(caller, how.answer (if c.answers = [] then outcome.map some else .ok none))] }) ∧
        ∃ c', c.run? (List.replicate c.tunnel.waiting.length .completes) = some c' ∧
          c'.tunnel.waiting = [] ∧
          c'.answers.map Prod.fst = c.answers.map Prod.fst ++ c.tunnel.waiting := by
  have kept := (Kept.start admission limit).run run
  refine ⟨kept.places, ?_, kept.expired, ?_, ?_, ?_⟩
  · intro first later all
    have answered := kept.answered
    rw [all] at answered
    exact answered
  · intro answering
    have stopped : c.tunnel.listener.outcome? ≠ none := by
      cases answering with
      | inl some => exact kept.stopped some
      | inr possible => exact kept.stopped_of_completes possible
    exact ⟨stopped, kept.record.finished stopped⟩
  · intro later c' further
    have onward := Onward.run kept further
    exact ⟨onward.answers, onward.outcome⟩
  · intro outcome stopped
    exact ⟨fun caller others waits => kept.completes stopped waits, kept.served stopped⟩

/-- Of four callers that wait for one session the first one is dropped while it is its turn, and
    the limit of the second one is over; a fifth one comes when all is over. -/
theorem outcome_handed_out_once_after_abandonment :
    let client : SocketAddress := { ip := .v4 0x7f000001, port := 1 }
    let limit : Duration := .seconds 1
    let events : List Event :=
      [.happens (.client client true), .uses .wait, .uses (.shutDown limit), .uses .wait,
        .uses .close, .drops 0, .expires 1, .happens .cancelled,
        .happens (.sessionEnded 1 client (.ok {})), .completes, .completes,
        .uses (.shutDown limit), .completes]
    ∃ c, (start (.custom fun _ => true) none).run? events = some c ∧
      c.gone = [(0, none), (1, some (.overdue limit))] ∧
      c.answers = [(2, .outcome (.ok (some ⟨1, 0⟩))), (3, .outcome (.ok none)), (4, .shutDown)] ∧
      .closeSocket ∈ c.did ∧ (begunSessions c.did).Perm (endedSessions c.did) := by
  intro client limit events
  have run : (start (.custom fun _ => true) none).run? events = some _ := rfl
  obtain ⟨-, -, -, finished, -⟩ := outcome_handed_out_once _ _ events _ run
  obtain ⟨-, closed, -, ended⟩ := finished (.inl (List.cons_ne_nil _ _))
  exact ⟨_, run, rfl, rfl, closed, ended⟩

/-- A call with a limit that is answered first keeps the outcome of the listener for itself, and
    no call is ever answered with it. -/
theorem shutDown_keeps_outcome :
    let events : List Event :=
      [.uses (.shutDown (.seconds 1)), .happens .cancelled, .completes, .uses .close, .completes]
    ∃ c, (start (.custom fun _ => true) none).run? events = some c ∧
      c.tunnel.listener.outcome? = some (.ok ⟨0, 0⟩) ∧
      c.answers = [(0, .shutDown), (1, .outcome (.ok none))] ∧
      ∀ later c', c.run? later = some c' →
        ∀ answer ∈ c'.answers, answer.2 ≠ .outcome (.ok (some ⟨0, 0⟩)) := by
  intro events
  have run : (start (.custom fun _ => true) none).run? events = some _ := rfl
  refine ⟨_, run, rfl, rfl, fun later c' further => ?_⟩
  have kept := (Kept.start _ _).run run
  have stay := (Onward.run kept further).answers
  have answered := (kept.run further).answered
  obtain ⟨others, all⟩ := stay
  rw [← all] at answered ⊢
  intro answer member same
  rcases List.mem_cons.mp member with rfl | member
  · cases same
  · obtain ⟨how, -, said⟩ := answered.2 answer member
    rw [said] at same
    cases how with
    | close | wait => cases same
    | shutDown => cases same

end Custody

end RelayTunnel
