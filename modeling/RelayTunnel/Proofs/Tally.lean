import RelayTunnel.Proofs.Feed
import RelayTunnel.Proofs.LifeCycle

/-!
# What is counted

A carrier counts the bytes of its session and the frames on its connections. `Passage` is what an
observer of the connections notes of both: each payload of a write once, when it is first handed
to a connection, the frames whose sending succeeded, sent again or not, and the messages that
came. `Carrier.Counts` is the account of one move, and every step keeps it.

Streams share their counters, which is of no matter: what is counted in any order adds up.
-/

namespace RelayTunnel

/-! ## Counters -/

namespace Traffic

/-- The counters after both. -/
def add (t u : Traffic) : Traffic where
  bytesSent := t.bytesSent + u.bytesSent
  bytesReceived := t.bytesReceived + u.bytesReceived
  framesSent := t.framesSent + u.framesSent
  framesReceived := t.framesReceived + u.framesReceived
  accepted := t.accepted + u.accepted
  rejected := t.rejected + u.rejected
  failed := t.failed + u.failed
  reconnects := t.reconnects + u.reconnects

variable {entries others : List TrafficEntry}

theorem add_assoc (t u v : Traffic) : (t.add u).add v = t.add (u.add v) := by
  simp only [add, UInt64.add_assoc]

theorem add_comm (t u : Traffic) : t.add u = u.add t := by
  simp only [add, UInt64.add_comm]

@[simp] theorem add_empty (t : Traffic) : t.add {} = t := by
  simp only [add, UInt64.add_zero]

/-- What is counted does not depend on what was counted before. -/
theorem record_eq (t : Traffic) (entry : TrafficEntry) :
    t.record entry = t.add (record {} entry) := by
  cases entry <;> simp [record, add]

theorem recordAll_cons (t : Traffic) (entry : TrafficEntry) (entries : List TrafficEntry) :
    t.recordAll (entry :: entries) = (t.record entry).recordAll entries := rfl

theorem recordAll_eq (t : Traffic) (entries : List TrafficEntry) :
    t.recordAll entries = t.add (recordAll {} entries) := by
  induction entries generalizing t with
  | nil => exact (add_empty t).symm
  | cons entry entries ih =>
    rw [recordAll_cons, recordAll_cons, ih, ih (record {} entry), record_eq, add_assoc]

theorem recordAll_append (t : Traffic) (entries others : List TrafficEntry) :
    t.recordAll (entries ++ others) = (t.recordAll entries).recordAll others :=
  List.foldl_append

/-- The order in which things are counted does not matter. -/
theorem recordAll_perm (t : Traffic) (same : entries.Perm others) :
    t.recordAll entries = t.recordAll others := by
  refine same.foldl_eq' (fun first _ second _ t => ?_) t
  rw [record_eq (t.record first), record_eq (t.record second), record_eq t first,
    record_eq t second, add_assoc, add_comm (record {} first), ← add_assoc]

end Traffic

/-- What an action counts. -/
def Action.weight : Action → Traffic
  | .count entry => Traffic.record {} entry
  | _ => {}

/-- What a series of actions counts. -/
def tally (actions : List Action) : Traffic :=
  Traffic.recordAll {} (actions.filterMap Action.entry?)

@[simp] theorem tally_nil : tally [] = {} := rfl

theorem tally_append (actions others : List Action) :
    tally (actions ++ others) = (tally actions).add (tally others) := by
  rw [tally, List.filterMap_append, Traffic.recordAll_append, Traffic.recordAll_eq]
  rfl

@[simp] theorem tally_singleton (action : Action) : tally [action] = action.weight := by
  cases action <;> rfl

theorem tally_cons (action : Action) (actions : List Action) :
    tally (action :: actions) = action.weight.add (tally actions) := by
  rw [← tally_singleton, ← tally_append, List.singleton_append]

/-- Whether an action counts neither bytes nor frames. -/
def Action.isUncounted : Action → Bool
  | .count (.dataSent _) | .count (.dataReceived _) | .count .frameSent | .count .frameReceived =>
    false
  | _ => true

/-- Such actions leave these counters alone. -/
theorem tally_of_isUncounted {actions : List Action}
    (uncounted : ∀ action ∈ actions, action.isUncounted = true) :
    (tally actions).bytesSent = 0 ∧ (tally actions).bytesReceived = 0 ∧
      (tally actions).framesSent = 0 ∧ (tally actions).framesReceived = 0 := by
  induction actions with
  | nil => exact ⟨rfl, rfl, rfl, rfl⟩
  | cons action actions ih =>
    obtain ⟨first, rest⟩ := List.forall_mem_cons.mp uncounted
    have none : action.weight.bytesSent = 0 ∧ action.weight.bytesReceived = 0 ∧
        action.weight.framesSent = 0 ∧ action.weight.framesReceived = 0 := by
      cases action with
      | count entry => cases entry <;> first | exact ⟨rfl, rfl, rfl, rfl⟩ | cases first
      | _ => exact ⟨rfl, rfl, rfl, rfl⟩
    rw [tally_cons]
    simp only [Traffic.add, none, ih rest]
    exact ⟨rfl, rfl, rfl, rfl⟩

/-- The message that a happening brings on an established connection. -/
def Happening.message? : Happening → Option Bytes
  | .arrival (.message message) => some message
  | _ => none

namespace Carrier

variable {settings : RelaySettings} {c c' : Carrier} {move : Move} {happening : Happening}
  {actions : List Action} {sent received : UInt64}

/-! ## The account of a move -/

/-- What a move counts: the bytes are those by which the counts of the session grow, and so many
    frames are sent and received. -/
structure Counts (sent received : UInt64) (c : Carrier) (move : Move) : Prop where
  bytesSent : move.1.session.sent = c.session.sent + (tally move.2).bytesSent
  bytesReceived : move.1.session.received = c.session.received + (tally move.2).bytesReceived
  framesSent : (tally move.2).framesSent = sent
  framesReceived : (tally move.2).framesReceived = received

namespace Counts

/-- Doing something else before that counts no bytes. -/
theorem cons {action : Action} {sent' received' : UInt64} (h : Counts sent received c move)
    (bytes : action.weight.bytesSent = 0 ∧ action.weight.bytesReceived = 0)
    (frames : action.weight.framesSent + sent = sent' ∧
      action.weight.framesReceived + received = received') :
    Counts sent' received' c (move.1, action :: move.2) := by
  have same := tally_cons action move.2
  constructor <;> dsimp only <;> rw [same] <;> simp only [Traffic.add]
  · rw [bytes.1, UInt64.zero_add]
    exact h.bytesSent
  · rw [bytes.2, UInt64.zero_add]
    exact h.bytesReceived
  · rw [h.framesSent]
    exact frames.1
  · rw [h.framesReceived]
    exact frames.2

/-- Only the counts of the session matter. -/
theorem congr (h : Counts sent received c' move) (bytesSent : c'.session.sent = c.session.sent)
    (bytesReceived : c'.session.received = c.session.received) : Counts sent received c move where
  bytesSent := by
    rw [← bytesSent]
    exact h.bytesSent
  bytesReceived := by
    rw [← bytesReceived]
    exact h.bytesReceived
  framesSent := h.framesSent
  framesReceived := h.framesReceived

end Counts

/-- The state of a carrier is the one that it has published last. -/
theorem Turn.state_eq {did : List Action} (turn : c.Turn settings happening c' did) :
    c'.state = (did.filterMap Action.published?).getLastD c.state := by
  rw [← filterMap_published?_signals]
  cases turn with
  | stays stage state silent | parts before ends after state silent => rw [silent, state]; rfl
  | lost before fails after state tells | recovered before after state tells
  | stops before ends after state tells | givesUp before ends after state tells
  | hasClosed before after state tells => rw [tells, state]; rfl

/-- What leaves the counts of the session alone and counts neither bytes nor frames. -/
theorem counts_of_isUncounted {actions : List Action} (bytesSent : c'.session.sent = c.session.sent)
    (bytesReceived : c'.session.received = c.session.received)
    (uncounted : ∀ action ∈ actions, action.isUncounted = true) :
    Counts 0 0 c (c', actions) := by
  obtain ⟨noneSent, noneReceived, framesSent, framesReceived⟩ := tally_of_isUncounted uncounted
  refine ⟨?_, ?_, framesSent, framesReceived⟩
  · rw [noneSent, bytesSent, UInt64.add_zero]
  · rw [noneReceived, bytesReceived, UInt64.add_zero]

/-- A carrier that lets its connection go counts nothing of this. -/
theorem Leaves.counts {write : Option Nat} (leaves : c.Leaves write move) :
    Counts 0 0 c move := by
  have uncounted : ∀ action ∈ move.2, action.isUncounted = true := by
    induction leaves with
    | parts | stops => cases write <;> simp [Action.isUncounted]
    | pauses | attempts | hasClosed => simp [Action.isUncounted]
    | loses goesOn ih => exact List.forall_mem_cons.mpr ⟨rfl, ih⟩
  exact counts_of_isUncounted (congrArg Session.sent leaves.session)
    (congrArg Session.received leaves.session) uncounted

theorem recovered_counts (flow : FlowSettings) (recovery : Recovery) (c : Carrier) :
    Counts 0 0 c (c.recovered flow recovery) := by
  have session : (c.recovered flow recovery).1.session = c.session := recovered_session recovery
  have uncounted : ∀ action ∈ (c.recovered flow recovery).2, action.isUncounted = true := by
    unfold recovered
    cases recovery.write <;> simp [acceptWrite, Action.isUncounted]
  exact counts_of_isUncounted (congrArg Session.sent session) (congrArg Session.received session)
    uncounted

/-- An acknowledgement changes neither count of bytes. -/
theorem acknowledge_bytes {session session' : Session} {number : UInt64}
    (taken : session.acknowledge number = .ok session') :
    session'.sent = session.sent ∧ session'.received = session.received := by
  simp only [Session.acknowledge] at taken
  split at taken <;> cases taken
  exact ⟨rfl, rfl⟩

/-- Nor does anything else that comes of it. -/
theorem Counts.acknowledged {session : Session} {number : UInt64}
    (taken : c.session.acknowledge number = .ok session)
    (h : Counts sent received { c with session } move) : Counts sent received c move :=
  h.congr (acknowledge_bytes taken).1 (acknowledge_bytes taken).2

/-- A frame was sent, or a message came. -/
theorem Counts.frameSent (h : Counts 0 0 c (c', actions)) :
    Counts 1 0 c (c', .count .frameSent :: actions) :=
  h.cons ⟨rfl, rfl⟩ ⟨rfl, rfl⟩

theorem Counts.frameReceived (h : Counts 0 0 c (c', actions)) :
    Counts 0 1 c (c', .count .frameReceived :: actions) :=
  h.cons ⟨rfl, rfl⟩ ⟨rfl, rfl⟩

/-- Handing over data or putting a connection in place counts nothing. -/
theorem Counts.hand (h : Counts 0 0 c (c', actions)) (reader : Bool) (payload : Bytes) :
    Counts 0 0 c (c', .hand reader payload :: actions) := by
  cases reader with
  | true => exact h.cons ⟨rfl, rfl⟩ ⟨rfl, rfl⟩
  | false => exact h.cons ⟨rfl, rfl⟩ ⟨rfl, rfl⟩

theorem Counts.install (h : Counts 0 0 c (c', actions)) :
    Counts 0 0 c (c', .install :: actions) :=
  h.cons ⟨rfl, rfl⟩ ⟨rfl, rfl⟩

/-- Every step counts the frame that it sees sent, the message that it sees come, and the bytes by
    which its session grows. -/
theorem Step.counts (step : c.Step settings happening c' actions) :
    Counts (if happening = .sent then 1 else 0)
      (if happening.message?.isSome then 1 else 0) c (c', actions) := by
  have silent {d : Carrier} (same : d.session = c.session) : Counts 0 0 c (d, []) :=
    counts_of_isUncounted (congrArg Session.sent same) (congrArg Session.received same) (by simp)
  have sends {d : Carrier} (frame : Frame) (bytes : d.session.sent = c.session.sent)
      (others : d.session.received = c.session.received) : Counts 0 0 c (d, [.send frame]) :=
    counts_of_isUncounted bytes others (by simp [Action.isUncounted])
  cases step with
  | told | writesOver => exact silent rfl
  | skipped => exact (silent rfl).frameReceived
  | received =>
    constructor <;> simp [tally_cons, Traffic.add, Action.weight, Traffic.record,
      Session.recordReceived, Happening.message?]
  | acknowledged opened free means taken =>
    refine Counts.frameReceived (.acknowledged taken ?_)
    exact counts_of_isUncounted (by rw [updateThrottle_session]) (by rw [updateThrottle_session])
      (by simp)
  | breached opened free means refused leaves => exact leaves.counts.frameReceived
  | handed =>
    refine Counts.hand (silent ?_) ..
    rfl
  | reported =>
    refine Counts.hand (sends _ ?_ ?_) .. <;> rfl
  | took =>
    constructor <;> simp [tally_cons, Traffic.add, Action.weight, Traffic.record,
      Session.recordSent, Happening.message?]
  | wrote =>
    refine Counts.frameSent (counts_of_isUncounted ?_ ?_ (by simp [Action.isUncounted]))
    · rw [updateThrottle_session]
    · rw [updateThrottle_session]
  | hasReported =>
    refine Counts.frameSent (silent ?_)
    rfl
  | resent =>
    refine Counts.frameSent (sends _ ?_ ?_) <;> rfl
  | recovered => exact (recovered_counts ..).frameSent
  | resumed attempts taken =>
    have bytes := acknowledge_bytes taken
    exact (sends _ bytes.1 bytes.2).install
  | resumedWhole attempts taken =>
    exact .acknowledged taken (recovered_counts ..).install
  | turnedAway attempts refused leaves => exact leaves.counts.install
  | unsendable attempts taken leaves => exact .acknowledged taken leaves.counts.install
  | left other leaves =>
    cases happening with
    | sent | resumed => cases other
    | arrival arrival =>
      cases arrival with
      | message => cases other
      | close | ended | failed => exact leaves.counts
    | cancel | notice | room | write | writesOver | sendFailed | sendStalled | pauseOver
    | resumeFailed | closeOver => exact leaves.counts

end Carrier

/-! ## What is seen on the connections -/

/-- What can be noted of a run by an observer of the connections of a stream. -/
structure Passage where
  /-- The state that was published last. -/
  state : StreamState := .connected
  /-- The payloads of writes, each when it is first handed to a connection. -/
  taken : List Bytes := []
  /-- The frame that is being sent. -/
  underWay : Option Frame := none
  /-- The frames whose sending succeeded, those sent again included. -/
  completed : List Frame := []
  /-- The messages that came while the stream was connected, whatever they are. What comes while
      the session is being taken up again is not among them. -/
  messages : List Bytes := []
  deriving DecidableEq, Repr

namespace Passage

/-- Note what happens: being told to end does not yet interrupt the sending, and nothing but its
    success completes it. -/
def hear (p : Passage) (happening : Happening) : Passage where
  state := p.state
  taken := p.taken
  underWay := if happening = .cancel then p.underWay else none
  completed := if happening = .sent then p.completed ++ p.underWay.toList else p.completed
  messages :=
    if p.state = .connected then p.messages ++ happening.message?.toList else p.messages

/-- The payload in a frame that is sent because it was written. -/
def written : Happening → Frame → List Bytes
  | .write _ _, .data payload => [payload]
  | _, _ => []

/-- Note something that the carrier does about a happening. -/
def perform (happening : Happening) (p : Passage) : Action → Passage
  | .send frame =>
    { p with underWay := some frame, taken := p.taken ++ written happening frame }
  | .publish state => { p with state }
  | _ => p

/-- Note what happens and then what the carrier does about it. -/
def follow (p : Passage) (entry : Happening × List Action) : Passage :=
  entry.2.foldl (perform entry.1) (p.hear entry.1)

/-- What can be noted of a run. -/
def ofLog (log : List (Happening × List Action)) : Passage := log.foldl follow {}

variable {p : Passage} {settings : RelaySettings} {c c' : Carrier} {happening : Happening}
  {actions : List Action}

/-- Where nothing is sent, at most the state is noted. -/
theorem foldl_perform_of_silent (p : Passage) (silent : actions.filterMap Action.frame? = []) :
    actions.foldl (perform happening) p =
      { p with state := (actions.foldl (perform happening) p).state } := by
  induction actions generalizing p with
  | nil => rfl
  | cons action actions ih =>
    have none : action.frame? = none := by
      rw [List.filterMap_eq_nil_iff] at silent
      exact silent action List.mem_cons_self
    rw [List.filterMap_cons_none none] at silent
    have same : perform happening p action =
        { p with state := (perform happening p action).state } := by
      cases action <;> first | rfl | cases none
    rw [List.foldl_cons, ih _ silent, same]

/-- The state noted is the one published last. -/
theorem state_foldl_perform (p : Passage) (actions : List Action) :
    (actions.foldl (perform happening) p).state =
      (actions.filterMap Action.published?).getLastD p.state := by
  induction actions generalizing p with
  | nil => rfl
  | cons action actions ih =>
    rw [List.foldl_cons, ih]
    cases action with
    | publish state => exact (List.getLastD_cons ..).symm
    | _ => rfl

/-- What is completed and what came is noted when it happens. -/
theorem foldl_perform_heard (p : Passage) (actions : List Action) :
    (actions.foldl (perform happening) p).completed = p.completed ∧
      (actions.foldl (perform happening) p).messages = p.messages := by
  induction actions generalizing p with
  | nil => exact ⟨rfl, rfl⟩
  | cons action actions ih =>
    rw [List.foldl_cons, (ih _).1, (ih _).2]
    cases action <;> exact ⟨rfl, rfl⟩

theorem length_follow_completed
    (underWay : happening = .sent → ∃ frame, p.underWay = some frame) :
    (p.follow (happening, actions)).completed.length =
      p.completed.length + if happening = .sent then 1 else 0 := by
  rw [follow, (foldl_perform_heard _ _).1]
  by_cases sent : happening = .sent
  · obtain ⟨frame, underWay⟩ := underWay sent
    simp [hear, sent, underWay]
  · simp [hear, sent]

theorem messages_hear (connected : happening.message?.isSome = true → p.state = .connected) :
    (p.hear happening).messages = p.messages ++ happening.message?.toList := by
  cases came : happening.message? with
  | none => simp [hear, came]
  | some message => simp [hear, came, connected]

theorem length_follow_messages
    (connected : happening.message?.isSome = true → p.state = .connected) :
    (p.follow (happening, actions)).messages.length =
      p.messages.length + if happening.message?.isSome then 1 else 0 := by
  rw [follow, (foldl_perform_heard _ _).2, messages_hear connected, List.length_append]
  cases happening.message? <;> rfl

/-- The notes match a carrier: it is sending what is under way, everything sent is of the two
    kinds, and its session counts the bytes of the payloads taken and of the data in the
    messages. -/
structure Matches (c : Carrier) (p : Passage) : Prop where
  underWay {errand : Errand} (sends : c.phase = .sending errand) :
    ∃ frame, p.underWay = some frame
  kinds : ∀ frame ∈ p.completed ++ p.underWay.toList, frame.kind = .data ∨ frame.kind = .ack
  sent : c.session.sent = UInt64.ofNat p.taken.flatten.length
  received : c.session.received = UInt64.ofNat (p.messages.flatMap Wire.payload).length

namespace Matches

theorem start (sid : String) : Matches (.start sid) {} where
  underWay sends := by cases sends
  kinds frame member := by cases member
  sent := rfl
  received := rfl

/-- Nothing but the session and the phase matters. -/
theorem congr (h : Matches c p) (session : c'.session = c.session) (phase : c'.phase = c.phase) :
    Matches c' p where
  underWay := by
    rw [phase]
    exact h.underWay
  kinds := h.kinds
  sent := by
    rw [session]
    exact h.sent
  received := by
    rw [session]
    exact h.received

theorem kinds_hear (h : Matches c p) :
    ∀ frame ∈ (p.hear happening).completed ++ (p.hear happening).underWay.toList,
      frame.kind = .data ∨ frame.kind = .ack := by
  intro frame member
  refine h.kinds frame ?_
  simp only [hear] at member
  split at member <;> split at member <;> simp_all

/-- The bytes received are those that the messages have brought. -/
theorem received_hear (h : Matches c p) (step : c.Step settings happening c' actions)
    (connected : happening.message?.isSome = true → p.state = .connected) :
    c'.session.received =
      UInt64.ofNat ((p.hear happening).messages.flatMap Wire.payload).length := by
  have brought : happening.brought = happening.message?.toList.flatMap Wire.payload := by
    unfold Happening.brought Happening.message?
    split <;> simp
  rw [step.passesOn.received, h.received, brought, messages_hear connected, List.flatMap_append,
    List.length_append, UInt64.ofNat_add]

/-- A step that hands no frame to a connection. -/
theorem quiet (h : Matches c p) (step : c.Step settings happening c' actions)
    (connected : happening.message?.isSome = true → p.state = .connected)
    (silent : actions.filterMap Action.frame? = []) (sent : c'.session.sent = c.session.sent)
    (rests : ∀ errand, c'.phase ≠ .sending errand) :
    Matches c' (p.follow (happening, actions)) := by
  rw [follow, foldl_perform_of_silent _ silent]
  exact {
    underWay := fun sends => absurd sends (rests _)
    kinds := h.kinds_hear
    sent := sent.trans h.sent
    received := h.received_hear step connected }

/-- A step that hands a frame to a connection, after `front` has been done. -/
theorem sends {frame : Frame} (h : Matches c p) (front : List Action)
    (step : c.Step settings happening c' (front ++ [.send frame]))
    (connected : happening.message?.isSome = true → p.state = .connected)
    (silent : front.filterMap Action.frame? = [])
    (kind : frame.kind = .data ∨ frame.kind = .ack)
    (sent : c'.session.sent =
      c.session.sent + UInt64.ofNat (written happening frame).flatten.length) :
    Matches c' (p.follow (happening, front ++ [.send frame])) := by
  rw [follow, List.foldl_append, foldl_perform_of_silent _ silent]
  exact {
    underWay := fun _ => ⟨frame, rfl⟩
    kinds := fun other member => by
      rcases List.mem_append.mp member with earlier | now
      · exact h.kinds_hear other (List.mem_append_left _ earlier)
      · obtain rfl : other = frame := by simpa [perform] using now
        exact kind
    sent := by
      show c'.session.sent = UInt64.ofNat (p.taken ++ written happening frame).flatten.length
      rw [sent, h.sent, List.flatten_append, List.length_append, UInt64.ofNat_add]
    received := h.received_hear step connected }

/-- What every step preserves. -/
theorem step (h : Matches c p) (step : c.Step settings happening c' actions)
    (connected : happening.message?.isSome = true → p.state = .connected) :
    Matches c' (p.follow (happening, actions)) := by
  have stepped := step
  have resting {d : Carrier} (away : d.isEstablished = false) (errand : Errand) :
      d.phase ≠ .sending errand := by
    intro sends
    simp [Carrier.isEstablished, sends] at away
  cases step with
  -- who is told to end goes on sending what is under way
  | told =>
    exact {
      underWay := h.underWay
      kinds := h.kinds
      sent := h.sent
      received := h.received_hear stepped connected }
  | writesOver opened | skipped opened | received opened =>
    refine h.quiet stepped connected rfl rfl fun errand sends => ?_
    cases (Carrier.phase_of_isOpen opened).symm.trans sends
  | acknowledged opened free means taken =>
    refine h.quiet stepped connected rfl ?_ fun errand sends => ?_
    · rw [Carrier.updateThrottle_session]
      exact (Carrier.acknowledge_bytes taken).1
    · rw [Carrier.updateThrottle_phase] at sends
      cases (Carrier.phase_of_isOpen opened).symm.trans sends
  | @handed payload reader opened =>
    refine h.quiet stepped connected (by simp) rfl fun errand sends => ?_
    cases (Carrier.phase_of_isOpen opened).symm.trans sends
  | @reported payload reader opened =>
    exact h.sends [.hand reader payload] stepped connected (by simp) (.inr rfl)
      (by simp [written, Session.takeAck])
  | took opened =>
    exact h.sends [_] stepped connected rfl (.inl rfl) (by simp [written, Session.recordSent])
  | wrote sends =>
    exact h.quiet stepped connected rfl (by rw [Carrier.updateThrottle_session]) (by simp)
  | hasReported sends => exact h.quiet stepped connected rfl rfl (by simp)
  | resent sends => exact h.sends [_] stepped connected rfl (.inl rfl) (by simp [written])
  | @recovered recovery sends =>
    have aside : ∀ action ∈ .count .frameSent :: (c.recovered settings.flow recovery).2,
        action.isAside = true :=
      List.forall_mem_cons.mpr ⟨rfl, Carrier.recovered_aside recovery⟩
    exact h.quiet stepped connected (Action.frames_eq_nil aside) (by rw [Carrier.recovered_session])
      (by simp)
  | resumed attempts taken kept =>
    refine h.sends [.install] stepped connected rfl (.inl rfl) ?_
    simp [written, (Carrier.acknowledge_bytes taken).1]
  | @resumedWhole number session recovery attempts taken kept =>
    have aside := @Carrier.recovered_aside settings.flow { c with session } recovery
    have silent := Action.frames_eq_nil aside
    refine h.quiet stepped connected (by simpa [Action.frame?] using silent) ?_ (by simp)
    rw [Carrier.recovered_session]
    exact (Carrier.acknowledge_bytes taken).1
  | breached opened free means refused leaves | turnedAway attempts refused leaves =>
    have silent := Action.frames_eq_nil leaves.aside
    exact h.quiet stepped connected (by simpa [Action.frame?] using silent) (by rw [leaves.session])
      (resting leaves.away)
  | unsendable attempts taken leaves =>
    have silent := Action.frames_eq_nil leaves.aside
    refine h.quiet stepped connected (by simpa [Action.frame?] using silent) ?_
      (resting leaves.away)
    rw [leaves.session]
    exact (Carrier.acknowledge_bytes taken).1
  | left other leaves =>
    exact h.quiet stepped connected (Action.frames_eq_nil leaves.aside) (by rw [leaves.session])
      (resting leaves.away)

end Matches

end Passage

/-! ## The account of a stream -/

/-- What has been counted, beside what can be noted of the connections. -/
structure Account where
  counted : Traffic := {}
  passage : Passage := {}
  deriving DecidableEq, Repr

namespace Account

/-- The account after what is done about something that happens. -/
def follow (a : Account) (entry : Happening × List Action) : Account where
  counted := a.counted.add (tally entry.2)
  passage := a.passage.follow entry

/-- What has been counted of a log does not depend on the notes, nor these on the counters. -/
theorem foldl_follow (a : Account) (log : List (Happening × List Action)) :
    log.foldl follow a =
      ⟨a.counted.add (tally (log.flatMap Prod.snd)), log.foldl Passage.follow a.passage⟩ := by
  induction log generalizing a with
  | nil => simp
  | cons entry log ih =>
    rw [List.foldl_cons, ih, List.flatMap_cons, tally_append, ← Traffic.add_assoc]
    rfl

/-- The notes match the carrier, and the counters are what they say: the bytes of the session,
    the frames whose sending succeeded, and the messages. -/
structure Balances (c : Carrier) (a : Account) : Prop where
  noted : a.passage.Matches c
  state : a.passage.state = c.state
  lived : ∃ did, c.Lived did
  bytesSent : a.counted.bytesSent = c.session.sent
  bytesReceived : a.counted.bytesReceived = c.session.received
  framesSent : a.counted.framesSent = UInt64.ofNat a.passage.completed.length
  framesReceived : a.counted.framesReceived = UInt64.ofNat a.passage.messages.length

variable {a : Account} {settings : RelaySettings} {c c' : Carrier} {happening : Happening}
  {actions : List Action}

/-- Messages come to a stream that is connected. -/
theorem Balances.connected (h : a.Balances c)
    (moved : c.step? settings happening = some (c', actions))
    (came : happening.message?.isSome = true) : a.passage.state = .connected := by
  obtain ⟨did, lived⟩ := h.lived
  rw [h.state]
  cases happening with
  | arrival arrival =>
    have takes := (Option.ite_none_right_eq_some.mp moved).1
    exact lived.connected (Carrier.stage_of_waiting (Carrier.waiting_of_takes takes).1)
  | _ => cases came

/-- What a carrier does is counted once and noted once. -/
theorem Balances.step (h : a.Balances c)
    (moved : c.step? settings happening = some (c', actions)) :
    (a.follow (happening, actions)).Balances c' := by
  have counts := (Carrier.step_of_step? moved).counts
  have turn := Carrier.turn_of_step? moved
  have connected := h.connected moved
  have completes : happening = .sent → ∃ frame, a.passage.underWay = some frame := by
    rintro rfl
    simp only [Carrier.step?] at moved
    split at moved <;> cases moved
    rename_i errand sends
    exact h.noted.underWay sends
  obtain ⟨did, lived⟩ := h.lived
  refine ⟨h.noted.step (Carrier.step_of_step? moved) connected, ?_, ⟨_, lived.turn turn⟩,
    ?_, ?_, ?_, ?_⟩
  · have heard : (a.passage.hear happening).state = c.state := h.state
    have told := @Passage.state_foldl_perform happening (a.passage.hear happening) actions
    rw [heard, ← turn.state_eq] at told
    exact told
  · rw [counts.bytesSent, ← h.bytesSent]
    rfl
  · rw [counts.bytesReceived, ← h.bytesReceived]
    rfl
  · show (a.counted.add (tally actions)).framesSent = _
    rw [Traffic.add, h.framesSent, counts.framesSent, follow,
      Passage.length_follow_completed completes, UInt64.ofNat_add]
    split <;> rfl
  · show (a.counted.add (tally actions)).framesReceived = _
    rw [Traffic.add, h.framesReceived, counts.framesReceived, follow,
      Passage.length_follow_messages connected, UInt64.ofNat_add]
    split <;> rfl

/-- Nor does anything matter that happens elsewhere. -/
theorem Balances.spares {s s' : Stream} (h : a.Balances s.carrier) (spared : s.Spares s') :
    a.Balances s'.carrier where
  noted := h.noted.congr spared.session spared.phase
  state := h.state.trans spared.state.symm
  lived := by
    obtain ⟨did, lived⟩ := h.lived
    exact ⟨did, lived.congr spared.phase spared.state⟩
  bytesSent := by
    rw [spared.session]
    exact h.bytesSent
  bytesReceived := by
    rw [spared.session]
    exact h.bytesReceived
  framesSent := h.framesSent
  framesReceived := h.framesReceived

/-- What every run preserves. -/
theorem Balances.run {s s' : Stream} {events : List Stream.Event}
    {log : List (Happening × List Action)} (h : a.Balances s.carrier)
    (run : s.run? settings events = some (s', log)) : (log.foldl follow a).Balances s'.carrier := by
  induction events generalizing s a log with
  | nil =>
    cases run
    exact h
  | cons event events ih =>
    obtain ⟨next, entry, rest, stepped, further, rfl⟩ := Stream.run?_cons.mp run
    rw [List.foldl_append]
    refine ih ?_ further
    cases event with
    | happens happening =>
      obtain ⟨actions, rfl, moved⟩ := Stream.step?_of_next? stepped
      exact h.step (Stream.carrier_of_step? moved)
    | reads size =>
      obtain ⟨-, rfl, result, taken⟩ := Stream.takeChunk?_of_next? stepped
      rw [Stream.takeChunk?_frame taken]
      exact h
    | uses how =>
      cases stepped
      exact h.spares (Stream.use_spares s how)

end Account

namespace Stream

/-- A run of a stream from its start, and the proof that it is one. -/
structure Run where
  settings : RelaySettings
  sid : String
  events : List Event
  last : Stream
  log : List (Happening × List Action)
  ran : (start sid).run? settings events = some (last, log)

namespace Run

/-- The run in which these events happen, if they can. -/
def ofEvents (settings : RelaySettings) (sid : String) (events : List Event)
    (possible : ((start sid).run? settings events).isSome = true) : Run where
  settings := settings
  sid := sid
  events := events
  last := (((start sid).run? settings events).get possible).1
  log := (((start sid).run? settings events).get possible).2
  ran := (Option.some_get possible).symm

/-- What is counted in a run, in order. -/
def counted (run : Run) : List TrafficEntry :=
  (run.log.flatMap Prod.snd).filterMap Action.entry?

/-- What can be noted of its connections. -/
def passage (run : Run) : Passage := .ofLog run.log

/-- The counters before and after a run agree with the session in which it ends and with what was
    seen on its connections. -/
structure Adds (run : Run) (before after : Traffic) : Prop where
  bytesSent : after.bytesSent = before.bytesSent + run.last.carrier.session.sent
  bytesReceived : after.bytesReceived = before.bytesReceived + run.last.carrier.session.received
  framesSent :
    after.framesSent = before.framesSent + UInt64.ofNat run.passage.completed.length
  framesReceived :
    after.framesReceived = before.framesReceived + UInt64.ofNat run.passage.messages.length

/-- At the end of a run its account is balanced. -/
theorem balances (run : Run) :
    Account.Balances run.last.carrier
      ⟨tally (run.log.flatMap Prod.snd), run.passage⟩ := by
  have before : Account.Balances (.start run.sid) {} :=
    ⟨.start run.sid, rfl, ⟨_, .start run.sid⟩, rfl, rfl, rfl, rfl⟩
  have balanced := before.run (s := start run.sid) run.ran
  rw [Account.foldl_follow, Traffic.add_comm, Traffic.add_empty] at balanced
  exact balanced

theorem adds (run : Run) (before : Traffic) : run.Adds before (before.recordAll run.counted) := by
  have balanced := run.balances
  rw [Traffic.recordAll_eq]
  exact {
    bytesSent := congrArg (before.bytesSent + ·) balanced.bytesSent
    bytesReceived := congrArg (before.bytesReceived + ·) balanced.bytesReceived
    framesSent := congrArg (before.framesSent + ·) balanced.framesSent
    framesReceived := congrArg (before.framesReceived + ·) balanced.framesReceived }

/-- The counters after several runs, one after the other, have grown by the sums. -/
theorem recordAll_flatMap (before : Traffic) (runs : List Run) :
    let after := before.recordAll (runs.flatMap counted)
    after.bytesSent =
        runs.foldl (fun sum run => sum + run.last.carrier.session.sent) before.bytesSent ∧
      after.bytesReceived =
        runs.foldl (fun sum run => sum + run.last.carrier.session.received) before.bytesReceived ∧
      after.framesSent =
        runs.foldl (fun sum run => sum + UInt64.ofNat run.passage.completed.length)
          before.framesSent ∧
      after.framesReceived =
        runs.foldl (fun sum run => sum + UInt64.ofNat run.passage.messages.length)
          before.framesReceived := by
  induction runs generalizing before with
  | nil => exact ⟨rfl, rfl, rfl, rfl⟩
  | cons run runs ih =>
    have adds := run.adds before
    have rest := ih (before.recordAll run.counted)
    rw [adds.bytesSent, adds.bytesReceived, adds.framesSent, adds.framesReceived,
      ← Traffic.recordAll_append] at rest
    exact rest

end Run

/-- A run of a stream makes the counters grow by the bytes that its session counts, which are
    those of each payload of a write once, whether its sending fails or is repeated, and those of
    the data received; by the DATA and ACK frames whose sending succeeded, in whatever way; and by
    the messages that came while it was connected, with a meaning or without. Counters that several
    streams share grow by the sums, in whichever order the streams count. -/
theorem traffic_of_runs (before : Traffic) (runs : List Run) (order : List TrafficEntry)
    (interleaved : order.Perm (runs.flatMap Run.counted)) :
    (∀ run ∈ runs,
      (∀ traffic : Traffic, run.Adds traffic (traffic.recordAll run.counted)) ∧
      run.last.carrier.session.sent = UInt64.ofNat run.passage.taken.flatten.length ∧
      run.last.carrier.session.received =
        UInt64.ofNat (run.passage.messages.flatMap Wire.payload).length ∧
      ∀ frame ∈ run.passage.completed, frame.kind = .data ∨ frame.kind = .ack) ∧
    let after := before.recordAll order
    after.bytesSent =
        runs.foldl (fun sum run => sum + run.last.carrier.session.sent) before.bytesSent ∧
      after.bytesReceived =
        runs.foldl (fun sum run => sum + run.last.carrier.session.received) before.bytesReceived ∧
      after.framesSent =
        runs.foldl (fun sum run => sum + UInt64.ofNat run.passage.completed.length)
          before.framesSent ∧
      after.framesReceived =
        runs.foldl (fun sum run => sum + UInt64.ofNat run.passage.messages.length)
          before.framesReceived := by
  constructor
  · intro run _
    have noted := run.balances.noted
    refine ⟨run.adds, noted.sent, noted.received, fun frame member => ?_⟩
    exact noted.kinds frame (List.mem_append_left _ member)
  · intro after
    have sums := Run.recordAll_flatMap before runs
    rwa [← Traffic.recordAll_perm before interleaved] at sums

/-- Two streams count in turns: one sends a write whose sending has failed once more, from where
    the relay goes on, and gets a message without a meaning; the other one gets a message with an
    unknown tag and one byte. -/
theorem traffic_of_runs_interleaved :
    let first := Run.ofEvents {} "a"
      [.uses (.beginWrite [1, 2, 3]), .uses .goOnWriting, .happens (.write 0 [1, 2, 3]),
        .happens (.sendFailed (.transport "reset")), .happens (.resumed 1), .happens .sent,
        .happens (.arrival (.message [0]))] (by decide +kernel)
    let second := Run.ofEvents {} "b"
      [.happens (.arrival (.message [0, 9])),
        .happens (.arrival (.message [0, 4, 0, 0, 0, 1, 7])), .happens (.room true),
        .uses (.beginWrite [8, 9]), .uses .goOnWriting, .happens (.write 0 [8, 9]),
        .happens .sent] (by decide +kernel)
    let order : List TrafficEntry :=
      [.frameReceived, .dataSent 3, .frameReceived, .frameSent, .dataReceived 1, .reconnected,
        .dataSent 2, .frameReceived, .frameSent]
    order.Perm ([first, second].flatMap Run.counted) ∧
      first.passage.taken = [[1, 2, 3]] ∧ first.passage.completed = [.data [2, 3]] ∧
      first.passage.messages = [[0]] ∧ first.last.carrier.session.sent = 3 ∧
      (Traffic.recordAll {} order).bytesSent = 5 ∧
      (Traffic.recordAll {} order).bytesReceived = 1 ∧
      (Traffic.recordAll {} order).framesSent = 2 ∧
      (Traffic.recordAll {} order).framesReceived = 3 := by
  intro first second order
  have interleaved : order.Perm ([first, second].flatMap Run.counted) := by decide +kernel
  obtain ⟨each, bytesSent, bytesReceived, framesSent, framesReceived⟩ :=
    traffic_of_runs {} [first, second] order interleaved
  have taken : first.passage.taken = [[1, 2, 3]] := by decide +kernel
  have sent := (each first List.mem_cons_self).2.1
  rw [taken] at sent
  refine ⟨interleaved, taken, by decide +kernel, by decide +kernel, sent, ?_, ?_, ?_, ?_⟩
  · exact bytesSent.trans (by decide +kernel)
  · exact bytesReceived.trans (by decide +kernel)
  · exact framesSent.trans (by decide +kernel)
  · exact framesReceived.trans (by decide +kernel)

end Stream

end RelayTunnel
