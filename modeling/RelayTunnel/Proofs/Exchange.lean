import RelayTunnel.Proofs.Carrier
import RelayTunnel.Proofs.Session

/-!
# Writing to an honest relay

A carrier together with a relay that keeps to the protocol. What the relay gets of a
connection is some front of the frames handed to it, in order: frames that never arrive
stay under way until the relay has taken the session up on another connection. The
relay acknowledges no more than it holds and never goes back, and when it takes the
session up again it says how much it holds by then. Anything else may happen at any
time: connections break, messages fail or stall, attempts fail, the relay sends data.

The relay then holds a front of what the carrier has taken from the writer at every
moment, and all of it whenever the carrier waits and nothing is under way.
-/

namespace RelayTunnel

/-- A carrier, an honest relay and what is under way between them. -/
structure Exchange where
  carrier : Carrier
  /-- The bytes that the carrier has taken from the writer. -/
  accepted : Bytes := []
  /-- The frames handed to the current connection that have not reached the relay. -/
  outgoing : List Frame := []
  /-- The bytes that the relay has received. -/
  held : Bytes := []
  /-- The last count that the relay has stated. -/
  stated : Nat := 0
  /-- The counts in acknowledgements that have not reached the carrier. -/
  acks : List Nat := []
  /-- The count in the relay's answer to the attempt that is under way. -/
  answer : Option Nat := none
  deriving DecidableEq, Repr

namespace Exchange

/-- Something that can happen in an exchange. -/
inductive Event where
  /-- To the carrier. -/
  | happens (happening : Happening)
  /-- The next frame reaches the relay. -/
  | frameArrives
  /-- The relay acknowledges so many bytes, no fewer than it has ever said it holds, be it in an
      acknowledgement or in its answer when it took the session up again. -/
  | acknowledges (number : Nat)
  /-- The relay takes the session up again. From then on nothing arrives from the
      connection before. -/
  | answers
  deriving DecidableEq, Repr

/-- The exchange of a session that was just opened. -/
def start (sid : String) : Exchange := { carrier := .start sid }

/-- Whether the relay's part in a happening agrees with what it has sent. The carrier takes
    no write that would make it wait for the acknowledgement of 2^64 bytes. -/
def fits (x : Exchange) : Happening → Bool
  | .arrival (.message message) =>
    match Wire.ack? message with
    | some number => x.acks.head?.map UInt64.ofNat = some number
    | none => true
  | .resumed number => x.answer.map UInt64.ofNat = some number
  | .write _ payload => x.carrier.session.replaySize + payload.length < UInt64.size
  | _ => true

/-- The acknowledgements under way once something has happened to the carrier. -/
def acksAfter (x : Exchange) : Happening → List Nat
  | .arrival (.message message) => if (Wire.ack? message).isSome then x.acks.tail else x.acks
  | _ => x.acks

/-- The answer under way once something has happened to the carrier. -/
def answerAfter (x : Exchange) : Happening → Option Nat
  | .resumed _ | .resumeFailed _ => none
  | _ => x.answer

/-- The exchange once something has happened to the carrier and it has done something
    about it. -/
def after (x : Exchange) (happening : Happening) (carrier : Carrier) (actions : List Action) :
    Exchange :=
  { x with
    carrier
    accepted := x.accepted ++ actions.flatMap (Action.recorded happening)
    outgoing := x.outgoing ++ actions.filterMap Action.frame?
    acks := x.acksAfter happening
    answer := x.answerAfter happening }

/-- The exchange after an event; `none` if it cannot happen. -/
def step? (settings : RelaySettings) (x : Exchange) : Event → Option Exchange
  | .happens happening =>
    if x.fits happening then
      (x.carrier.step? settings happening).map fun (carrier, actions) =>
        x.after happening carrier actions
    else none
  | .frameArrives =>
    match x.outgoing with
    | [] => none
    | frame :: outgoing => some { x with outgoing, held := x.held ++ frame.payload }
  | .acknowledges number =>
    if x.stated ≤ number ∧ number ≤ x.held.length then
      some { x with stated := number, acks := x.acks ++ [number] }
    else none
  | .answers =>
    if x.carrier.isResuming then
      some { x with
        outgoing := []
        stated := x.held.length
        acks := []
        answer := some x.held.length }
    else none

/-- The exchange after a series of events. -/
def run? (settings : RelaySettings) (x : Exchange) : List Event → Option Exchange
  | [] => some x
  | event :: events => (x.step? settings event).bind (run? settings · events)

/-- The bytes of the stream that are under way to the relay. -/
def underWay (x : Exchange) : Bytes := x.outgoing.flatMap Frame.payload

/-! ## The invariant -/

/-- What holds of every exchange, where the carrier knows of `released` bytes that the
    relay has received them. -/
structure Sound (x : Exchange) (released : Nat) : Prop where
  books : x.carrier.session.Balanced x.accepted released
  bounded : x.accepted.length < released + UInt64.size
  /-- The counts go up from the carrier to the relay. -/
  counts : (released :: x.acks ++ [x.stated]).Pairwise (· ≤ ·)
  honest : x.stated ≤ x.held.length
  front : x.held ++ x.underWay <+: x.accepted
  /-- What the relay does not hold is under way or will be sent again. -/
  covered : x.carrier.isEstablished = true →
    x.held ++ (x.underWay ++ x.carrier.unsent) = x.accepted
  answered : ∀ number, x.answer = some number →
    number = x.held.length ∧ x.outgoing = [] ∧ x.carrier.isEstablished = false ∧
      (number :: x.acks ++ [x.stated]).Pairwise (· ≤ ·)

namespace Sound

variable {settings : RelaySettings} {x y : Exchange} {released : Nat}

theorem start (sid : String) : (start sid).Sound 0 where
  books := .start sid
  bounded := by simp [Exchange.start, UInt64.size]
  counts := by simp [Exchange.start]
  honest := Nat.le_refl 0
  front := List.nil_prefix
  covered _ := rfl
  answered number same := by simp [Exchange.start] at same

theorem released_le_stated (h : x.Sound released) : released ≤ x.stated := by
  have counts := h.counts
  rw [List.cons_append, List.pairwise_cons] at counts
  exact counts.1 x.stated (by simp)

theorem released_le_held (h : x.Sound released) : released ≤ x.held.length :=
  Nat.le_trans h.released_le_stated h.honest

theorem held_prefix (h : x.Sound released) : x.held <+: x.accepted :=
  (List.prefix_append ..).trans h.front

/-- The relay answers only while there is no connection. -/
theorem answer_eq_none (h : x.Sound released) (established : x.carrier.isEstablished = true) :
    x.answer = none := by
  cases answer : x.answer with
  | none => rfl
  | some number =>
    obtain ⟨_, _, away, _⟩ := h.answered number answer
    rw [established] at away
    cases away

/-- Once the carrier waits and nothing is under way, the relay holds everything. -/
theorem held_eq (h : x.Sound released) (waits : x.carrier.phase = .waiting)
    (arrived : x.outgoing = []) : x.held = x.accepted := by
  simpa [Carrier.unsent, underWay, waits, arrived] using
    h.covered (by simp [Carrier.isEstablished, waits])

/-! ## Acknowledgements -/

/-- The next acknowledgement is between what the carrier knows and the ones behind it. -/
theorem head_of_fits (h : x.Sound released) {message : Bytes} {number : UInt64}
    (fits : x.fits (.arrival (.message message)) = true) (means : Wire.ack? message = some number) :
    ∃ count, number = UInt64.ofNat count ∧ released ≤ count ∧ count ≤ x.held.length ∧
      (count :: x.acks.tail ++ [x.stated]).Pairwise (· ≤ ·) := by
  simp only [Exchange.fits, means, decide_eq_true_eq] at fits
  obtain ⟨count, head, rfl⟩ := Option.map_eq_some_iff.mp fits
  obtain ⟨rest, acks⟩ := List.head?_eq_some_iff.mp head
  have counts := h.counts
  rw [acks, List.cons_append, List.pairwise_cons] at counts
  obtain ⟨least, counts⟩ := counts
  have most : count ≤ x.stated := by
    rw [List.cons_append, List.pairwise_cons] at counts
    exact counts.1 x.stated (by simp)
  refine ⟨count, rfl, least count (by simp), Nat.le_trans most h.honest, ?_⟩
  rw [acks, List.tail_cons]
  exact counts

/-- The answer to an attempt is what the relay holds. -/
theorem answer_of_fits (h : x.Sound released) {number : UInt64}
    (fits : x.fits (.resumed number) = true) :
    number = UInt64.ofNat x.held.length ∧ x.answer = some x.held.length := by
  simp only [Exchange.fits, decide_eq_true_eq] at fits
  obtain ⟨count, answer, rfl⟩ := Option.map_eq_some_iff.mp fits
  obtain ⟨rfl, _⟩ := h.answered count answer
  exact ⟨rfl, answer⟩

/-- Every count between the released bytes and those that the relay holds is taken. -/
theorem acknowledge (h : x.Sound released) {count : Nat} (least : released ≤ count)
    (most : count ≤ x.held.length) :
    ∃ session, x.carrier.session.acknowledge (UInt64.ofNat count) = .ok session ∧
      session.Balanced x.accepted count :=
  h.books.acknowledge_ofNat h.bounded least (Nat.le_trans most h.held_prefix.length_le)

/-- No acknowledgement of the relay is refused. -/
theorem acknowledge_of_fits (h : x.Sound released) {happening : Happening} {number : UInt64}
    (fits : x.fits happening = true) (means : happening.acknowledgement? = some number) :
    ∃ session, x.carrier.session.acknowledge number = .ok session := by
  unfold Happening.acknowledgement? at means
  split at means
  · obtain ⟨count, rfl, least, most, _⟩ := h.head_of_fits fits means
    obtain ⟨session, taken, _⟩ := h.acknowledge least most
    exact ⟨session, taken⟩
  · cases means
    obtain ⟨rfl, _⟩ := h.answer_of_fits fits
    obtain ⟨session, taken, _⟩ := h.acknowledge h.released_le_held (Nat.le_refl _)
    exact ⟨session, taken⟩
  · cases means

/-! ## What happens to the carrier -/

variable {happening : Happening} {c' : Carrier} {actions : List Action} {session : Session}

/-- Happenings other than the end of an attempt leave the answer alone, and that clears
    it. -/
theorem answer_of_answerAfter {number : Nat} (same : x.answerAfter happening = some number) :
    x.answer = some number := by
  unfold answerAfter at same
  split at same
  · cases same
  · cases same
  · exact same

/-- Nothing is handed over and nothing of the stream is recorded; the relay may have
    acknowledged more. -/
theorem silent (h : x.Sound released) {count : Nat} (least : released ≤ count)
    (books : c'.session.Balanced x.accepted count)
    (counts : (count :: x.acksAfter happening ++ [x.stated]).Pairwise (· ≤ ·))
    (recorded : actions.flatMap (Action.recorded happening) = [])
    (frames : actions.filterMap Action.frame? = [])
    (acks : x.carrier.isEstablished = true ∨ x.acksAfter happening = x.acks)
    (stays : c'.isEstablished = true →
      x.carrier.isEstablished = true ∧ c'.unsent = x.carrier.unsent) :
    (x.after happening c' actions).Sound count where
  books := by simpa [after, recorded] using books
  bounded := by
    have bounded := h.bounded
    simp only [after, recorded, List.append_nil]
    omega
  counts := counts
  honest := h.honest
  front := by simpa [after, recorded, frames, underWay] using h.front
  covered established := by
    obtain ⟨before, same⟩ := stays established
    simpa [after, recorded, frames, underWay, same] using h.covered before
  answered number same := by
    obtain ⟨whole, empty, away, counts⟩ := h.answered number (answer_of_answerAfter same)
    rw [away] at acks stays
    refine ⟨whole, by simp [after, empty, frames], ?_, ?_⟩
    · simpa [after] using stays
    · simpa [after, acks.resolve_left (by simp)] using counts

/-- The same where the relay has not said anything. -/
theorem quiet (h : x.Sound released) (books : c'.session.Balanced x.accepted released)
    (recorded : actions.flatMap (Action.recorded happening) = [])
    (frames : actions.filterMap Action.frame? = []) (acks : x.acksAfter happening = x.acks)
    (stays : c'.isEstablished = true →
      x.carrier.isEstablished = true ∧ c'.unsent = x.carrier.unsent) :
    (x.after happening c' actions).Sound released :=
  h.silent (Nat.le_refl _) books (by rw [acks]; exact h.counts) recorded frames (.inr acks) stays

/-- An acknowledgement is taken. -/
theorem acknowledged (h : x.Sound released) {message : Bytes} {number : UInt64}
    (fits : x.fits (.arrival (.message message)) = true) (means : Wire.ack? message = some number)
    (waits : x.carrier.phase = .waiting)
    (taken : x.carrier.session.acknowledge number = .ok session)
    (same : c'.session = session) (phase : c'.phase = .waiting) :
    ∃ count, (x.after (.arrival (.message message)) c' [.count .frameReceived]).Sound count := by
  have established : x.carrier.isEstablished = true := by simp [Carrier.isEstablished, waits]
  obtain ⟨count, rfl, least, most, counts⟩ := h.head_of_fits fits means
  obtain ⟨_, again, books⟩ := h.acknowledge least most
  obtain rfl := Except.ok.inj (taken.symm.trans again)
  refine ⟨count, h.silent least (by rwa [same]) ?_ rfl rfl (.inl established) fun _ => ?_⟩
  · simpa [acksAfter, means] using counts
  · exact ⟨established, by simp [Carrier.unsent, waits, phase]⟩

/-- A frame is handed over on the established session, after which the rest of what was
    unsent and recorded is still to be sent again. -/
theorem sends (h : x.Sound released) (established : x.carrier.isEstablished = true)
    (frame : Frame) (recorded : Bytes)
    (records : actions.flatMap (Action.recorded happening) = recorded)
    (frames : actions.filterMap Action.frame? = [frame]) (acks : x.acksAfter happening = x.acks)
    (books : c'.session.Balanced (x.accepted ++ recorded) released)
    (bounded : (x.accepted ++ recorded).length < released + UInt64.size)
    (rest : x.carrier.unsent ++ recorded = frame.payload ++ c'.unsent) :
    (x.after happening c' actions).Sound released := by
  have covered : x.held ++ (x.underWay ++ (frame.payload ++ c'.unsent)) =
      x.accepted ++ recorded := by
    rw [← rest, ← h.covered established]
    simp only [List.append_assoc]
  exact {
    books := by simpa only [after, records] using books
    bounded := by simpa only [after, records] using bounded
    counts := by simpa only [after, acks] using h.counts
    honest := h.honest
    front := by
      refine ⟨c'.unsent, ?_⟩
      simpa [after, records, frames, underWay] using covered
    covered := fun _ => by simpa [after, records, frames, underWay] using covered
    answered := fun number same => by
      have answer := answer_of_answerAfter same
      rw [h.answer_eq_none established] at answer
      cases answer }

/-- An attempt succeeds, after which `left` of what the relay does not hold is not handed
    over yet. -/
theorem resumes (h : x.Sound released) {number : UInt64} (left : Bytes)
    (fits : x.fits (.resumed number) = true)
    (taken : x.carrier.session.acknowledge number = .ok session)
    (same : c'.session = session)
    (recorded : actions.flatMap (Action.recorded (.resumed number)) = [])
    (part : (actions.filterMap Action.frame?).flatMap Frame.payload ++ left =
      session.replay.flatten)
    (rest : c'.isEstablished = true → c'.unsent = left) :
    (x.after (.resumed number) c' actions).Sound x.held.length := by
  obtain ⟨rfl, answer⟩ := h.answer_of_fits fits
  obtain ⟨_, empty, _, counts⟩ := h.answered _ answer
  obtain ⟨_, again, books⟩ := h.acknowledge h.released_le_held (Nat.le_refl _)
  obtain rfl := Except.ok.inj (taken.symm.trans again)
  -- Nothing is under way on the new connection, so the replay buffer starts where the
  -- relay ends.
  have covered : x.held ++ ((actions.filterMap Action.frame?).flatMap Frame.payload ++ left) =
      x.accepted := by
    rw [part, books.replay]
    exact List.prefix_iff_eq_append.mp h.held_prefix
  exact {
    books := by simpa [after, recorded, same] using books
    bounded := by
      have bounded := h.bounded
      have least := h.released_le_held
      simp only [after, recorded, List.append_nil]
      omega
    counts := counts
    honest := h.honest
    front := by
      refine ⟨left, ?_⟩
      simpa [after, recorded, empty, underWay] using covered
    covered := fun established => by
      simpa [after, recorded, empty, underWay, rest established] using covered
    answered := fun number none => by simp [after, answerAfter] at none }

/-- Everything that happens to the carrier keeps the exchange sound. -/
theorem happens (h : x.Sound released) (fits : x.fits happening = true)
    (step : x.carrier.Step settings happening c' actions) :
    ∃ count, (x.after happening c' actions).Sound count := by
  cases step with
  | told => exact ⟨released, h.quiet h.books rfl rfl rfl fun established => ⟨established, rfl⟩⟩
  | writesOver =>
    exact ⟨released, h.quiet h.books rfl rfl rfl fun established => ⟨established, rfl⟩⟩
  | @skipped message opened free means =>
    have noAck : x.acksAfter (.arrival (.message message)) = x.acks := by
      rcases means with means | means <;> simp [acksAfter, Wire.ack?, means]
    exact ⟨released, h.quiet h.books rfl rfl noAck fun established => ⟨established, rfl⟩⟩
  | @received message payload opened free means nonempty =>
    have noAck : x.acksAfter (.arrival (.message message)) = x.acks := by
      simp [acksAfter, Wire.ack?, means]
    exact ⟨released, h.quiet (h.books.recordReceived _) rfl rfl noAck
      fun established => ⟨established, rfl⟩⟩
  | acknowledged opened free means taken =>
    have waits := Carrier.phase_of_isOpen opened
    exact h.acknowledged fits means waits taken (by simp) (by simpa using waits)
  | @breached message move opened free means refused leaves =>
    have noAck : x.acksAfter (.arrival (.message message)) = x.acks := by
      cases counts : Wire.ack? message with
      | none => simp [acksAfter, counts]
      | some number =>
        -- The breach is something else: this relay's counts are in the window.
        obtain ⟨violation, refused⟩ := refused number counts
        obtain ⟨session, taken⟩ := h.acknowledge_of_fits fits counts
        cases refused.symm.trans taken
    have aside : ∀ action ∈ .count .frameReceived :: move.2, action.isAside = true :=
      List.forall_mem_cons.mpr ⟨rfl, leaves.aside⟩
    exact ⟨released, h.quiet (leaves.session ▸ h.books) (Action.recorded_eq_nil aside)
      (Action.frames_eq_nil aside) noAck (by simp [leaves.away])⟩
  | handed opened held few =>
    exact ⟨released, h.quiet h.books (by simp) (by simp) rfl
      fun established => ⟨established, rfl⟩⟩
  | @reported payload reader opened held enough =>
    have waits := Carrier.phase_of_isOpen opened
    refine ⟨released, h.sends (by simp [Carrier.isEstablished, waits])
      (.ack x.carrier.session.received) [] ?_ ?_ rfl ?_ ?_ ?_⟩
    · cases reader <;> rfl
    · cases reader <;> rfl
    · simpa using h.books.takeAck
    · simpa using h.bounded
    · simp [Carrier.unsent, waits, Frame.payload]
  | @took number payload opened writes unthrottled small =>
    have waits := Carrier.phase_of_isOpen opened
    refine ⟨released, h.sends (by simp [Carrier.isEstablished, waits]) (.data payload) payload
      ?_ rfl rfl ?_ ?_ ?_⟩
    · simp [Action.recorded, Happening.payload]
    · exact h.books.recordSent payload
    · simp only [Exchange.fits, decide_eq_true_eq, h.books.replaySize] at fits
      have le := h.books.le
      rw [List.length_append]
      omega
    · simp [Carrier.unsent, waits, Frame.payload]
  | wrote sends =>
    exact ⟨released, h.quiet (by simpa using h.books) rfl rfl rfl
      fun _ => by simp [Carrier.isEstablished, Carrier.unsent, sends]⟩
  | hasReported sends =>
    exact ⟨released, h.quiet h.books rfl rfl rfl
      fun _ => by simp [Carrier.isEstablished, Carrier.unsent, sends]⟩
  | @resent recovery payload rest sends =>
    refine ⟨released, h.sends (by simp [Carrier.isEstablished, sends]) (.data payload) []
      rfl rfl rfl ?_ ?_ ?_⟩
    · simpa using h.books
    · simpa using h.bounded
    · simp [Carrier.unsent, sends, Frame.payload]
  | @recovered recovery sends =>
    have aside : ∀ action ∈ .count .frameSent :: (x.carrier.recovered settings.flow recovery).2,
        action.isAside = true :=
      List.forall_mem_cons.mpr ⟨rfl, Carrier.recovered_aside recovery⟩
    exact ⟨released, h.quiet (by simpa using h.books) (Action.recorded_eq_nil aside)
      (Action.frames_eq_nil aside) rfl
      fun _ => by simp [Carrier.isEstablished, Carrier.unsent, sends]⟩
  | @resumed number session recovery payload rest attempts taken kept =>
    refine ⟨x.held.length, h.resumes rest.flatten fits taken rfl rfl ?_ fun _ => rfl⟩
    rw [kept]
    simp [List.filterMap_cons, Action.frame?, Frame.payload]
  | @resumedWhole number session recovery attempts taken kept =>
    have aside : ∀ action ∈ ({ x.carrier with session }.recovered settings.flow recovery).2,
        action.isAside = true :=
      Carrier.recovered_aside recovery
    refine ⟨x.held.length, h.resumes [] fits taken (by simp) ?_ ?_ ?_⟩
    · simpa [Action.recorded] using Action.recorded_eq_nil aside
    · rw [List.filterMap_cons_none rfl, Action.frames_eq_nil aside, kept]
      rfl
    · simp [Carrier.unsent]
  | turnedAway attempts refused leaves =>
    -- This relay's answer is never refused.
    obtain ⟨session, taken⟩ := h.acknowledge_of_fits fits rfl
    cases refused.symm.trans taken
  | @unsendable number session recovery move attempts taken leaves =>
    refine ⟨x.held.length, h.resumes session.replay.flatten fits taken leaves.session ?_ ?_
      (by simp [leaves.away])⟩
    · simpa [Action.recorded] using Action.recorded_eq_nil leaves.aside
    · rw [List.filterMap_cons_none rfl, Action.frames_eq_nil leaves.aside]
      rfl
  | left other leaves =>
    have noAck : x.acksAfter happening = x.acks := by
      unfold acksAfter
      split
      · cases other
      · rfl
    exact ⟨released, h.quiet (leaves.session ▸ h.books) (Action.recorded_eq_nil leaves.aside)
      (Action.frames_eq_nil leaves.aside) noAck (by simp [leaves.away])⟩

/-! ## What the relay does -/

theorem frameArrives {frame : Frame} {outgoing : List Frame} (h : x.Sound released)
    (next : x.outgoing = frame :: outgoing) :
    { x with outgoing, held := x.held ++ frame.payload : Exchange }.Sound released where
  books := h.books
  bounded := h.bounded
  counts := h.counts
  honest := by
    rw [List.length_append]
    exact Nat.le_add_right_of_le h.honest
  front := by simpa [underWay, next] using h.front
  covered established := by simpa [underWay, next] using h.covered established
  answered number same := by
    obtain ⟨_, empty, _⟩ := h.answered number same
    rw [next] at empty
    cases empty

theorem counts_append {counts : List Nat} {stated count : Nat}
    (h : (counts ++ [stated]).Pairwise (· ≤ ·)) (least : stated ≤ count) :
    (counts ++ [count] ++ [count]).Pairwise (· ≤ ·) := by
  obtain ⟨before, _, below⟩ := List.pairwise_append.mp h
  have below : ∀ number ∈ counts, number ≤ count := fun number member =>
    Nat.le_trans (below number member stated (by simp)) least
  simp only [List.pairwise_append, List.mem_append, List.mem_singleton]
  refine ⟨⟨before, List.pairwise_singleton .., ?_⟩, List.pairwise_singleton .., ?_⟩
  · intro number member last same
    exact same ▸ below number member
  · intro number member last same
    subst same
    rcases member with member | rfl
    · exact below number member
    · exact Nat.le_refl _

/-- The relay acknowledges what it holds, and not less than before. -/
theorem acknowledges {count : Nat} (h : x.Sound released) (least : x.stated ≤ count)
    (most : count ≤ x.held.length) :
    { x with stated := count, acks := x.acks ++ [count] : Exchange }.Sound released where
  books := h.books
  bounded := h.bounded
  counts := counts_append h.counts least
  honest := most
  front := h.front
  covered := h.covered
  answered number same := by
    obtain ⟨whole, empty, away, counts⟩ := h.answered number same
    exact ⟨whole, empty, away, counts_append counts least⟩

theorem answers (h : x.Sound released) (away : x.carrier.isEstablished = false) :
    { x with
      outgoing := []
      stated := x.held.length
      acks := []
      answer := some x.held.length : Exchange }.Sound released where
  books := h.books
  bounded := h.bounded
  counts := by simpa using h.released_le_held
  honest := Nat.le_refl _
  front := by simpa [underWay] using h.held_prefix
  covered established := by
    rw [away] at established
    cases established
  answered number same := by
    cases same
    exact ⟨rfl, rfl, away, by simp⟩

/-! ## Runs -/

theorem step {event : Event} (h : x.Sound released) (steps : x.step? settings event = some y) :
    ∃ count, y.Sound count := by
  cases event with
  | happens happening =>
    simp only [step?] at steps
    split at steps
    · rename_i fits
      obtain ⟨⟨carrier, actions⟩, moved, rfl⟩ := Option.map_eq_some_iff.mp steps
      exact h.happens fits (Carrier.step_of_step? moved)
    · cases steps
  | frameArrives =>
    simp only [step?] at steps
    split at steps <;> cases steps
    rename_i next
    exact ⟨released, h.frameArrives next⟩
  | acknowledges count =>
    simp only [step?] at steps
    split at steps <;> cases steps
    rename_i between
    exact ⟨released, h.acknowledges between.1 between.2⟩
  | answers =>
    simp only [step?] at steps
    split at steps <;> cases steps
    rename_i attempts
    exact ⟨released, h.answers (Carrier.away_of_isResuming attempts)⟩

theorem run {events : List Event} (h : x.Sound released)
    (runs : x.run? settings events = some y) : ∃ count, y.Sound count := by
  induction events generalizing x released with
  | nil =>
    cases runs
    exact ⟨released, h⟩
  | cons event events ih =>
    obtain ⟨next, steps, runs⟩ := Option.bind_eq_some_iff.mp runs
    obtain ⟨count, sound⟩ := h.step steps
    exact ih sound runs

end Sound

/-- At every moment of every exchange the relay holds a front of what the carrier has
    taken from the writer, each byte once and in order; no count that it states is refused;
    and when the carrier waits and nothing is under way, the relay holds everything. -/
theorem relay_holds_front (settings : RelaySettings) (sid : String) (events : List Event)
    (x : Exchange) (run : (start sid).run? settings events = some x) :
    x.held <+: x.accepted ∧
      (∀ happening number, x.fits happening = true →
        happening.acknowledgement? = some number →
          ∃ session, x.carrier.session.acknowledge number = .ok session) ∧
      (x.carrier.phase = .waiting → x.outgoing = [] → x.held = x.accepted) := by
  obtain ⟨released, sound⟩ := (Sound.start sid).run run
  refine ⟨sound.held_prefix, ?_, sound.held_eq⟩
  intro happening number fits means
  exact sound.acknowledge_of_fits fits means

/-- A payload of which a part is acknowledged, one that is lost with its connection, and a
    replay that stalls although its payload arrives. -/
theorem relay_holds_front_stalled_replay :
    ∃ x,
      (start "s").run? {}
          [.happens (.write 0 [1, 2, 3]), .frameArrives, .happens .sent, .acknowledges 2,
            .happens (.arrival (.message [0, 7, 0, 0, 0, 0, 0, 0, 0, 2])),
            .happens (.write 1 [4, 5]), .happens (.sendFailed (.transport "reset")), .answers,
            .happens (.resumed 3), .happens .sendStalled, .frameArrives, .happens .pauseOver,
            .answers, .happens (.resumed 5)] = some x ∧
        x.accepted = [1, 2, 3, 4, 5] ∧ x.held = x.accepted := by
  have ran : ((start "s").run? {}
      [.happens (.write 0 [1, 2, 3]), .frameArrives, .happens .sent, .acknowledges 2,
        .happens (.arrival (.message [0, 7, 0, 0, 0, 0, 0, 0, 0, 2])),
        .happens (.write 1 [4, 5]), .happens (.sendFailed (.transport "reset")), .answers,
        .happens (.resumed 3), .happens .sendStalled, .frameArrives, .happens .pauseOver,
        .answers, .happens (.resumed 5)]).map
        (fun x => (x.accepted, x.carrier.phase, x.outgoing)) =
      some ([1, 2, 3, 4, 5], .waiting, []) := by
    decide +kernel
  obtain ⟨x, run, last⟩ := Option.map_eq_some_iff.mp ran
  obtain ⟨accepted, waits, arrived⟩ : x.accepted = [1, 2, 3, 4, 5] ∧
      x.carrier.phase = .waiting ∧ x.outgoing = [] := by simpa using last
  exact ⟨x, run, accepted, (relay_holds_front {} "s" _ x run).2.2 waits arrived⟩

end Exchange

end RelayTunnel
