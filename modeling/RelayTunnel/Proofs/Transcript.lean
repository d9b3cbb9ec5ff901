import RelayTunnel.Proofs.Carrier
import RelayTunnel.Proofs.Session

/-!
# What each connection carries

A transcript is what an observer notes down who sees everything that happens to a
carrier and everything it does, but not the carrier itself: the bytes it has recorded
as sent, how many of them the relay has acknowledged, and of each connection where in
these bytes it started and what was handed to it since. Whatever the relay does, each
connection gets a contiguous part of what was written, and whenever the carrier waits,
that of the current one reaches up to the end.
-/

namespace RelayTunnel

/-- What a carrier has handed to one connection. -/
structure Transcript.Connection where
  /-- The count of bytes that the relay held when it was resumed. -/
  count : UInt64 := 0
  /-- The offset with that count, `none` if the count was outside the window. -/
  start : Option Nat := some 0
  /-- The bytes of the DATA frames handed to it, those of a last one that fails or stalls
      included. -/
  carried : Bytes := []
  /-- Whether sending on it has failed or stalled, or it has brought something else than
      messages. -/
  isLost : Bool := false
  /-- The frames handed to it after that. -/
  late : List Frame := []
  deriving DecidableEq, Repr

/-- What can be noted of a run of a carrier from its beginning. -/
structure Transcript where
  /-- The payloads recorded as sent. -/
  written : Bytes := []
  /-- How many of these bytes the relay has acknowledged. -/
  acknowledged : Nat := 0
  /-- The connections before the current one, oldest first. -/
  earlier : List Transcript.Connection := []
  current : Transcript.Connection := {}
  deriving DecidableEq, Repr

namespace Transcript

/-- The connection once a frame is handed to it. -/
def Connection.send (connection : Connection) (frame : Frame) : Connection :=
  { connection with
    carried := connection.carried ++ frame.payload
    late := if connection.isLost then connection.late ++ [frame] else connection.late }

/-- All connections, oldest first. -/
def connections (t : Transcript) : List Connection := t.earlier ++ [t.current]

/-- How far a count is from the last one acknowledged. -/
def distance (t : Transcript) (number : UInt64) : UInt64 :=
  number - UInt64.ofNat t.acknowledged

/-- Whether a count lies between what is acknowledged and what is written. -/
def isInWindow (t : Transcript) (number : UInt64) : Bool :=
  t.distance number ≤ t.distance (UInt64.ofNat t.written.length)

/-- The first offset from the acknowledged one on that has this count. -/
def offset (t : Transcript) (number : UInt64) : Nat := t.acknowledged + (t.distance number).toNat

/-- Note an acknowledgement, which only has a meaning inside the window. -/
def acknowledge (t : Transcript) (number : UInt64) : Transcript :=
  if t.isInWindow number then { t with acknowledged := t.offset number } else t

/-- Note that the current connection is lost. -/
def lose (t : Transcript) : Transcript := { t with current := { t.current with isLost := true } }

/-- Note a new connection, on which the relay says that it holds so many bytes. -/
def resume (t : Transcript) (number : UInt64) : Transcript :=
  { t.acknowledge number with
    earlier := t.connections
    current :=
      { count := number
        start := if t.isInWindow number then some (t.offset number) else none } }

/-- Note what happens. -/
def hear (t : Transcript) : Happening → Transcript
  | .arrival (.message message) =>
    match Wire.ack? message with
    | some number => t.acknowledge number
    | none => t
  | .arrival (.close _ _) | .arrival .ended | .arrival (.failed _) => t.lose
  | .sendFailed _ | .sendStalled => t.lose
  | _ => t

/-- Note something that the carrier does about a happening. -/
def perform (happening : Happening) (t : Transcript) : Action → Transcript
  | .count (.dataSent _) => { t with written := t.written ++ happening.payload }
  | .install =>
    match happening with
    | .resumed number => t.resume number
    | _ => t
  | .send frame => { t with current := t.current.send frame }
  | _ => t

/-- Note what happens and then what the carrier does about it. -/
def follow (t : Transcript) (entry : Happening × List Action) : Transcript :=
  entry.2.foldl (perform entry.1) (t.hear entry.1)

/-- The transcript of a run. -/
def ofLog (log : List (Happening × List Action)) : Transcript := log.foldl follow {}

/-! ## Parts of what was written -/

/-- Nothing was handed to the connection after it was lost, and what was handed to it is a
    part of what was written, from the offset on that the relay gave. -/
def Connection.CarriesPart (connection : Connection) (written : Bytes) : Prop :=
  connection.late = [] ∧
    ∀ start, connection.start = some start →
      UInt64.ofNat start = connection.count ∧
        start ≤ written.length ∧ connection.carried <+: written.drop start

namespace Connection.CarriesPart

variable {connection : Connection} {written : Bytes}

/-- Writing more does not matter to what was carried. -/
theorem append (h : connection.CarriesPart written) (payload : Bytes) :
    connection.CarriesPart (written ++ payload) := by
  refine ⟨h.1, fun start started => ?_⟩
  obtain ⟨counted, within, part⟩ := h.2 start started
  rw [List.length_append, List.drop_append_of_le_length within]
  exact ⟨counted, by omega, part.trans (List.prefix_append ..)⟩

/-- Nor does the loss of the connection. -/
theorem lose (h : connection.CarriesPart written) :
    { connection with isLost := true : Connection }.CarriesPart written :=
  h

end Connection.CarriesPart

/-- The connection goes on, up to what is still to be sent again on it. -/
def Connection.Reaches (connection : Connection) (written unsent : Bytes) : Prop :=
  connection.isLost = false ∧
    ∃ start, connection.start = some start ∧ UInt64.ofNat start = connection.count ∧
      start ≤ written.length ∧ connection.carried ++ unsent = written.drop start

namespace Connection.Reaches

variable {connection : Connection} {written unsent payload : Bytes}

theorem carriesPart (h : connection.Reaches written unsent) (punctual : connection.late = []) :
    connection.CarriesPart written := by
  obtain ⟨_, start, started, counted, within, reaches⟩ := h
  refine ⟨punctual, fun other same => ?_⟩
  obtain rfl : start = other := by simpa [started] using same
  exact ⟨counted, within, unsent, reaches⟩

/-- Handing over a frame leaves less to be sent again. -/
theorem send {frame : Frame} (h : connection.Reaches written (frame.payload ++ unsent)) :
    (connection.send frame).Reaches written unsent := by
  obtain ⟨kept, start, started, counted, within, reaches⟩ := h
  refine ⟨kept, start, started, counted, within, ?_⟩
  rwa [← List.append_assoc] at reaches

/-- A payload that was just written is still to be handed over. -/
theorem append (h : connection.Reaches written []) (payload : Bytes) :
    connection.Reaches (written ++ payload) payload := by
  obtain ⟨kept, start, started, counted, within, reaches⟩ := h
  refine ⟨kept, start, started, counted, ?_, ?_⟩
  · rw [List.length_append]
    omega
  · rw [List.drop_append_of_le_length within, ← reaches, List.append_nil]

theorem late_send (h : connection.Reaches written unsent) (frame : Frame) :
    (connection.send frame).late = connection.late := by
  simp [Connection.send, h.1]

end Connection.Reaches

/-! ## The first connection -/

/-- Where the first connection started. -/
def firstStart (t : Transcript) : Option Nat := t.connections.head?.bind Connection.start

variable {t : Transcript} {number : UInt64}

/-- A change of the current connection that leaves its start alone does not move the first
    one. -/
theorem firstStart_congr {t' : Transcript} (earlier : t'.earlier = t.earlier)
    (current : t'.current.start = t.current.start) : t'.firstStart = t.firstStart := by
  rw [firstStart, firstStart, connections, connections, earlier]
  cases t.earlier with
  | nil => exact current
  | cons connection rest => rfl

theorem firstStart_acknowledge : (t.acknowledge number).firstStart = t.firstStart := by
  unfold acknowledge
  split <;> rfl

theorem firstStart_resume : (t.resume number).firstStart = t.firstStart := by
  simp only [firstStart, resume, connections]
  cases t.earlier <;> rfl

theorem firstStart_hear (happening : Happening) :
    (t.hear happening).firstStart = t.firstStart := by
  unfold hear
  split
  · split
    · exact firstStart_acknowledge
    · rfl
  all_goals exact firstStart_congr rfl rfl

theorem firstStart_perform (happening : Happening) (action : Action) :
    (t.perform happening action).firstStart = t.firstStart := by
  unfold perform
  split
  · exact firstStart_congr rfl rfl
  · split
    · exact firstStart_resume
    · rfl
  · exact firstStart_congr rfl rfl
  · rfl

theorem firstStart_foldl_perform (happening : Happening) (actions : List Action) :
    (actions.foldl (perform happening) t).firstStart = t.firstStart := by
  induction actions generalizing t with
  | nil => rfl
  | cons action actions ih => rw [List.foldl_cons, ih, firstStart_perform]

theorem firstStart_follow (entry : Happening × List Action) :
    (t.follow entry).firstStart = t.firstStart := by
  rw [follow, firstStart_foldl_perform, firstStart_hear]

/-- The first connection starts at the beginning. -/
theorem firstStart_ofLog (log : List (Happening × List Action)) :
    (ofLog log).firstStart = some 0 := by
  suffices step : ∀ t : Transcript, (log.foldl follow t).firstStart = t.firstStart from step {}
  induction log with
  | nil =>
    intro t
    rfl
  | cons entry log ih =>
    intro t
    rw [List.foldl_cons, ih, firstStart_follow]

/-! ## What a step preserves -/

/-- A transcript matches a carrier: their books agree, every connection carries a part of
    what was written, and an established one reaches up to what is still unsent. -/
structure Matches (c : Carrier) (t : Transcript) : Prop where
  books : c.session.Balanced t.written t.acknowledged
  earlier : ∀ connection ∈ t.earlier, connection.CarriesPart t.written
  current : t.current.CarriesPart t.written
  reaches : c.isEstablished = true → t.current.Reaches t.written c.unsent

variable {c c' : Carrier} {session : Session}

@[simp] theorem perform_aside {happening : Happening} {action : Action}
    (aside : action.isAside = true) : t.perform happening action = t := by
  cases action <;> simp_all [perform, Action.isAside]
  split <;> simp_all

theorem foldl_perform_aside {happening : Happening} {actions : List Action}
    (aside : ∀ action ∈ actions, action.isAside = true) :
    actions.foldl (perform happening) t = t := by
  induction actions with
  | nil => rfl
  | cons action actions ih =>
    obtain ⟨first, rest⟩ := List.forall_mem_cons.mp aside
    rw [List.foldl_cons, perform_aside first, ih rest]

/-- What is no news at most loses the current connection. -/
theorem hear_of_not_isNews {happening : Happening} (other : happening.isNews = false) :
    t.hear happening = t ∨ t.hear happening = t.lose := by
  cases happening with
  | arrival arrival => cases arrival <;> simp_all [hear, Happening.isNews]
  | sendFailed error => exact .inr rfl
  | sendStalled => exact .inr rfl
  | _ => exact .inl rfl

/-- An acknowledgement is taken if and only if its count is in the window. -/
theorem isInWindow_iff (books : c.session.Balanced t.written t.acknowledged) :
    t.isInWindow number = true ↔ number - c.session.acked ≤ c.session.outstanding := by
  rw [isInWindow, distance, distance, Session.outstanding, books.sent, books.acked,
    decide_eq_true_eq]

theorem isInWindow_of_taken (books : c.session.Balanced t.written t.acknowledged)
    (taken : c.session.acknowledge number = .ok session) : t.isInWindow number = true :=
  (isInWindow_iff books).mpr (Session.acknowledge_eq_ok taken).1

theorem isInWindow_of_refused {violation : Violation}
    (books : c.session.Balanced t.written t.acknowledged)
    (refused : c.session.acknowledge number = .error violation) :
    t.isInWindow number = false := by
  rw [Bool.eq_false_iff]
  intro inWindow
  rw [Session.acknowledge_of_le ((isInWindow_iff books).mp inWindow)] at refused
  cases refused

/-- The session after an acknowledgement agrees with what was noted of it. -/
theorem balanced_offset (books : c.session.Balanced t.written t.acknowledged)
    (taken : c.session.acknowledge number = .ok session) :
    session.Balanced t.written (t.offset number) := by
  have after := books.acknowledge taken
  rwa [books.acked] at after

namespace Matches

theorem start (sid : String) : Matches (.start sid) {} where
  books := .start sid
  earlier := by simp
  current := ⟨rfl, fun start started => by cases started; exact ⟨rfl, Nat.le_refl 0, [], rfl⟩⟩
  reaches _ := ⟨rfl, 0, rfl, rfl, Nat.le_refl 0, rfl⟩

/-- A carrier that waits has handed over everything. -/
theorem reaches_end (h : Matches c t) (waits : c.phase = .waiting) :
    t.current.Reaches t.written [] := by
  simpa [Carrier.unsent, waits] using h.reaches (by simp [Carrier.isEstablished, waits])

/-- The carrier may go on with other things as long as its books do not change. -/
theorem congr (h : Matches c t) (books : c'.session.Balanced t.written t.acknowledged)
    (stays : c'.isEstablished = true → c.isEstablished = true ∧ c'.unsent = c.unsent) :
    Matches c' t where
  books := books
  earlier := h.earlier
  current := h.current
  reaches established := by
    obtain ⟨before, same⟩ := stays established
    rw [same]
    exact h.reaches before

/-- A carrier without a connection is not said to reach anything. -/
theorem away (h : Matches c t) (books : c'.session.Balanced t.written t.acknowledged)
    (away : c'.isEstablished = false) : Matches c' t :=
  h.congr books (by simp [away])

theorem lose (h : Matches c t) (away : c.isEstablished = false) : Matches c t.lose where
  books := h.books
  earlier := h.earlier
  current := h.current.lose
  reaches established := by simp [away] at established

theorem leaves {write : Option Nat} {move : Move} (h : Matches c t)
    (leaves : c.Leaves write move) : Matches move.1 t :=
  h.away (leaves.session ▸ h.books) leaves.away

theorem connections (h : Matches c t) :
    ∀ connection ∈ t.connections, connection.CarriesPart t.written := by
  intro connection member
  rcases List.mem_append.mp member with earlier | current
  · exact h.earlier connection earlier
  · obtain rfl := List.mem_singleton.mp current
    exact h.current

/-- Handing over a frame, after which `unsent` is still to be sent again. -/
theorem send {frame : Frame} (unsent : Bytes)
    (earlier : ∀ connection ∈ t.earlier, connection.CarriesPart t.written)
    (punctual : t.current.late = [])
    (reaches : t.current.Reaches t.written (frame.payload ++ unsent))
    (books : c.session.Balanced t.written t.acknowledged) (rest : c.unsent = unsent) :
    Matches c { t with current := t.current.send frame } where
  books := books
  earlier := earlier
  current := by
    apply reaches.send.carriesPart
    rw [reaches.late_send]
    exact punctual
  reaches _ := by
    rw [rest]
    exact reaches.send

/-- A new connection starts where the relay says, if that is in the window. -/
theorem resume_of_taken (h : Matches c t) (taken : c.session.acknowledge number = .ok session) :
    t.resume number =
      { t with
        acknowledged := t.offset number
        earlier := t.connections
        current := { count := number, start := some (t.offset number) } } := by
  simp [resume, acknowledge, isInWindow_of_taken h.books taken]

theorem resume_of_refused {violation : Violation} (h : Matches c t)
    (refused : c.session.acknowledge number = .error violation) :
    t.resume number =
      { t with
        earlier := t.connections
        current := { count := number, start := none } } := by
  simp [resume, acknowledge, isInWindow_of_refused h.books refused]

/-- What is to be sent again on a new connection is what the relay does not hold. -/
theorem reaches_resumed (h : Matches c t) (taken : c.session.acknowledge number = .ok session) :
    ({ count := number, start := some (t.offset number) } : Connection).Reaches t.written
      session.replay.flatten := by
  have books := balanced_offset h.books taken
  refine ⟨rfl, t.offset number, rfl, ?_, books.le, ?_⟩
  · rw [← books.acked, (Session.acknowledge_eq_ok taken).2]
  · rw [List.nil_append, books.replay]

end Matches

/-- What is heard of a message matters only if it is an acknowledgement in the window. -/
theorem hear_message_of_refused {message : Bytes}
    (books : c.session.Balanced t.written t.acknowledged)
    (refused : ∀ number, Wire.ack? message = some number →
      ∃ violation, c.session.acknowledge number = .error violation) :
    t.hear (.arrival (.message message)) = t := by
  simp only [hear]
  split
  · rename_i number means
    obtain ⟨violation, refused⟩ := refused number means
    simp [acknowledge, isInWindow_of_refused books refused]
  · rfl

/-- Every step of a carrier keeps its transcript matching. -/
theorem Matches.step {settings : RelaySettings} {happening : Happening} {actions : List Action}
    (h : Matches c t) (step : c.Step settings happening c' actions) :
    Matches c' (t.follow (happening, actions)) := by
  cases step with
  | told => exact h.congr h.books (fun established => ⟨established, rfl⟩)
  | writesOver => exact h.congr h.books (fun established => ⟨established, rfl⟩)
  | @skipped message opened free means =>
    have heard : t.hear (.arrival (.message message)) = t :=
      hear_message_of_refused h.books
        (by rcases means with means | means <;> simp [Wire.ack?, means])
    simp only [follow, heard]
    exact h
  | @received message payload opened free means nonempty =>
    have heard : t.hear (.arrival (.message message)) = t :=
      hear_message_of_refused h.books (by simp [Wire.ack?, means])
    simp only [follow, heard]
    exact h.congr (h.books.recordReceived _) (fun established => ⟨established, rfl⟩)
  | @acknowledged message number session opened free means taken =>
    have heard : t.hear (.arrival (.message message)) =
        { t with acknowledged := t.offset number } := by
      simp [hear, means, acknowledge, isInWindow_of_taken h.books taken]
    have waits := Carrier.phase_of_isOpen opened
    simp only [follow, heard, List.foldl_cons, List.foldl_nil, perform]
    exact {
      books := by simpa using balanced_offset h.books taken
      earlier := h.earlier
      current := h.current
      reaches := fun _ => by simpa [Carrier.unsent, waits] using h.reaches_end waits }
  | @breached message move opened free means refused leaves =>
    simp only [follow, hear_message_of_refused h.books refused]
    rw [List.foldl_cons, foldl_perform_aside leaves.aside]
    exact h.leaves leaves
  | @handed payload reader opened held few =>
    cases reader <;> exact h.congr h.books (fun established => ⟨established, rfl⟩)
  | @reported payload reader opened held enough =>
    have reaches := h.reaches_end (Carrier.phase_of_isOpen opened)
    cases reader <;> exact send [] h.earlier h.current.1 reaches h.books.takeAck rfl
  | @took number payload opened writes unthrottled fits =>
    have reaches := h.reaches_end (Carrier.phase_of_isOpen opened)
    refine send (t := { t with written := t.written ++ payload }) [] ?_ h.current.1 ?_
      (h.books.recordSent payload) rfl
    · intro connection member
      exact (h.earlier connection member).append payload
    · rw [Frame.payload, List.append_nil]
      exact reaches.append payload
  | wrote sends =>
    exact h.congr (by simpa using h.books)
      (fun _ => by simp [Carrier.isEstablished, Carrier.unsent, sends])
  | hasReported sends =>
    exact h.congr h.books (fun _ => by simp [Carrier.isEstablished, Carrier.unsent, sends])
  | @resent recovery payload rest sends =>
    have reaches := h.reaches (by simp [Carrier.isEstablished, sends])
    rw [show c.unsent = payload ++ rest.flatten by simp [Carrier.unsent, sends]] at reaches
    exact send rest.flatten h.earlier h.current.1 reaches h.books rfl
  | recovered sends =>
    simp only [follow]
    rw [List.foldl_cons, foldl_perform_aside (Carrier.recovered_aside _)]
    exact h.congr (by simpa using h.books)
      (fun _ => by simp [Carrier.isEstablished, Carrier.unsent, sends])
  | @resumed number session recovery payload rest attempts taken kept =>
    have reaches := h.reaches_resumed taken
    rw [kept] at reaches
    have books := balanced_offset h.books taken
    simp only [follow, hear, List.foldl_cons, List.foldl_nil, perform, h.resume_of_taken taken]
    exact send (t := { t with
      acknowledged := t.offset number
      earlier := t.connections
      current := { count := number, start := some (t.offset number) } })
      rest.flatten h.connections rfl reaches books rfl
  | @resumedWhole number session recovery attempts taken kept =>
    have reaches := h.reaches_resumed taken
    rw [kept] at reaches
    simp only [follow, hear, List.foldl_cons, perform, h.resume_of_taken taken]
    rw [foldl_perform_aside (Carrier.recovered_aside _)]
    exact {
      books := by simpa using balanced_offset h.books taken
      earlier := h.connections
      current := reaches.carriesPart rfl
      reaches := fun _ => by simpa [Carrier.unsent] using reaches }
  | @turnedAway number violation recovery move attempts refused leaves =>
    simp only [follow, hear, List.foldl_cons, perform, h.resume_of_refused refused]
    rw [foldl_perform_aside leaves.aside]
    exact {
      books := leaves.session ▸ h.books
      earlier := h.connections
      current := ⟨rfl, by simp⟩
      reaches := by simp [leaves.away] }
  | @unsendable number session recovery move attempts taken leaves =>
    have reaches := h.reaches_resumed taken
    simp only [follow, hear, List.foldl_cons, perform, h.resume_of_taken taken]
    rw [foldl_perform_aside leaves.aside]
    exact {
      books := leaves.session ▸ balanced_offset h.books taken
      earlier := h.connections
      current := reaches.carriesPart rfl
      reaches := by simp [leaves.away] }
  | left other leaves =>
    simp only [follow]
    rw [foldl_perform_aside leaves.aside]
    rcases hear_of_not_isNews other with heard | heard
    · rw [heard]
      exact h.leaves leaves
    · rw [heard]
      exact (h.leaves leaves).lose leaves.away

/-- So every run does. -/
theorem matches_ofLog {settings : RelaySettings} {sid : String} {happenings : List Happening}
    {log : List (Happening × List Action)}
    (run : (Carrier.start sid).run? settings happenings = some (c, log)) :
    Matches c (ofLog log) :=
  Carrier.run?_invariant (fun _ _ _ _ _ before step => before.step step) run (.start sid)

/-- Whatever the relay does, every connection that was taken up inside the window carries a
    contiguous part of what was written, the first one from the beginning and every other
    one from the offset that the relay acknowledged; nothing is handed to a connection that
    was lost; and whenever the carrier waits, the part of the current connection reaches up
    to the end. -/
theorem connections_carry_parts (settings : RelaySettings) (sid : String)
    (happenings : List Happening) (c : Carrier) (log : List (Happening × List Action))
    (run : (Carrier.start sid).run? settings happenings = some (c, log)) :
    let t := ofLog log
    c.session.Balanced t.written t.acknowledged ∧
      t.firstStart = some 0 ∧
      (∀ connection ∈ t.connections, connection.late = [] ∧
        ∀ start, connection.start = some start →
          UInt64.ofNat start = connection.count ∧
            start ≤ t.written.length ∧ connection.carried <+: t.written.drop start) ∧
      (c.phase = .waiting → ∃ start, t.current.start = some start ∧
        start ≤ t.written.length ∧ t.current.carried = t.written.drop start) := by
  intro t
  have matching : Matches c t := matches_ofLog run
  refine ⟨matching.books, firstStart_ofLog log, matching.connections, ?_⟩
  intro waits
  obtain ⟨_, start, started, _, within, reaches⟩ := matching.reaches_end waits
  rw [List.append_nil] at reaches
  exact ⟨start, started, within, reaches⟩

/-- A write that fails, a replay that stalls in the middle, and a second one that goes
    through. -/
theorem connections_carry_parts_broken_replay :
    ∃ c log,
      (Carrier.start "s").run? {}
          [.write 0 [1, 2, 3], .sent, .write 1 [4, 5], .sendFailed (.transport "reset"),
            .resumed 2, .sent, .sendStalled, .pauseOver, .resumed 3, .sent] = some (c, log) ∧
        c.phase = .waiting ∧
        (ofLog log).current.start = some 3 ∧
        (ofLog log).current.carried = (ofLog log).written.drop 3 := by
  have ran : ((Carrier.start "s").run? {}
      [.write 0 [1, 2, 3], .sent, .write 1 [4, 5], .sendFailed (.transport "reset"),
        .resumed 2, .sent, .sendStalled, .pauseOver, .resumed 3, .sent]).map
        (fun r => (r.1.phase, (ofLog r.2).current.start)) = some (.waiting, some 3) := by
    decide +kernel
  obtain ⟨⟨c, log⟩, run, last⟩ := Option.map_eq_some_iff.mp ran
  obtain ⟨waits, started⟩ := Prod.mk.inj last
  obtain ⟨start, same, _, reaches⟩ := (connections_carry_parts {} "s" _ c log run).2.2.2 waits
  cases started.symm.trans same
  exact ⟨c, log, run, waits, started, reaches⟩

end Transcript

end RelayTunnel
