import RelayTunnel.Proofs.Stream
import RelayTunnel.Proofs.Transcript

/-!
# The window of writes

Bytes that were sent and not acknowledged are kept in memory, so there is a limit to them.
A carrier suspends writes at the high mark and takes them up again at the low one. It looks
at the marks when a write was sent, when an acknowledgement was taken and when the session
has been taken up again; acknowledgements that come with attempts that fail afterwards are
looked at later. `Carrier.HeedsMarks` says what holds between two of its operations.

Whatever the relay does, at most one payload goes beyond the high mark, writes wait from the
high mark down to the low one, and they never wait for an empty window.
-/

namespace RelayTunnel

/-! ## The marks -/

namespace Carrier

variable {settings : RelaySettings} {flow : FlowSettings} {c c' : Carrier}
  {happening : Happening} {actions : List Action}

/-- Writes are suspended only above the low mark, and not suspended only below the high
    one. -/
structure HeedsMarks (flow : FlowSettings) (c : Carrier) : Prop where
  suspended : c.throttled = true → flow.lowWaterMark < c.session.outstanding
  unsuspended : c.throttled = false → c.session.outstanding < flow.highWaterMark

theorem HeedsMarks.congr (h : c.HeedsMarks flow) (throttled : c'.throttled = c.throttled)
    (outstanding : c'.session.outstanding = c.session.outstanding) : c'.HeedsMarks flow where
  suspended := by
    rw [throttled, outstanding]
    exact h.suspended
  unsuspended := by
    rw [throttled, outstanding]
    exact h.unsuspended

/-- Whatever was the case before, the marks are heeded after looking at them. -/
theorem updateThrottle_heedsMarks (ordered : flow.lowWaterMark < flow.highWaterMark)
    (c : Carrier) : (c.updateThrottle flow).HeedsMarks flow := by
  rw [UInt64.lt_iff_toNat_lt] at ordered
  constructor
  all_goals
    simp only [updateThrottle, UInt64.lt_iff_toNat_lt, UInt64.le_iff_toNat_le]
    grind

/-- Writes that are suspended stay so above the low mark. -/
theorem updateThrottle_throttled (flow : FlowSettings) (suspended : c.throttled = true) :
    (c.updateThrottle flow).throttled = true ∨ c.session.outstanding ≤ flow.lowWaterMark := by
  simp only [updateThrottle, suspended]
  grind

theorem recovered_heedsMarks (ordered : flow.lowWaterMark < flow.highWaterMark)
    (recovery : Recovery) : (c.recovered flow recovery).1.HeedsMarks flow := by
  unfold recovered
  cases recovery.write with
  | none => exact (updateThrottle_heedsMarks ordered c).congr rfl rfl
  | some number =>
    exact (updateThrottle_heedsMarks ordered
      { c.updateThrottle flow with state := .connected }).congr rfl rfl

theorem recovered_throttled (flow : FlowSettings) (recovery : Recovery)
    (suspended : c.throttled = true) :
    (c.recovered flow recovery).1.throttled = true ∨
      c.session.outstanding ≤ flow.lowWaterMark := by
  rcases updateThrottle_throttled flow suspended with first | low
  · unfold recovered
    cases recovery.write with
    | none => exact .inl first
    | some number =>
      have again := updateThrottle_throttled flow
        (c := { c.updateThrottle flow with state := .connected }) first
      simpa [acceptWrite] using again
  · exact .inr low

/-- Whether the carrier is at a point where the marks are heeded: not in the middle of a
    write, nor without a connection, nor before everything has been sent again. -/
def isSettled (c : Carrier) : Bool :=
  match c.phase with
  | .waiting | .sending .ack => true
  | _ => false

theorem unsettled_of_away (away : c.isEstablished = false) : c.isSettled = false := by
  unfold isEstablished at away
  unfold isSettled
  split at away
  · cases away
  · cases away
  all_goals rename_i phase; rw [phase]

theorem isSettled_of_waiting (waits : c.phase = .waiting) : c.isSettled = true := by
  rw [isSettled, waits]

/-! ## What a step does to the window -/

/-- Every step leaves the marks heeded. -/
theorem Step.heedsMarks (step : c.Step settings happening c' actions)
    (ordered : settings.flow.lowWaterMark < settings.flow.highWaterMark)
    (before : c.isSettled = true → c.HeedsMarks settings.flow) :
    c'.isSettled = true → c'.HeedsMarks settings.flow := by
  intro settled
  cases step with
  | told => exact (before settled).congr rfl rfl
  | writesOver opened => exact (before settled).congr rfl rfl
  | skipped opened => exact before settled
  | received opened => exact (before settled).congr rfl rfl
  | acknowledged opened free means taken => exact updateThrottle_heedsMarks ordered _
  | handed opened => exact (before settled).congr rfl rfl
  | reported opened =>
    exact (before (isSettled_of_waiting (phase_of_isOpen opened))).congr rfl rfl
  | took => cases settled
  | wrote sends => exact (updateThrottle_heedsMarks ordered c).congr rfl rfl
  | hasReported sends => exact (before (by rw [isSettled, sends])).congr rfl rfl
  | resent => cases settled
  | recovered sends => exact recovered_heedsMarks ordered _
  | resumed => cases settled
  | resumedWhole attempts taken kept => exact recovered_heedsMarks ordered _
  | breached opened free means refused leaves | turnedAway attempts refused leaves
  | unsendable attempts taken leaves | left other leaves =>
    rw [unsettled_of_away leaves.away] at settled
    cases settled

/-- Writes that are suspended stay so until the window has gone down to the low mark. -/
theorem Step.throttled (step : c.Step settings happening c' actions)
    (suspended : c.throttled = true) :
    c'.throttled = true ∨ c'.session.outstanding ≤ settings.flow.lowWaterMark := by
  cases step with
  | told | skipped | received | handed | reported | hasReported | resent | resumed =>
    exact .inl suspended
  | writesOver opened writes unthrottled => exact .inl suspended
  | took opened writes unthrottled fits => exact .inl suspended
  | @acknowledged message number session opened free means taken =>
    have after := updateThrottle_throttled settings.flow
      (c := { c with session }) suspended
    simpa using after
  | wrote sends => simpa using updateThrottle_throttled settings.flow suspended
  | @recovered recovery sends =>
    simpa using recovered_throttled settings.flow recovery suspended
  | @resumedWhole number session recovery attempts taken kept =>
    have after := recovered_throttled (c := { c with session }) settings.flow recovery
      suspended
    simpa using after
  | breached opened free means refused leaves | turnedAway attempts refused leaves
  | unsendable attempts taken leaves | left other leaves =>
    exact .inl (leaves.throttled.trans suspended)

/-- Only the end of all writes lets a carrier take none any more. -/
theorem Step.writesOpen (step : c.Step settings happening c' actions) :
    c'.writesOpen = c.writesOpen ∨ happening = .writesOver := by
  cases step with
  | writesOver => exact .inr rfl
  | told | skipped | received | handed | reported | took | hasReported | resent | resumed =>
    exact .inl rfl
  | acknowledged | wrote | recovered | resumedWhole => exact .inl (by simp)
  | breached opened free means refused leaves | turnedAway attempts refused leaves
  | unsendable attempts taken leaves | left other leaves =>
    exact .inl leaves.writesOpen

/-- Bytes are recorded only while writes are not suspended, and one payload at a time. -/
theorem Step.recorded (step : c.Step settings happening c' actions) :
    actions.flatMap (Action.recorded happening) = [] ∨
      c.phase = .waiting ∧ c.throttled = false ∧
        (actions.flatMap (Action.recorded happening)).length ≤ maxPayload := by
  cases step with
  | told | writesOver | skipped | received | acknowledged | wrote | hasReported | resent | resumed =>
    exact .inl rfl
  | @handed payload reader => exact .inl (by cases reader <;> rfl)
  | @reported payload reader => exact .inl (by cases reader <;> rfl)
  | took opened writes unthrottled fits =>
    exact .inr ⟨phase_of_isOpen opened, unthrottled, by
      simpa [Action.recorded, Happening.payload] using fits⟩
  | @recovered recovery =>
    exact .inl (by
      simpa [Action.recorded] using
        Action.recorded_eq_nil (@recovered_aside settings.flow c recovery))
  | @resumedWhole number session recovery =>
    exact .inl (by
      simpa [Action.recorded] using
        Action.recorded_eq_nil
          (@recovered_aside settings.flow { c with session } recovery))
  | breached opened free means refused leaves | turnedAway attempts refused leaves
  | unsendable attempts taken leaves =>
    exact .inl (by simpa [Action.recorded] using Action.recorded_eq_nil leaves.aside)
  | left other leaves => exact .inl (Action.recorded_eq_nil leaves.aside)

end Carrier

/-! ## What a transcript says about the window -/

namespace Transcript

variable {happening : Happening} {actions : List Action}

@[simp] theorem hear_written (t : Transcript) : (t.hear happening).written = t.written := by
  unfold hear
  split
  · unfold acknowledge
    repeat' split
    all_goals rfl
  all_goals rfl

theorem perform_written (t : Transcript) (action : Action) :
    (t.perform happening action).written = t.written ++ action.recorded happening := by
  unfold perform Action.recorded
  split
  · rfl
  · rw [List.append_nil]
    split
    · unfold resume acknowledge
      split <;> rfl
    · rfl
  · exact (List.append_nil _).symm
  · split <;> simp_all

theorem foldl_perform_written (t : Transcript) :
    (actions.foldl (perform happening) t).written =
      t.written ++ actions.flatMap (Action.recorded happening) := by
  induction actions generalizing t with
  | nil => simp
  | cons action actions ih => rw [List.foldl_cons, ih, perform_written, List.flatMap_cons,
      List.append_assoc]

/-- Nothing but what the carrier records is written. -/
theorem follow_written (t : Transcript) :
    (t.follow (happening, actions)).written =
      t.written ++ actions.flatMap (Action.recorded happening) := by
  rw [follow, foldl_perform_written, hear_written]

theorem acknowledged_le_acknowledge (t : Transcript) (number : UInt64) :
    t.acknowledged ≤ (t.acknowledge number).acknowledged := by
  unfold acknowledge
  split
  · exact Nat.le_add_right ..
  · exact Nat.le_refl _

theorem acknowledged_le_hear (t : Transcript) :
    t.acknowledged ≤ (t.hear happening).acknowledged := by
  unfold hear
  split
  · split
    · exact acknowledged_le_acknowledge ..
    · exact Nat.le_refl _
  all_goals exact Nat.le_refl _

theorem acknowledged_le_perform (t : Transcript) (action : Action) :
    t.acknowledged ≤ (t.perform happening action).acknowledged := by
  unfold perform
  split
  · exact Nat.le_refl _
  · split
    · exact acknowledged_le_acknowledge ..
    · exact Nat.le_refl _
  · exact Nat.le_refl _
  · exact Nat.le_refl _

theorem acknowledged_le_foldl_perform (t : Transcript) :
    t.acknowledged ≤ (actions.foldl (perform happening) t).acknowledged := by
  induction actions generalizing t with
  | nil => exact Nat.le_refl _
  | cons action actions ih => exact Nat.le_trans (acknowledged_le_perform t action) (ih _)

/-- What is acknowledged stays acknowledged. -/
theorem acknowledged_le_follow (t : Transcript) :
    t.acknowledged ≤ (t.follow (happening, actions)).acknowledged :=
  Nat.le_trans (acknowledged_le_hear t) (acknowledged_le_foldl_perform _)

end Transcript

/-! ## Streams -/

namespace Stream

variable {settings : RelaySettings} {s s' : Stream} {t : Transcript}

/-- The window of a stream, with the transcript of its run: fewer bytes than one payload
    above the high mark are unacknowledged, the marks are heeded, and as long as there is a
    writer its writes are taken. -/
structure InWindow (flow : FlowSettings) (s : Stream) (t : Transcript) : Prop where
  agrees : t.Matches s.carrier
  few : t.written.length < t.acknowledged + (flow.highWaterMark.toNat + maxPayload)
  heeds : s.carrier.isSettled = true → s.carrier.HeedsMarks flow
  writesOpen : s.writerOpen = true → s.carrier.writesOpen = true

namespace InWindow

variable {flow : FlowSettings} {happening : Happening} {actions : List Action}

theorem start (flow : FlowSettings) (sid : String)
    (ordered : flow.lowWaterMark < flow.highWaterMark) : InWindow flow (.start sid) {} where
  agrees := .start sid
  few := Nat.add_pos_right _ (Nat.add_pos_right _ (by decide))
  heeds _ := {
    suspended := fun suspended => by cases suspended
    unsuspended := fun _ => by
      have empty : (Stream.start sid).carrier.session.outstanding = 0 := by
        simp [Stream.start, Session.outstanding]
      rw [empty]
      exact UInt64.lt_of_le_of_lt UInt64.zero_le ordered }
  writesOpen _ := rfl

/-- The bytes that are counted as outstanding are those that are not acknowledged. -/
theorem outstanding_eq (h : InWindow flow s t)
    (room : flow.highWaterMark.toNat + maxPayload ≤ UInt64.size) :
    s.carrier.session.outstanding.toNat = t.written.length - t.acknowledged :=
  h.agrees.books.outstanding_eq (Nat.lt_of_lt_of_le h.few (Nat.add_le_add_left room _))

/-- A payload is written only below the high mark, so that it ends less than its length
    above. -/
theorem few_follow (h : InWindow settings.flow s t)
    (room : settings.flow.highWaterMark.toNat + maxPayload ≤ UInt64.size)
    (step : s.carrier.Step settings happening s'.carrier actions) :
    (t.follow (happening, actions)).written.length <
      (t.follow (happening, actions)).acknowledged +
        (settings.flow.highWaterMark.toNat + maxPayload) := by
  have few := h.few
  have acknowledged : t.acknowledged ≤ (t.follow (happening, actions)).acknowledged :=
    t.acknowledged_le_follow
  rw [Transcript.follow_written, List.length_append]
  rcases step.recorded with nothing | ⟨waits, unsuspended, small⟩
  · rw [nothing, List.length_nil]
    omega
  · have heeds := h.heeds (Carrier.isSettled_of_waiting waits)
    have below := UInt64.lt_iff_toNat_lt.mp (heeds.unsuspended unsuspended)
    rw [h.outstanding_eq room] at below
    omega

section

variable (ordered : settings.flow.lowWaterMark < settings.flow.highWaterMark)
  (room : settings.flow.highWaterMark.toNat + maxPayload ≤ UInt64.size)
include ordered room

theorem moves (h : InWindow settings.flow s t) (moved : s.Moves settings happening s' actions) :
    InWindow settings.flow s' (t.follow (happening, actions)) where
  agrees := h.agrees.step moved.carrier
  few := h.few_follow room moved.carrier
  heeds := moved.carrier.heedsMarks ordered h.heeds
  writesOpen opened := by
    have before : s.writerOpen = true := moved.writerOpen ▸ opened
    rcases moved.carrier.writesOpen with same | rfl
    · rw [same]
      exact h.writesOpen before
    · have allowed := moved.allowed
      simp [allows, before] at allowed

end

theorem reads (h : InWindow flow s t) (inbound : List Bytes) :
    InWindow flow { s with inbound } t :=
  ⟨h.agrees, h.few, h.heeds, h.writesOpen⟩

theorem uses (h : InWindow flow s t) (how : Use) : InWindow flow (s.use how) t := by
  have spares := s.use_spares how
  have before := h.writesOpen
  rcases spares.carrier with same | told
  · exact {
      agrees := same ▸ h.agrees
      few := h.few
      heeds := same ▸ h.heeds
      writesOpen := fun opened => same ▸ before (spares.writerOpen opened) }
  · exact {
      agrees := told ▸ h.agrees.congr h.agrees.books (fun established => ⟨established, rfl⟩)
      few := h.few
      heeds := told ▸ fun settled => (h.heeds settled).congr rfl rfl
      writesOpen := fun opened => told ▸ before (spares.writerOpen opened) }

theorem run {sid : String} {events : List Event} {log : List (Happening × List Action)}
    (ordered : settings.flow.lowWaterMark < settings.flow.highWaterMark)
    (room : settings.flow.highWaterMark.toNat + maxPayload ≤ UInt64.size)
    (run : (Stream.start sid).run? settings events = some (s, log)) :
    InWindow settings.flow s (.ofLog log) :=
  run?_invariant (fun _ _ _ _ _ before moved => before.moves ordered room moved)
    (fun _ _ inbound before => before.reads inbound) (fun _ _ how before => before.uses how)
    run (.start settings.flow sid ordered)

end InWindow

/-- A write is taken only if writes are not suspended. -/
theorem unsuspended_of_write {number : Nat} {payload : Bytes}
    (taken : s.step? settings (.write number payload) ≠ none) :
    s.carrier.phase = .waiting ∧ s.carrier.throttled = false := by
  obtain ⟨⟨s', actions⟩, moved⟩ := Option.ne_none_iff_exists'.mp taken
  simp only [step?] at moved
  split at moved
  · obtain ⟨move, moved, _⟩ := Option.map_eq_some_iff.mp moved
    simp only [Carrier.step?] at moved
    split at moved
    · rename_i guard
      simp only [Bool.and_eq_true, Bool.not_eq_true'] at guard
      exact ⟨Carrier.phase_of_isOpen guard.1.1, guard.2⟩
    · cases moved
  · cases moved

/-- Nor do the halves lift a suspension. -/
theorem next?_throttled {event : Event} {entry : Option (Happening × List Action)}
    (stepped : s.next? settings event = some (s', entry)) (suspended : s.carrier.throttled = true) :
    s'.carrier.throttled = true ∨
      s'.carrier.session.outstanding ≤ settings.flow.lowWaterMark := by
  rcases next?_cases stepped with ⟨happening, actions, _, moved⟩ | ⟨_, read | ⟨how, rfl⟩⟩
  · exact moved.carrier.throttled suspended
  · rw [read]
    exact .inl suspended
  · rcases (s.use_spares how).carrier with same | told
    · exact .inl (same ▸ suspended)
    · exact .inl (told ▸ suspended)

/-- Before writes that are suspended are taken again, the window goes down to the low mark. -/
theorem exists_drained {events : List Event} {log : List (Happening × List Action)}
    (run : s.run? settings events = some (s', log)) (suspended : s.carrier.throttled = true)
    (resumed : s'.carrier.throttled = false) :
    ∃ before drained earlier, before <+: events ∧
      s.run? settings before = some (drained, earlier) ∧
      drained.carrier.session.outstanding ≤ settings.flow.lowWaterMark := by
  induction events generalizing s log with
  | nil =>
    cases run
    rw [suspended] at resumed
    cases resumed
  | cons event events ih =>
    obtain ⟨next, entry, rest, stepped, further, rfl⟩ := run?_cons.mp run
    rcases next?_throttled stepped suspended with still | low
    · obtain ⟨before, drained, earlier, part, ran, low⟩ := ih further still
      exact ⟨event :: before, drained, entry.toList ++ earlier,
        (List.prefix_cons_inj event).mpr part,
        run?_cons.mpr ⟨next, entry, earlier, stepped, ran, rfl⟩, low⟩
    · exact ⟨[event], next, entry.toList ++ [], List.cons_prefix_cons.mpr ⟨rfl, List.nil_prefix⟩,
        run?_cons.mpr ⟨next, entry, [], stepped, rfl, rfl⟩, low⟩

/-- In every run of a stream, whatever its relay and its halves do, the bytes written and
    not acknowledged stay less than one payload above the high mark. Whenever the carrier
    waits, writes are suspended only above the low mark and not suspended only below the
    high one; so a write is taken only below the high mark, from the high mark on none is
    taken before the window has gone down to the low one, and with an empty window the
    next write of the writer is taken. -/
theorem outstanding_within_marks (settings : RelaySettings) (sid : String)
    (ordered : settings.flow.lowWaterMark < settings.flow.highWaterMark)
    (room : settings.flow.highWaterMark.toNat + 16384 ≤ UInt64.size)
    (events : List Event) (s : Stream) (log : List (Happening × List Action))
    (run : (Stream.start sid).run? settings events = some (s, log)) :
    let t := Transcript.ofLog log
    let outstanding := s.carrier.session.outstanding
    t.acknowledged ≤ t.written.length ∧
      outstanding.toNat = t.written.length - t.acknowledged ∧
      outstanding.toNat ≤ settings.flow.highWaterMark.toNat - 1 + 16384 ∧
      (s.carrier.phase = .waiting →
        (s.carrier.throttled = true → settings.flow.lowWaterMark < outstanding) ∧
          (s.carrier.throttled = false → outstanding < settings.flow.highWaterMark)) ∧
      (∀ number payload, s.step? settings (.write number payload) ≠ none →
        outstanding < settings.flow.highWaterMark) ∧
      (s.carrier.phase = .waiting → settings.flow.highWaterMark ≤ outstanding →
        ∀ later s' log' number payload, s.run? settings later = some (s', log') →
          s'.step? settings (.write number payload) ≠ none →
            ∃ before drained earlier, before <+: later ∧
              s.run? settings before = some (drained, earlier) ∧
              drained.carrier.session.outstanding ≤ settings.flow.lowWaterMark) ∧
      (s.carrier.isOpen = true → s.writerOpen = true → outstanding = 0 →
        ∀ request, s.requests.head? = some request →
          s.step? settings (.write request.number request.payload) ≠ none) := by
  intro t outstanding
  have window : InWindow settings.flow s t := .run ordered room run
  have counted : outstanding.toNat = t.written.length - t.acknowledged := window.outstanding_eq room
  have heeds (waits : s.carrier.phase = .waiting) : s.carrier.HeedsMarks settings.flow :=
    window.heeds (Carrier.isSettled_of_waiting waits)
  refine ⟨window.agrees.books.le, counted, ?_, ?_, ?_, ?_, ?_⟩
  · have few : t.written.length < t.acknowledged + (settings.flow.highWaterMark.toNat + 16384) :=
      window.few
    have positive := Nat.lt_of_le_of_lt (Nat.zero_le _) (UInt64.lt_iff_toNat_lt.mp ordered)
    omega
  · intro waits
    exact ⟨(heeds waits).suspended, (heeds waits).unsuspended⟩
  · intro number payload taken
    obtain ⟨waits, unsuspended⟩ := unsuspended_of_write taken
    exact (heeds waits).unsuspended unsuspended
  · intro waits high later s' log' number payload further taken
    have suspended : s.carrier.throttled = true := by
      cases throttled : s.carrier.throttled with
      | true => rfl
      | false => exact absurd high (UInt64.not_le.mpr ((heeds waits).unsuspended throttled))
    exact exists_drained further suspended (unsuspended_of_write taken).2
  · intro opened writer empty request first
    have unsuspended : s.carrier.throttled = false := by
      cases throttled : s.carrier.throttled with
      | false => rfl
      | true =>
        have above := (heeds (Carrier.phase_of_isOpen opened)).suspended throttled
        rw [show s.carrier.session.outstanding = 0 from empty] at above
        exact absurd above (UInt64.not_lt.mpr UInt64.zero_le)
    have writes := window.writesOpen writer
    simp [step?, allows, first, Carrier.step?, opened, writes, unsuspended]

/-- A payload that reaches beyond the high mark, and a second write that waits until the
    session has been taken up again, the relay holding enough of the first one. -/
theorem outstanding_within_marks_suspended_write :
    let settings : RelaySettings := { flow := { highWaterMark := 4, lowWaterMark := 1 } }
    let later : List Event :=
      [.uses .goOnWriting, .uses (.beginWrite [6]), .uses .goOnWriting,
        .happens (.arrival .ended), .happens (.resumed 4), .happens .sent]
    ∃ s log s' log',
      (Stream.start "s").run? settings
          [.uses (.beginWrite [1, 2, 3, 4, 5]), .uses .goOnWriting,
            .happens (.write 0 [1, 2, 3, 4, 5]), .happens .sent] = some (s, log) ∧
        s.carrier.phase = .waiting ∧ s.carrier.session.outstanding = 5 ∧
        s.run? settings later = some (s', log') ∧
        s'.step? settings (.write 1 [6]) ≠ none ∧
        ∃ before drained earlier, before <+: later ∧
          s.run? settings before = some (drained, earlier) ∧
          drained.carrier.session.outstanding ≤ 1 := by
  intro settings later
  have ran : ((Stream.start "s").run? settings
      [.uses (.beginWrite [1, 2, 3, 4, 5]), .uses .goOnWriting,
        .happens (.write 0 [1, 2, 3, 4, 5]), .happens .sent]).any (fun r =>
          r.1.carrier.phase = .waiting ∧ r.1.carrier.session.outstanding = 5 ∧
            (r.1.run? settings later).any fun r' => r'.1.step? settings (.write 1 [6]) ≠ none) =
      true := by
    decide +kernel
  obtain ⟨⟨s, log⟩, run, last⟩ := (Option.any_eq_true ..).mp ran
  simp only [decide_eq_true_eq] at last
  obtain ⟨waits, outstanding, further⟩ := last
  obtain ⟨⟨s', log'⟩, further, taken⟩ := (Option.any_eq_true ..).mp further
  have taken : s'.step? settings (.write 1 [6]) ≠ none := by simpa using taken
  have high : settings.flow.highWaterMark ≤ s.carrier.session.outstanding := by
    rw [outstanding]
    decide
  exact ⟨s, log, s', log', run, waits, outstanding, further, taken,
    (outstanding_within_marks settings "s" (by decide) (by decide) _ s log run).2.2.2.2.2.1
      waits high later s' log' 1 [6] further taken⟩

end Stream

end RelayTunnel
