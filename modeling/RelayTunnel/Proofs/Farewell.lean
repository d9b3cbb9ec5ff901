import RelayTunnel.Proofs.Dues
import RelayTunnel.Proofs.Handshake
import RelayTunnel.Proofs.LifeCycle

/-!
# Breaches of the protocol and last close messages

A message that breaks the protocol ends a stream: nothing is done for it or after it but to tell
the relay and to publish the end. Messages that mean nothing are counted and otherwise leave the
stream as it is.

A stream sends at most one close message in its life. `partings` lists the close messages of a
run with the connections that they went to, and `Stream.IsTold` says from outside when a stream
was told to end; between them they say which endings are accompanied by which close message.
-/

namespace RelayTunnel

/-! ## Close messages and their connections -/

/-- Whether a new connection takes the place of the current one. -/
def Happening.isResumption : Happening → Bool
  | .resumed _ => true
  | _ => false

/-- The number of the current connection, the first one being 0. -/
def connectionNumber (log : List (Happening × List Action)) : Nat :=
  log.countP fun entry => entry.1.isResumption

/-- The close messages among actions, each with the number of the connection that it goes to,
    where `number` is that of the current one. -/
def partings (number : Nat) : List Action → List (Nat × UInt16 × String)
  | [] => []
  | .install :: actions => partings (number + 1) actions
  | .close code reason :: actions => (number, code, reason) :: partings number actions
  | _ :: actions => partings number actions

theorem partings_append (number : Nat) (first second : List Action) :
    partings number (first ++ second) =
      partings number first ++ partings (number + first.count .install) second := by
  induction first generalizing number with
  | nil => simp [partings]
  | cons action first ih =>
    cases action with
    | install =>
      rw [List.cons_append, partings, partings, ih, List.count_cons_self]
      congr 2
      omega
    | close code reason =>
      rw [List.cons_append, partings, partings, ih, List.count_cons_of_ne (by simp)]
      rfl
    | _ =>
      rw [List.cons_append, partings, partings, ih, List.count_cons_of_ne (by simp)]
      all_goals simp

/-- Where no connection is put in place, all go to the current one. -/
theorem partings_of_not_mem {actions : List Action} (number : Nat) (stays : .install ∉ actions) :
    partings number actions = (actions.filterMap Action.parting?).map (number, ·) := by
  induction actions with
  | nil => rfl
  | cons action actions ih =>
    have rest := ih (List.not_mem_of_not_mem_cons stays)
    cases action with
    | install => exact absurd List.mem_cons_self stays
    | close code reason =>
      rw [partings, rest]
      rfl
    | _ =>
      rw [partings, rest, List.filterMap_cons_none rfl]
      all_goals simp

namespace Carrier

variable {settings : RelaySettings} {flow : FlowSettings} {c c' : Carrier}
  {happening : Happening} {actions : List Action} {last : StreamState} {message : Bytes}

theorem install_not_mem (aside : ∀ action ∈ actions, action.isAside = true) :
    .install ∉ actions :=
  fun member => absurd (aside _ member) (by decide)

/-- A connection is put in place exactly where the session goes on on it, and before anything
    else is done. -/
theorem Step.installs (step : c.Step settings happening c' actions) :
    ∃ others, .install ∉ others ∧
      actions = (if happening.isResumption then [.install] else []) ++ others := by
  cases step with
  | handed opened held few => exact ⟨_, by cases ‹Bool› <;> simp [Action.hand], rfl⟩
  | reported opened held enough => exact ⟨_, by cases ‹Bool› <;> simp [Action.hand], rfl⟩
  | resumed | told | writesOver | skipped | received | acknowledged | took | wrote
  | hasReported | resent => exact ⟨_, by simp, rfl⟩
  | recovered sends => exact ⟨_, by simpa using install_not_mem (recovered_aside _), rfl⟩
  | resumedWhole attempts taken kept => exact ⟨_, install_not_mem (recovered_aside _), rfl⟩
  | breached opened free means refused leaves =>
    exact ⟨_, by simpa using install_not_mem leaves.aside, rfl⟩
  | turnedAway attempts refused leaves | unsendable attempts taken leaves =>
    exact ⟨_, install_not_mem leaves.aside, rfl⟩
  | left other leaves =>
    refine ⟨_, install_not_mem leaves.aside, ?_⟩
    cases happening with
    | resumed number => cases other
    | _ => rfl

theorem Step.count_install (step : c.Step settings happening c' actions) :
    actions.count .install = if happening.isResumption then 1 else 0 := by
  obtain ⟨others, stays, rfl⟩ := step.installs
  rw [List.count_append, List.count_eq_zero.mpr stays]
  cases happening.isResumption <;> simp

/-! ## The last close message of a carrier -/

/-- The close message that goes with the end goes to the connection that the carrier has then. -/
theorem partings_of_step? {move : Move} (h : c.step? settings happening = some move)
    (live : c.phase.stage.isLive = true) (number : Nat) :
    partings number move.2 =
      (move.1.parting?.toList).map (number + move.2.count .install, ·) := by
  have step := step_of_step? h
  have pays := step.pays live
  obtain ⟨others, stays, same⟩ := step.installs
  rw [← pays.partings, step.count_install, same, partings_append, partings_of_not_mem _ stays]
  cases happening.isResumption
  · rfl
  · rfl

/-- What is sent with the end of a carrier in its last state. -/
theorem Settled.parting? (h : c.Settled last) : c.parting? = last.parting? c.cancelled := by
  rcases h with closes | ⟨ended, rfl⟩
  · rw [Carrier.parting?, phase_of_closing closes]
  · rw [Carrier.parting?, phase_of_ended ended]

/-- There is one last state. -/
theorem Settled.unique {other : StreamState} (h : c.Settled last) (h' : c.Settled other) :
    last = other := by
  rcases h with closes | ⟨ended, rfl⟩ <;> rcases h' with closes' | ⟨ended', rfl⟩
  · exact Stage.closing.inj (closes.symm.trans closes')
  · cases closes.symm.trans ended'
  · cases ended.symm.trans closes'
  · rfl

/-- Being told to end does not settle anything. -/
theorem Settled.ne_cancel {move : Move} (live : c.phase.stage.isLive = true)
    (stepped : c.step? settings happening = some move) (h : move.1.Settled last) :
    happening ≠ .cancel := by
  rintro rfl
  cases stepped
  exact absurd live (by simpa using h.isLive)

/-! ## Messages that end a stream, and messages that mean nothing -/

/-- A message that breaks the protocol on an established session. -/
inductive Violates (c : Carrier) (message : Bytes) : Prop
  | malformed {violation : Violation} (means : Wire.decode message = .error violation)
  | connectSuccess {sid : String} (means : Wire.encode (.connectSuccess sid) = .ok message)
  | reconnectSuccess {count : UInt64}
      (means : Wire.encode (.reconnectSuccess count) = .ok message)
  /-- The count lies between those of the bytes acknowledged and of the bytes sent for no
      message of this kind. -/
  | outside {number : UInt64} (means : Wire.encode (.ack number) = .ok message)
      (far : c.session.outstanding < number - c.session.acked)

/-- A message that means nothing: it has an unknown tag, or no data. -/
def IsIdle (message : Bytes) : Prop :=
  (Arrival.message message).IsSkipped ∨ Wire.encode (.data []) = .ok message

/-- To a message that breaks the protocol a carrier answers by closing. -/
theorem messageArrived_of_violates (flow : FlowSettings) (violates : c.Violates message) :
    ∃ violation, c.messageArrived flow message =
      ({ c with phase := .closing (.failed (.protocolViolation violation)) },
        [.count .frameReceived, .close closeInvalidData "protocol violation"]) := by
  cases violates with
  | malformed means => exact ⟨_, by rw [messageArrived, means]; rfl⟩
  | connectSuccess means | reconnectSuccess means =>
    exact ⟨_, by rw [messageArrived, Wire.decode_eq_some_iff.mpr means]; rfl⟩
  | @outside number means far =>
    have refused : c.session.acknowledge number =
        .error (.ackOutsideWindow number c.session.acked c.session.sent) := by
      rw [Session.acknowledge, if_pos far]
    refine ⟨.ackOutsideWindow number c.session.acked c.session.sent, ?_⟩
    rw [messageArrived, Wire.decode_eq_some_iff.mpr means]
    simp only [frameArrived, refused]
    rfl

theorem messageArrived_of_isIdle (idle : IsIdle message) :
    c.messageArrived flow message = (c, [.count .frameReceived]) := by
  rcases idle with ⟨_, same, unknown⟩ | empty
  · cases same
    rw [messageArrived, Wire.decode_eq_none_iff.mpr unknown]
  · rw [messageArrived, Wire.decode_eq_some_iff.mpr empty]
    rfl

end Carrier

namespace Stream

variable {settings : RelaySettings} {s s' t t' : Stream} {happening : Happening}
  {events before after : List Event} {actions : List Action} {number : Nat}
  {log : List (Happening × List Action)} {last : StreamState} {message : Bytes}

/-! ## When a stream is told to end -/

/-- From outside a stream is told to end by its token, by closing it from this side, or by
    letting both halves go. -/
def IsTold (events : List Event) : Prop :=
  .happens .cancel ∈ events ∨ .uses .cancel ∈ events ∨ .uses .closeLocally ∈ events ∨
    .uses .dropReader ∈ events ∧ .uses .dropWriter ∈ events

instance (events : List Event) : Decidable (IsTold events) :=
  inferInstanceAs (Decidable (_ ∨ _))

/-- What the events so far have told a stream. -/
structure Heard (s : Stream) (events : List Event) : Prop where
  reader : s.readerOpen = false ↔ .uses .dropReader ∈ events
  writer : s.writerOpen = false ↔ .uses .dropWriter ∈ events
  told : s.carrier.cancelled = true ↔ IsTold events

namespace Heard

theorem start (sid : String) : (Stream.start sid).Heard [] :=
  ⟨by simp [Stream.start], by simp [Stream.start], by simp [Stream.start, IsTold]⟩

/-- An event that tells a stream nothing. -/
theorem skip {event : Event} (h : s.Heard events) (reader : s'.readerOpen = s.readerOpen)
    (writer : s'.writerOpen = s.writerOpen) (told : s'.carrier.cancelled = s.carrier.cancelled)
    (silent : event ≠ .happens .cancel ∧ event ≠ .uses .cancel ∧ event ≠ .uses .closeLocally ∧
      event ≠ .uses .dropReader ∧ event ≠ .uses .dropWriter) : s'.Heard (events ++ [event]) := by
  obtain ⟨cancel, cancels, closes, drops, drops'⟩ := silent
  constructor
  · rw [reader, h.reader]
    simp [drops.symm]
  · rw [writer, h.writer]
    simp [drops'.symm]
  · rw [told, h.told]
    simp [IsTold, cancel.symm, cancels.symm, closes.symm, drops.symm, drops'.symm]

theorem use (h : s.Heard events) (how : Use) : (s.use how).Heard (events ++ [.uses how]) := by
  cases how with
  | beginWrite buffer => exact h.skip rfl rfl rfl (by simp)
  | abortWrite => exact h.skip rfl rfl rfl (by simp)
  | goOnWriting =>
    rw [Stream.use, goOnWriting_frame]
    exact h.skip rfl rfl rfl (by simp)
  | closeLocally | cancel =>
    refine ⟨h.reader.trans ?_, h.writer.trans ?_, ?_⟩
    · simp
    · simp
    · simp [Stream.use, closeLocally, cancel, IsTold]
  | dropReader =>
    cases opened : s.writerOpen with
    | true =>
      have present : .uses .dropWriter ∉ events := by simp [← h.writer, opened]
      simp only [Stream.use, dropReader, opened]
      refine ⟨by simp, ?_, h.told.trans ?_⟩
      · simp [present]
      · simp [IsTold, present]
    | false =>
      have gone := h.writer.mp opened
      simp only [Stream.use, dropReader, opened]
      refine ⟨by simp [cancel], ?_, ?_⟩
      · simp [cancel, gone]
      · simp [cancel, IsTold, gone]
  | dropWriter =>
    cases opened : s.readerOpen with
    | true =>
      have present : .uses .dropReader ∉ events := by simp [← h.reader, opened]
      simp only [Stream.use, dropWriter, opened]
      refine ⟨?_, by simp, h.told.trans ?_⟩
      · simp [present]
      · simp [IsTold, present]
    | false =>
      have gone := h.reader.mp opened
      simp only [Stream.use, dropWriter, opened]
      refine ⟨?_, by simp [cancel], ?_⟩
      · simp [cancel, gone]
      · simp [cancel, IsTold, gone]

theorem next? {event : Event} {entry : Option (Happening × List Action)} (h : s.Heard events)
    (stepped : s.next? settings event = some (s', entry)) : s'.Heard (events ++ [event]) := by
  cases event with
  | happens happening =>
    obtain ⟨actions, -, moved⟩ := step?_of_next? stepped
    have moves := moves_of_step? moved
    by_cases now : happening = .cancel
    · subst now
      have told : { s.carrier with cancelled := true } = s'.carrier :=
        (Prod.mk.inj (Option.some.inj (carrier_of_step? moved))).1
      constructor
      · rw [moves.readerOpen, h.reader]
        simp
      · rw [moves.writerOpen, h.writer]
        simp
      · simp [← told, IsTold]
    · have untold := moves.carrier.cancelled_eq now
      exact h.skip moves.readerOpen moves.writerOpen untold (by simp [now])
  | reads size =>
    obtain ⟨-, -, result, taken⟩ := takeChunk?_of_next? stepped
    rw [takeChunk?_frame taken]
    exact h.skip rfl rfl rfl (by simp)
  | uses how =>
    cases stepped
    exact h.use how

/-- Whatever is told is heard. -/
theorem run (h : s.Heard before) (run : s.run? settings events = some (s', log)) :
    s'.Heard (before ++ events) := by
  induction events generalizing s before log with
  | nil =>
    cases run
    simpa using h
  | cons event events ih =>
    obtain ⟨next, entry, rest, stepped, further, -⟩ := run?_cons.mp run
    simpa using ih (h.next? stepped) further

end Heard

/-! ## From the first event to the end -/

/-- The connections that were put in place are those on which the session went on. -/
theorem count_install_of_run? (run : s.run? settings events = some (s', log)) :
    (log.flatMap Prod.snd).count .install = connectionNumber log := by
  induction events generalizing s log with
  | nil =>
    cases run
    rfl
  | cons event events ih =>
    obtain ⟨next, entry, rest, stepped, further, rfl⟩ := run?_cons.mp run
    have later := ih further
    rcases next?_turn stepped with ⟨happening, actions, -, rfl, moved⟩ | ⟨rfl, -, -⟩
    · have here := (Carrier.step_of_step? (carrier_of_step? moved)).count_install
      simp only [Option.toList_some, List.singleton_append, List.flatMap_cons, List.count_append,
        here, later, connectionNumber, List.countP_cons]
      omega
    · exact later

/-- A stream that is live after a run was live before it. -/
theorem isLive_of_run?_isLive (run : s.run? settings events = some (s', log))
    (live : s'.carrier.phase.stage.isLive = true) : s.carrier.phase.stage.isLive = true := by
  cases before : s.carrier.phase.stage.isLive with
  | true => rfl
  | false =>
    obtain ⟨last, settled⟩ := Carrier.exists_settled before
    rw [(settled_of_run? run settled).isLive] at live
    cases live

/-- No close message is sent while a stream is live. -/
theorem partings_of_isLive (run : s.run? settings events = some (s', log))
    (live : s'.carrier.phase.stage.isLive = true) (number : Nat) :
    partings number (log.flatMap Prod.snd) = [] := by
  induction events generalizing s log number with
  | nil =>
    cases run
    rfl
  | cons event events ih =>
    have here := isLive_of_run?_isLive run live
    obtain ⟨next, entry, rest, stepped, further, rfl⟩ := run?_cons.mp run
    have later := ih further
    rcases next?_turn stepped with ⟨happening, actions, -, rfl, moved⟩ | ⟨rfl, -, -⟩
    · have none := Carrier.parting?_of_isLive (isLive_of_run?_isLive further live)
      have silent := Carrier.partings_of_step? (carrier_of_step? moved) here number
      rw [none] at silent
      simp only [Option.toList_some, List.singleton_append, List.flatMap_cons, partings_append,
        silent, later]
      rfl
    · exact later number

/-- Behind the moment at which the last state is settled, a stream only ends. -/
structure Winds (last : StreamState) (s s' : Stream) (log : List (Happening × List Action)) :
    Prop where
  session : s'.carrier.session = s.carrier.session
  actions : ∀ entry ∈ log, ∀ action ∈ entry.2, action = .publish last ∨ action = .stop

theorem winds_of_run? (settled : s.carrier.Settled last)
    (run : s.run? settings events = some (s', log)) : Winds last s s' log := by
  induction events generalizing s log with
  | nil =>
    cases run
    exact ⟨rfl, by simp⟩
  | cons event events ih =>
    obtain ⟨next, entry, rest, stepped, further, rfl⟩ := run?_cons.mp run
    have short : s.run? settings [event] = some (next, entry.toList ++ []) :=
      run?_cons.mpr ⟨next, entry, [], stepped, rfl, rfl⟩
    have one : next.carrier.Settled last := settled_of_run? short settled
    have later := ih one further
    cases event with
    | happens happening =>
      obtain ⟨actions, rfl, moved⟩ := step?_of_next? stepped
      have ways := settled.step? (carrier_of_step? moved)
      simp only [Carrier.stopIn, Prod.mk.injEq] at ways
      have session : next.carrier.session = s.carrier.session := by
        rcases ways with ⟨-, same, -⟩ | ⟨-, -, same, -⟩ <;> rw [same]
      refine ⟨later.session.trans session, List.forall_mem_cons.mpr ⟨?_, later.actions⟩⟩
      rcases ways with ⟨-, -, rfl⟩ | ⟨-, -, -, rfl⟩ <;> simp
    | reads size =>
      obtain ⟨-, rfl, result, taken⟩ := takeChunk?_of_next? stepped
      rw [takeChunk?_frame taken] at later
      exact ⟨later.session, later.actions⟩
    | uses how =>
      cases stepped
      exact ⟨later.session.trans (s.use_spares how).session, later.actions⟩

namespace Winds

variable (h : Winds last s s' log)

include h

theorem actions_flatMap : ∀ action ∈ log.flatMap Prod.snd,
    action = .publish last ∨ action = .stop := by
  intro action member
  obtain ⟨entry, among, member⟩ := List.mem_flatMap.mp member
  exact h.actions entry among action member

theorem install_not_mem : .install ∉ log.flatMap Prod.snd := by
  intro member
  rcases h.actions_flatMap _ member with same | same <;> cases same

/-- No close message is sent any more. -/
theorem partings (number : Nat) : RelayTunnel.partings number (log.flatMap Prod.snd) = [] := by
  rw [partings_of_not_mem number h.install_not_mem, List.map_eq_nil_iff,
    List.filterMap_eq_nil_iff]
  intro action member
  rcases h.actions_flatMap action member with rfl | rfl <;> rfl

end Winds

/-- What a run does about something that happens in it. -/
theorem split_of_run? {first : List (Happening × List Action)}
    (run : s.run? settings (before ++ .happens happening :: after) = some (s', log))
    (front : s.run? settings before = some (t, first)) :
    ∃ t' actions rest, t.step? settings happening = some (t', actions) ∧
      t'.run? settings after = some (s', rest) ∧ log = first ++ (happening, actions) :: rest := by
  obtain ⟨u, _, rest, front', back, rfl⟩ := run?_append.mp run
  cases front.symm.trans front'
  obtain ⟨next, entry, rest, moved, further, rfl⟩ := run?_cons.mp back
  obtain ⟨actions, rfl, stepped⟩ := step?_of_next? moved
  exact ⟨next, actions, rest, stepped, further, rfl⟩

/-- The moment at which the last state of a stream is settled, if it is. -/
structure Ending (settings : RelaySettings) (s : Stream) (events : List Event) (s' : Stream)
    (log : List (Happening × List Action)) (before : List Event) (t t' : Stream) : Prop where
  run : ∃ happening after first actions rest,
    events = before ++ .happens happening :: after ∧
      s.run? settings before = some (t, first) ∧
      t.step? settings happening = some (t', actions) ∧
      t'.run? settings after = some (s', rest) ∧
      log = first ++ (happening, actions) :: rest
  live : t.carrier.phase.stage.isLive = true
  gone : t'.carrier.phase.stage.isLive = false

theorem exists_ending (run : s.run? settings events = some (s', log))
    (live : s.carrier.phase.stage.isLive = true) (gone : s'.carrier.phase.stage.isLive = false) :
    ∃ before t t', s.Ending settings events s' log before t t' := by
  rcases endsWith_of_run? run live with living | ⟨result, ends, -⟩
  · rw [gone] at living
    cases living
  · obtain ⟨before, happening, after, t, first, t', actions, rfl, front, living, -, stepped,
      settled⟩ := ends
    obtain ⟨next, others, rest, moved, further, rfl⟩ := split_of_run? run front
    cases stepped.symm.trans moved
    exact ⟨before, t, t', ⟨happening, after, _, actions, rest, rfl, front, stepped, further, rfl⟩,
      living, settled⟩

/-- The close message of a run is the one that goes with its end, on the connection that was
    put in place last. -/
theorem Ending.partings {sid : String} (h : (start sid).Ending settings events s log before t t')
    (settled : s.carrier.Settled last) :
    RelayTunnel.partings 0 (log.flatMap Prod.snd) =
      (last.parting? (decide (IsTold before))).toList.map (connectionNumber log, ·) := by
  obtain ⟨split, live, gone⟩ := h
  obtain ⟨happening, after, first, actions, rest, rfl, front, stepped, further, rfl⟩ := split
  have moved := carrier_of_step? stepped
  obtain ⟨last', settles⟩ := Carrier.exists_settled gone
  obtain rfl : last' = last := (settled_of_run? further settles).unique settled
  have winds := winds_of_run? settles further
  -- being told to end later makes no difference
  have told : t'.carrier.cancelled = decide (IsTold before) := by
    have same := (Carrier.step_of_step? moved).cancelled_eq (settles.ne_cancel live moved)
    have heard := ((Heard.start sid).run front).told
    rw [List.nil_append] at heard
    rw [same, Bool.eq_iff_iff, heard, decide_eq_true_eq]
  have number : connectionNumber (first ++ (happening, actions) :: rest) =
      (first.flatMap Prod.snd).count .install + actions.count .install := by
    have later := count_install_of_run? further
    have here := (Carrier.step_of_step? moved).count_install
    rw [List.count_eq_zero.mpr winds.install_not_mem] at later
    rw [count_install_of_run? front, here]
    simp only [connectionNumber, List.countP_append, List.countP_cons] at later ⊢
    omega
  rw [number, List.flatMap_append, List.flatMap_cons, partings_append, partings_append,
    partings_of_isLive front live, Carrier.partings_of_step? moved live, winds.partings,
    settles.parting?, told, List.nil_append, List.append_nil, Nat.zero_add]

/-- A stream has ended in this state, or will do so once its last close message is over. -/
def EndsIn (settings : RelaySettings) (last : StreamState) (s : Stream) : Prop :=
  (s.isStopped = true → s.carrier.state = last) ∧
    (s.isStopped = false → ∃ s', s.step? settings .closeOver = some (s', [.publish last, .stop]) ∧
      s'.isStopped = true ∧ s'.carrier.state = last)

theorem endsIn_of_settled (settled : s.carrier.Settled last) : s.EndsIn settings last := by
  rcases settled with closes | ⟨ended, state⟩
  · have phase := Carrier.phase_of_closing closes
    refine ⟨fun stopped => by simp [isStopped, phase] at stopped, fun _ => ?_⟩
    have stepped : s.carrier.step? settings .closeOver = some (s.carrier.stopIn last) := by
      simp only [Carrier.step?, phase]
    refine ⟨_, by simp only [step?, allows, stepped, if_true, Option.map_some]; rfl, ?_⟩
    rw [foldl_apply_frame]
    exact ⟨rfl, rfl⟩
  · refine ⟨fun _ => state, fun running => ?_⟩
    rw [isStopped_iff.mpr ended] at running
    cases running

/-! ## Messages -/

theorem messageArrived_of_step? {c : Carrier} {move : Move}
    (stepped : c.step? settings (.arrival (.message message)) = some move) :
    move = c.messageArrived settings.flow message := by
  obtain ⟨-, same⟩ := Option.ite_none_right_eq_some.mp stepped
  exact (Option.some.inj same).symm

/-- Counting changes nothing between the halves and the carrier. -/
theorem apply_count (s : Stream) (entry : TrafficEntry) : s.apply (.count entry) = s := by
  have kept : s.writing.map (writingAfter · (.count entry)) = s.writing := by
    cases s.writing with
    | none => rfl
    | some writing => cases writing <;> rfl
  simp only [apply, kept]

/-- A message that means nothing is counted. -/
theorem step?_of_isIdle (idle : Carrier.IsIdle message)
    (stepped : s.step? settings (.arrival (.message message)) = some (s', actions)) :
    s' = s ∧ actions = [.count .frameReceived] := by
  obtain ⟨-, stepped⟩ := Option.ite_none_right_eq_some.mp stepped
  obtain ⟨move, moved, same⟩ := Option.map_eq_some_iff.mp stepped
  rw [messageArrived_of_step? moved, Carrier.messageArrived_of_isIdle idle] at same
  cases same
  exact ⟨apply_count s .frameReceived, rfl⟩

/-- A message that breaks the protocol settles how the stream ends. -/
theorem step?_of_violates (violates : s.carrier.Violates message)
    (stepped : s.step? settings (.arrival (.message message)) = some (s', actions)) :
    ∃ violation, s'.carrier.Settled (.failed (.protocolViolation violation)) ∧
      s'.carrier.session = s.carrier.session ∧
      actions = [.count .frameReceived, .close closeInvalidData "protocol violation"] := by
  have moved := messageArrived_of_step? (carrier_of_step? stepped)
  obtain ⟨violation, same⟩ := Carrier.messageArrived_of_violates settings.flow violates
  obtain ⟨carrier, rfl⟩ := Prod.mk.inj (moved.trans same)
  exact ⟨violation, .inl (by rw [carrier]; rfl), by rw [carrier], rfl⟩

/-! ## How a stream parts from the relay -/

/-- How a stream parts from the relay in a run, where `log` is what its carrier has done about
    what happened to it. -/
structure Farewell (settings : RelaySettings) (sid : String) (events : List Event) (s : Stream)
    (log : List (Happening × List Action)) : Prop where
  /-- A breach of the protocol ends the stream with this error. The relay is told; nothing else
      is done about the message, nor about anything behind it but to publish the end. -/
  breach {before after : List Event} {message : Bytes} {t : Stream}
    {first : List (Happening × List Action)}
    (order : events = before ++ .happens (.arrival (.message message)) :: after)
    (reached : (start sid).run? settings before = some (t, first))
    (violates : t.carrier.Violates message) :
    ∃ violation rest,
      log = first ++ (.arrival (.message message),
        [.count .frameReceived, .close closeInvalidData "protocol violation"]) :: rest ∧
      Winds (.failed (.protocolViolation violation)) t s rest ∧
      s.EndsIn settings (.failed (.protocolViolation violation))
  /-- A message that means nothing is counted, and the run goes on as without it. -/
  idle {before after : List Event} {message : Bytes} {t : Stream}
    {first : List (Happening × List Action)}
    (order : events = before ++ .happens (.arrival (.message message)) :: after)
    (reached : (start sid).run? settings before = some (t, first))
    (means : Carrier.IsIdle message) :
    ∃ rest, log = first ++ (.arrival (.message message), [.count .frameReceived]) :: rest ∧
      t.run? settings after = some (s, rest)
  once : (partings 0 (log.flatMap Prod.snd)).length ≤ 1
  live : s.carrier.phase.stage.isLive = true → partings 0 (log.flatMap Prod.snd) = []
  /-- The close message fits the last state and what the stream has been told when that was
      settled, and goes to the connection that was current then. -/
  ending {last : StreamState} (settled : s.carrier.Settled last) :
    ∃ before t t', (start sid).Ending settings events s log before t t' ∧
      partings 0 (log.flatMap Prod.snd) =
        (last.parting? (decide (IsTold before))).toList.map (connectionNumber log, ·)
  ends {last : StreamState} (settled : s.carrier.Settled last) : s.EndsIn settings last

/-- Whatever the relay, the connections and the halves do and in whatever order, a stream parts
    from the relay like this. -/
theorem farewell (settings : RelaySettings) (sid : String) (events : List Event)
    (run : (start sid).run? settings events = some (s, log)) :
    Farewell settings sid events s log := by
  have ending {last : StreamState} (settled : s.carrier.Settled last) :
      ∃ before t t', (start sid).Ending settings events s log before t t' ∧
        partings 0 (log.flatMap Prod.snd) =
          (last.parting? (decide (IsTold before))).toList.map (connectionNumber log, ·) := by
    obtain ⟨before, t, t', ends⟩ := exists_ending run rfl settled.isLive
    exact ⟨before, t, t', ends, ends.partings settled⟩
  refine
    { breach := ?_
      idle := ?_
      once := ?_
      live := fun live => partings_of_isLive run live 0
      ending
      ends := endsIn_of_settled }
  · rintro before after message t first rfl reached violates
    obtain ⟨t', actions, rest, stepped, further, rfl⟩ := split_of_run? run reached
    obtain ⟨violation, settled, session, rfl⟩ := step?_of_violates violates stepped
    have winds := winds_of_run? settled further
    exact ⟨violation, rest, rfl, ⟨winds.session.trans session, winds.actions⟩,
      endsIn_of_settled (settled_of_run? further settled)⟩
  · rintro before after message t first rfl reached means
    obtain ⟨t', actions, rest, stepped, further, rfl⟩ := split_of_run? run reached
    obtain ⟨rfl, rfl⟩ := step?_of_isIdle means stepped
    exact ⟨rest, rfl, further⟩
  · cases live : s.carrier.phase.stage.isLive with
    | true => simp [partings_of_isLive run live 0]
    | false =>
      obtain ⟨last, settled⟩ := Carrier.exists_settled live
      obtain ⟨before, -, -, -, same⟩ := ending settled
      rw [same, List.length_map]
      cases last.parting? (decide (IsTold before)) <;> simp

/-- A stream that has been resumed gets a frame that has no place there, and is told to end
    before its close message is over. -/
theorem farewell_displaced :
    let message : Bytes := [0, 1, 0, 0, 0, 1, 97]
    let events : List Event :=
      [.happens (.arrival (.message [0, 9])), .happens (.arrival .ended), .happens (.resumed 0),
        .happens (.arrival (.message message)), .uses .cancel, .happens .closeOver]
    ∃ s log, (start "s").run? {} events = some (s, log) ∧
      partings 0 (log.flatMap Prod.snd) = [(1, 4013, "protocol violation")] ∧
      (∃ violation, s.EndsIn {} (.failed (.protocolViolation violation))) ∧
      Farewell {} "s" events s log := by
  intro message events
  have ran : ((start "s").run? {} events).any (fun r =>
      partings 0 (r.2.flatMap Prod.snd) = [(1, 4013, "protocol violation")]) = true := by
    decide +kernel
  obtain ⟨⟨s, log⟩, run, found⟩ := (Option.any_eq_true ..).mp ran
  have parts := farewell {} "s" events run
  have some : ((start "s").run? {} (events.take 3)).isSome = true := by decide +kernel
  obtain ⟨⟨t, first⟩, reached⟩ := Option.isSome_iff_exists.mp some
  have displaced : Wire.encode (.connectSuccess "a") = .ok message := by
    decide +kernel
  have order : events = events.take 3 ++
      .happens (.arrival (.message message)) :: [.uses .cancel, .happens .closeOver] := rfl
  obtain ⟨violation, _, _, _, ends⟩ := parts.breach order reached (.connectSuccess displaced)
  exact ⟨s, log, run, of_decide_eq_true found, ⟨violation, ends⟩, parts⟩

end Stream

end RelayTunnel
