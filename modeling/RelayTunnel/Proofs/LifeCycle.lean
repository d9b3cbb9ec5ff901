import RelayTunnel.Proofs.Stream
import RelayTunnel.Proofs.Turns

/-!
# The life of a stream

A stream is connected, any number of times loses its connection and gets a new one, and ends
at most once. `course` is this sequence of states, and `Lived` says that what a carrier has
done so far is such a course up to the stage that it is in. The halves of the stream find out
about the end through their queues: when these end, the last state is there to be seen.
-/

namespace RelayTunnel

/-! ## Courses -/

/-- The states of a stream that has lost and regained its connection so many times, may then
    have lost it once more, and may then have ended. -/
def course (rounds : Nat) (lost : Bool) (last : Option StreamState) : List StreamState :=
  .connected :: ((List.replicate rounds [.reconnecting, .connected]).flatten ++
    (if lost then [.reconnecting] else []) ++ last.toList)

/-- How often a stream has regained its connection. -/
def recoveries (states : List StreamState) : Nat :=
  (states.zip states.tail).count (.reconnecting, .connected)

section

variable {rounds : Nat} {lost : Bool} {last : Option StreamState}

theorem course_succ (rounds : Nat) (lost : Bool) (last : Option StreamState) :
    course (rounds + 1) lost last = .connected :: .reconnecting :: course rounds lost last := by
  simp [course, List.replicate_succ]

/-- The connection is lost. -/
theorem course_lose (rounds : Nat) :
    course rounds false none ++ [.reconnecting] = course rounds true none := by
  simp [course]

/-- The connection is regained. -/
theorem course_regain (rounds : Nat) :
    course rounds true none ++ [.connected] = course (rounds + 1) false none := by
  simp [course, List.replicate_succ']

/-- The stream ends. -/
theorem course_end (rounds : Nat) (lost : Bool) (state : StreamState) :
    course rounds lost none ++ [state] = course rounds lost (some state) := by
  simp [course]

/-- The state at the end of a course. -/
theorem getLast?_course (rounds : Nat) (lost : Bool) (last : Option StreamState) :
    (course rounds lost last).getLast? =
      some (last.getD (if lost then .reconnecting else .connected)) := by
  induction rounds with
  | zero => cases lost <;> cases last <;> rfl
  | succ rounds ih => rw [course_succ, List.getLast?_cons_cons, List.getLast?_cons, ih]; rfl

/-- The end is the only state that can be terminal. -/
theorem eq_last_of_mem_course {state : StreamState} (member : state ∈ course rounds lost last)
    (terminal : state.isTerminal = true) : last = some state := by
  induction rounds with
  | zero =>
    cases lost <;> cases last <;> simp_all [course, StreamState.isTerminal] <;> grind
  | succ rounds ih =>
    rw [course_succ, List.mem_cons, List.mem_cons] at member
    rcases member with rfl | rfl | member
    · cases terminal
    · cases terminal
    · exact ih member

theorem recoveries_course (ended : ∀ state ∈ last, state.isTerminal = true) :
    recoveries (course rounds lost last) = rounds := by
  induction rounds with
  | zero =>
    cases last with
    | none => cases lost <;> rfl
    | some state =>
      have other : state ≠ .connected := by
        rintro rfl
        exact absurd (ended _ rfl) (by decide)
      cases lost <;> simp [recoveries, course, other]
  | succ rounds ih =>
    have first : ∃ rest, course rounds lost last = .connected :: rest := ⟨_, rfl⟩
    obtain ⟨rest, first⟩ := first
    rw [course_succ]
    rw [first] at ih ⊢
    have more : recoveries (.connected :: .reconnecting :: .connected :: rest) =
        recoveries (.connected :: rest) + 1 := by
      simp [recoveries]
    rw [more, ih]

end

/-! ## What was done so far -/

/-- The states that a stream has been in. -/
def states (did : List Action) : List StreamState :=
  .connected :: did.filterMap Action.published?

/-- What was counted. -/
def Action.entry? : Action → Option TrafficEntry
  | .count entry => some entry
  | _ => none

/-- The counters count each regained connection once. -/
theorem reconnects_recordAll (traffic : Traffic) (did : List Action) :
    (traffic.recordAll (did.filterMap Action.entry?)).reconnects =
      traffic.reconnects + UInt64.ofNat (did.count (.count .reconnected)) := by
  induction did generalizing traffic with
  | nil => simp [Traffic.recordAll]
  | cons action did ih =>
    cases action with
    | count entry =>
      have rest := ih (traffic.record entry)
      have first : traffic.recordAll ((Action.count entry :: did).filterMap Action.entry?) =
          (traffic.record entry).recordAll (did.filterMap Action.entry?) := rfl
      rw [first, rest]
      cases entry with
      | reconnected =>
        rw [List.count_cons_self, UInt64.ofNat_add, Traffic.record, UInt64.add_assoc,
          UInt64.add_comm 1]
        rfl
      | _ => rw [List.count_cons_of_ne (by simp)]; rfl
    | _ =>
      rw [List.count_cons_of_ne (by simp)]
      exact ih traffic

theorem filterMap_published?_signals (actions : List Action) :
    (signals actions).filterMap Action.published? = actions.filterMap Action.published? := by
  induction actions with
  | nil => rfl
  | cons action actions ih =>
    cases signal : action.isSignal with
    | true => rw [signals_cons_of_isSignal _ signal, List.filterMap_cons, List.filterMap_cons, ih]
    | false =>
      rw [signals_cons_of_not _ signal, ih,
        List.filterMap_cons_none (Action.published?_eq_none signal)]

theorem states_append (did actions : List Action) :
    states (did ++ actions) = states did ++ (signals actions).filterMap Action.published? := by
  rw [states, states, List.filterMap_append, filterMap_published?_signals, List.cons_append]

/-- Whatever tells how far the stream has come is counted among what does. -/
theorem count_append_signals {action : Action} (did actions : List Action)
    (signal : action.isSignal = true) :
    (did ++ actions).count action = did.count action + (signals actions).count action := by
  have same : (signals actions).count action = actions.count action := List.count_filter signal
  rw [List.count_append, same]

theorem mem_signals {action : Action} {actions : List Action} (signal : action.isSignal = true) :
    action ∈ signals actions ↔ action ∈ actions := by
  simp [signals, signal]

namespace Carrier

variable {settings : RelaySettings} {c c' : Carrier} {happening : Happening}
  {did actions : List Action}

/-- The state of a carrier fits its stage. -/
def Poised (c : Carrier) : Prop :=
  match c.phase.stage with
  | .established => c.state = .connected
  | .recovering => c.state = .reconnecting
  | .closing last => c.state.isTerminal = false ∧ last.isTerminal = true
  | .ended => c.state.isTerminal = true

/-- What a carrier has done so far is a course, which it ends with the stop of its queues. -/
structure Lived (c : Carrier) (did : List Action) : Prop where
  poised : c.Poised
  course : ∃ rounds lost last, states did = course rounds lost last ∧
    (∀ state ∈ last, state.isTerminal = true) ∧
    did.count (.count .reconnected) = rounds ∧
    c.state = last.getD (if lost then .reconnecting else .connected)
  running : c.phase.stage ≠ .ended → .stop ∉ did
  stopped : c.phase.stage = .ended →
    ∃ front, signals did = front ++ [.publish c.state, .stop] ∧ .stop ∉ front

namespace Lived

theorem start (sid : String) : (Carrier.start sid).Lived [] where
  poised := rfl
  course := ⟨0, false, none, rfl, by simp, rfl, rfl⟩
  running _ := by simp
  stopped ended := by cases ended

theorem connected (h : c.Lived did) (established : c.phase.stage = .established) :
    c.state = .connected := by
  have poised := h.poised
  rwa [Poised, established] at poised

theorem reconnecting (h : c.Lived did) (recovering : c.phase.stage = .recovering) :
    c.state = .reconnecting := by
  have poised := h.poised
  rwa [Poised, recovering] at poised

/-- Only after its end a carrier is in a terminal state. -/
theorem ended_of_isTerminal (h : c.Lived did) (terminal : c.state.isTerminal = true) :
    c.phase.stage = .ended := by
  have poised := h.poised
  cases stage : c.phase.stage with
  | ended => rfl
  | established | recovering =>
    rw [Poised, stage] at poised
    rw [poised] at terminal
    cases terminal
  | closing last =>
    rw [Poised, stage] at poised
    rw [poised.1] at terminal
    cases terminal

/-- Before its end a stream has not been in a terminal state. -/
theorem unended (h : c.Lived did) (running : c.state.isTerminal = false) :
    ∃ lost, states did = RelayTunnel.course (did.count (.count .reconnected)) lost none ∧
      c.state = if lost then .reconnecting else .connected := by
  obtain ⟨rounds, lost, last, same, terminal, counted, state⟩ := h.course
  cases last with
  | none => exact ⟨lost, counted ▸ same, state⟩
  | some last =>
    rw [state] at running
    exact absurd (terminal last rfl) (by simpa using running)

/-- Where the stage is live the state is not terminal. -/
theorem running_of_isLive (h : c.Lived did) (live : c.phase.stage.isLive = true) :
    c.state.isTerminal = false := by
  cases stage : c.phase.stage with
  | established => rw [h.connected stage]; rfl
  | recovering => rw [h.reconnecting stage]; rfl
  | closing last => rw [stage] at live; cases live
  | ended => rw [stage] at live; cases live

theorem not_ended_of_isLive (live : c.phase.stage.isLive = true) : c.phase.stage ≠ .ended := by
  intro ended
  rw [ended] at live
  cases live

/-- Nothing stops the queues before the stream ends. -/
theorem running_append (h : c.Lived did) (unended : c.phase.stage ≠ .ended)
    (silent : .stop ∉ signals actions) : .stop ∉ did ++ actions := by
  intro member
  rcases List.mem_append.mp member with member | member
  · exact h.running unended member
  · exact silent ((mem_signals rfl).mpr member)

/-- The stream ends, perhaps after it has lost its connection once more. -/
theorem ending {lead : List Action} {last : StreamState} (h : c.Lived did)
    (before : c.phase.stage ≠ .ended) (running : c.state.isTerminal = false)
    (terminal : last.isTerminal = true) (after : c'.phase.stage = .ended) (state : c'.state = last)
    (leads : lead = [] ∨ lead = [.publish .reconnecting] ∧ c.state = .connected)
    (tells : signals actions = lead ++ [.publish last, .stop]) : c'.Lived (did ++ actions) := by
  have uncounted : (signals actions).count (.count .reconnected) = 0 := by
    rw [tells]
    rcases leads with rfl | ⟨rfl, -⟩ <;> simp
  have unstopped : .stop ∉ lead := by
    rcases leads with rfl | ⟨rfl, -⟩ <;> simp
  obtain ⟨lost, same, stood⟩ := h.unended running
  have later : ∃ lost, states (did ++ actions) =
      RelayTunnel.course (did.count (.count .reconnected)) lost (some last) := by
    rw [states_append, same, tells]
    rcases leads with rfl | ⟨rfl, connected⟩
    · exact ⟨lost, course_end ..⟩
    · cases lost with
      | true =>
        rw [connected] at stood
        cases stood
      | false =>
        refine ⟨true, ?_⟩
        rw [← course_end, ← course_lose, List.append_assoc]
        rfl
  obtain ⟨lost, later⟩ := later
  refine ⟨?_, ⟨_, lost, some last, later, ?_, ?_, state⟩, fun other => absurd after other, ?_⟩
  · rw [Poised, after, state]
    exact terminal
  · intro other member
    cases member
    exact terminal
  · rw [count_append_signals _ _ rfl, uncounted, Nat.add_zero]
  · intro _
    refine ⟨signals did ++ lead, ?_, ?_⟩
    · rw [signals_append, tells, state, List.append_assoc]
    · intro member
      rcases List.mem_append.mp member with member | member
      · exact h.running before ((mem_signals rfl).mp member)
      · exact unstopped member

/-- Where nothing is told of, the states stay as they are. -/
theorem still (h : c.Lived did) (state : c'.state = c.state) (silent : signals actions = []) :
    ∃ rounds lost last, states (did ++ actions) = RelayTunnel.course rounds lost last ∧
      (∀ state ∈ last, state.isTerminal = true) ∧
      (did ++ actions).count (.count .reconnected) = rounds ∧
      c'.state = last.getD (if lost then .reconnecting else .connected) := by
  obtain ⟨rounds, lost, last, same, terminal, counted, stood⟩ := h.course
  refine ⟨rounds, lost, last, ?_, terminal, ?_, state.trans stood⟩
  · rw [states_append, silent, same]
    simp
  · rw [count_append_signals _ _ rfl, silent, counted]
    rfl

/-- What one step preserves. -/
theorem turn (h : c.Lived did) (turn : c.Turn settings happening c' actions) :
    c'.Lived (did ++ actions) := by
  cases turn with
  | stays stage state silent =>
    refine ⟨?_, h.still state silent, ?_, ?_⟩
    · have poised := h.poised
      rwa [Poised, stage, state]
    · intro unended
      rw [stage] at unended
      exact h.running_append unended (by simp [silent])
    · rw [stage, state, signals_append, silent, List.append_nil]
      exact h.stopped
  | lost before fails after state tells =>
    have live := Stage.isLive_of_established before
    have connected := h.connected before
    obtain ⟨lost, same, stood⟩ := h.unended (h.running_of_isLive live)
    cases lost with
    | true =>
      rw [connected] at stood
      cases stood
    | false =>
      refine ⟨?_, ⟨did.count (.count .reconnected), true, none, ?_, by simp, ?_, state⟩, ?_, ?_⟩
      · rw [Poised, after]
        exact state
      · rw [states_append, same, tells, ← course_lose]
        rfl
      · rw [count_append_signals _ _ rfl, tells]
        rfl
      · intro _
        exact h.running_append (not_ended_of_isLive live) (by simp [tells])
      · intro ended
        cases after.symm.trans ended
  | recovered before after state tells =>
    have live := Stage.isLive_of_recovering before
    have reconnecting := h.reconnecting before
    obtain ⟨lost, same, stood⟩ := h.unended (h.running_of_isLive live)
    cases lost with
    | false =>
      rw [reconnecting] at stood
      cases stood
    | true =>
      refine ⟨?_, ⟨did.count (.count .reconnected) + 1, false, none, ?_, by simp, ?_, state⟩,
        ?_, ?_⟩
      · rw [Poised, after]
        exact state
      · rw [states_append, same, tells, ← course_regain]
        rfl
      · rw [count_append_signals _ _ rfl, tells]
        rfl
      · intro _
        exact h.running_append (not_ended_of_isLive live) (by simp [tells])
      · intro ended
        cases after.symm.trans ended
  | parts before ends after state silent =>
    refine ⟨?_, h.still state silent, ?_, ?_⟩
    · rw [Poised, after, state]
      exact ⟨h.running_of_isLive before, StreamState.isTerminal_ofResult _⟩
    · intro _
      exact h.running_append (not_ended_of_isLive before) (by simp [silent])
    · intro ended
      cases after.symm.trans ended
  | stops before ends after state tells =>
    exact h.ending (not_ended_of_isLive before) (h.running_of_isLive before)
      (StreamState.isTerminal_ofResult _) after state (.inl rfl) tells
  | givesUp before ends after state tells =>
    have live := Stage.isLive_of_established before
    exact h.ending (not_ended_of_isLive live) (h.running_of_isLive live)
      (StreamState.isTerminal_ofResult _) after state (.inr ⟨rfl, h.connected before⟩) tells
  | hasClosed before after state tells =>
    have poised := h.poised
    rw [Poised, before] at poised
    have unended : c.phase.stage ≠ .ended := by simp [before]
    exact h.ending unended poised.1 poised.2 after state (.inl rfl) tells

/-- Being told to end makes no difference. -/
theorem congr (h : c.Lived did) (phase : c'.phase = c.phase) (state : c'.state = c.state) :
    c'.Lived did := by
  obtain ⟨poised, course, running, stopped⟩ := h
  refine ⟨?_, ?_, ?_, ?_⟩
  · rwa [Poised, phase, state]
  · rwa [state]
  · rwa [phase]
  · rwa [phase, state]

end Lived

/-! ## The last state -/

/-- The last state is settled: the carrier is about to end in it, or has. -/
def Settled (c : Carrier) (last : StreamState) : Prop :=
  c.phase.stage = .closing last ∨ c.phase.stage = .ended ∧ c.state = last

namespace Settled

variable {last : StreamState}

theorem isLive (h : c.Settled last) : c.phase.stage.isLive = false := by
  rcases h with closes | ⟨ended, -⟩
  · rw [closes]
    rfl
  · rw [ended]
    rfl

/-- A settled state stays so. -/
theorem turn (h : c.Settled last) (turn : c.Turn settings happening c' actions) :
    c'.Settled last := by
  -- once it is settled, the stream only has to end
  have gone (live : c.phase.stage.isLive = true) : False := by
    rw [h.isLive] at live
    cases live
  cases turn with
  | stays stage state => rwa [Settled, stage, state]
  | lost before => exact absurd (Stage.isLive_of_established before) gone
  | recovered before => exact absurd (Stage.isLive_of_recovering before) gone
  | parts before => exact absurd before gone
  | stops before => exact absurd before gone
  | givesUp before => exact absurd (Stage.isLive_of_established before) gone
  | hasClosed before after state =>
    rcases h with closes | ⟨ended, -⟩
    · cases before.symm.trans closes
      exact .inr ⟨after, state⟩
    · cases before.symm.trans ended

end Settled

/-- A live carrier stays live, or something ends it and settles its last state. -/
theorem Turn.settles (turn : c.Turn settings happening c' actions)
    (live : c.phase.stage.isLive = true) :
    c'.phase.stage.isLive = true ∨
      ∃ result, c.Ends settings happening result ∧ c'.Settled (.ofResult result) := by
  cases turn with
  | stays stage => exact .inl (stage ▸ live)
  | lost _ _ after => exact .inl (Stage.isLive_of_recovering after)
  | recovered _ after => exact .inl (Stage.isLive_of_established after)
  | parts _ ends after => exact .inr ⟨_, ends, .inl after⟩
  | stops _ ends after state => exact .inr ⟨_, ends, .inr ⟨after, state⟩⟩
  | givesUp _ ends after state => exact .inr ⟨_, ends, .inr ⟨after, state⟩⟩
  | hasClosed before =>
    rw [before] at live
    cases live

end Carrier

namespace Stream

variable {settings : RelaySettings} {s s' : Stream} {happening : Happening}
  {events : List Event} {actions did : List Action} {log : List (Happening × List Action)}

/-! ## Runs -/

/-- What happens to a stream happens to its carrier. -/
theorem carrier_of_step? (h : s.step? settings happening = some (s', actions)) :
    s.carrier.step? settings happening = some (s'.carrier, actions) := by
  obtain ⟨-, stepped⟩ := Option.ite_none_right_eq_some.mp h
  obtain ⟨⟨c', did⟩, moved, same⟩ := Option.map_eq_some_iff.mp stepped
  cases same
  rw [foldl_apply_frame]
  exact moved

theorem turn_of_step? (h : s.step? settings happening = some (s', actions)) :
    s.carrier.Turn settings happening s'.carrier actions :=
  Carrier.turn_of_step? (carrier_of_step? h)

/-- An event is a step of the carrier, or leaves it in its phase and its state. -/
theorem next?_turn {event : Event} {entry : Option (Happening × List Action)}
    (h : s.next? settings event = some (s', entry)) :
    (∃ happening actions, event = .happens happening ∧ entry = some (happening, actions) ∧
        s.step? settings happening = some (s', actions)) ∨
      entry = none ∧ s'.carrier.phase = s.carrier.phase ∧ s'.carrier.state = s.carrier.state := by
  cases event with
  | happens happening =>
    obtain ⟨⟨_, actions⟩, moved, same⟩ := Option.map_eq_some_iff.mp h
    cases same
    exact .inl ⟨happening, actions, rfl, rfl, moved⟩
  | reads size =>
    simp only [next?] at h
    split at h
    · obtain ⟨⟨result, _⟩, taken, same⟩ := Option.map_eq_some_iff.mp h
      cases same
      rw [takeChunk?_frame taken]
      exact .inr ⟨rfl, rfl, rfl⟩
    · cases h
  | uses how =>
    cases h
    have spared := use_spares s how
    exact .inr ⟨rfl, spared.phase, spared.state⟩

/-- What every run preserves. -/
theorem lived_of_run? (run : s.run? settings events = some (s', log))
    (before : s.carrier.Lived did) : s'.carrier.Lived (did ++ log.flatMap Prod.snd) := by
  induction events generalizing s did log with
  | nil =>
    cases run
    simpa using before
  | cons event events ih =>
    obtain ⟨next, entry, rest, stepped, further, rfl⟩ := run?_cons.mp run
    rcases next?_turn stepped with ⟨happening, actions, -, rfl, moved⟩ | ⟨rfl, phase, state⟩
    · have after := ih further (before.turn (turn_of_step? moved))
      rwa [List.append_assoc] at after
    · exact ih further (before.congr phase state)

/-- A last state stays settled. -/
theorem settled_of_run? {last : StreamState} (run : s.run? settings events = some (s', log))
    (before : s.carrier.Settled last) : s'.carrier.Settled last := by
  induction events generalizing s log with
  | nil =>
    cases run
    exact before
  | cons event events ih =>
    obtain ⟨next, entry, rest, stepped, further, -⟩ := run?_cons.mp run
    refine ih further ?_
    rcases next?_turn stepped with ⟨happening, actions, -, -, moved⟩ | ⟨-, phase, state⟩
    · exact before.turn (turn_of_step? moved)
    · rwa [Carrier.Settled, phase, state]

/-! ## The moment of the end -/

/-- A run ends the stream with a result: at one of its events the carrier stops serving it,
    because of something that ends it with that result. -/
def EndsWith (settings : RelaySettings) (s : Stream) (events : List Event)
    (result : Option RelayError) : Prop :=
  ∃ before happening after t log t' actions,
    events = before ++ .happens happening :: after ∧
      s.run? settings before = some (t, log) ∧ t.carrier.phase.stage.isLive = true ∧
      t.carrier.Ends settings happening result ∧
      t.step? settings happening = some (t', actions) ∧ t'.carrier.phase.stage.isLive = false

/-- An event before makes no difference. -/
theorem EndsWith.cons {event : Event} {next : Stream} {entry : Option (Happening × List Action)}
    {result : Option RelayError} (stepped : s.next? settings event = some (next, entry))
    (h : next.EndsWith settings events result) : s.EndsWith settings (event :: events) result := by
  obtain ⟨before, happening, after, t, log, t', actions, rfl, run, ending⟩ := h
  exact ⟨event :: before, happening, after, t, entry.toList ++ log, t', actions, rfl,
    run?_cons.mpr ⟨next, entry, log, stepped, run, rfl⟩, ending⟩

/-- A run of a live stream leaves it live, or ends it and settles its last state. -/
theorem endsWith_of_run? (run : s.run? settings events = some (s', log))
    (live : s.carrier.phase.stage.isLive = true) :
    s'.carrier.phase.stage.isLive = true ∨
      ∃ result, s.EndsWith settings events result ∧ s'.carrier.Settled (.ofResult result) := by
  induction events generalizing s log with
  | nil =>
    cases run
    exact .inl live
  | cons event events ih =>
    obtain ⟨next, entry, rest, stepped, further, -⟩ := run?_cons.mp run
    -- as long as the stream is live, the end is still to come
    have later (living : next.carrier.phase.stage.isLive = true) :
        s'.carrier.phase.stage.isLive = true ∨
          ∃ result, s.EndsWith settings (event :: events) result ∧
            s'.carrier.Settled (.ofResult result) := by
      rcases ih further living with living | ⟨result, ends, settled⟩
      · exact .inl living
      · exact .inr ⟨result, ends.cons stepped, settled⟩
    rcases next?_turn stepped with ⟨happening, actions, rfl, rfl, moved⟩ | ⟨-, phase, -⟩
    · rcases (turn_of_step? moved).settles live with living | ⟨result, ends, settled⟩
      · exact later living
      · exact .inr ⟨result, ⟨[], happening, events, s, [], next, actions, rfl, rfl, live, ends,
          moved, settled.isLive⟩, settled_of_run? further settled⟩
    · exact later (phase ▸ live)

theorem run?_append {before after : List Event} :
    s.run? settings (before ++ after) = some (s', log) ↔
      ∃ t first rest, s.run? settings before = some (t, first) ∧
        t.run? settings after = some (s', rest) ∧ log = first ++ rest := by
  induction before generalizing s log with
  | nil =>
    constructor
    · intro run
      exact ⟨s, [], log, rfl, run, rfl⟩
    · rintro ⟨t, first, rest, same, run, rfl⟩
      cases same
      exact run
  | cons event before ih =>
    rw [List.cons_append, run?_cons]
    constructor
    · rintro ⟨next, entry, further, stepped, run, rfl⟩
      obtain ⟨t, first, rest, front, back, rfl⟩ := ih.mp run
      have joined := run?_cons.mpr ⟨next, entry, first, stepped, front, rfl⟩
      exact ⟨t, entry.toList ++ first, rest, joined, back, by rw [List.append_assoc]⟩
    · rintro ⟨t, _, rest, front, back, rfl⟩
      obtain ⟨next, entry, first, stepped, run, rfl⟩ := run?_cons.mp front
      exact ⟨next, entry, first ++ rest, stepped, ih.mpr ⟨t, first, rest, run, back, rfl⟩,
        by rw [List.append_assoc]⟩

/-- A stream is live at no moment after its end. -/
theorem isLive_of_run? {t t' : Stream} (stepped : s.step? settings happening = some (t, actions))
    (live : s.carrier.phase.stage.isLive = true) (gone : t.carrier.phase.stage.isLive = false)
    (run : t.run? settings events = some (t', log)) : t'.carrier.phase.stage.isLive = false := by
  rcases (turn_of_step? stepped).settles live with living | ⟨result, -, settled⟩
  · rw [gone] at living
    cases living
  · exact (settled_of_run? run settled).isLive

/-- So it is not live after a longer run either. -/
theorem isLive_of_run?_past {before mid : List Event} {t t' u : Stream}
    {first : List (Happening × List Action)}
    (run : s.run? settings before = some (t, first))
    (stepped : t.step? settings happening = some (t', actions))
    (live : t.carrier.phase.stage.isLive = true) (gone : t'.carrier.phase.stage.isLive = false)
    (further : s.run? settings (before ++ .happens happening :: mid) = some (u, log)) :
    u.carrier.phase.stage.isLive = false := by
  obtain ⟨w, start, rest, front, back, -⟩ := run?_append.mp further
  cases run.symm.trans front
  obtain ⟨next, entry, rest, moved, later, -⟩ := run?_cons.mp back
  simp only [next?, stepped, Option.map_some, Option.some.injEq, Prod.mk.injEq] at moved
  obtain ⟨rfl, rfl⟩ := moved
  exact isLive_of_run? stepped live gone later

/-- A run ends the stream with one result. -/
theorem EndsWith.unique {result other : Option RelayError}
    (first : s.EndsWith settings events result) (second : s.EndsWith settings events other) :
    result = other := by
  obtain ⟨before, happening, after, t, log, t', actions, rfl, run, live, ends, stepped, gone⟩ :=
    first
  obtain ⟨before₂, happening₂, after₂, u, log₂, u', actions₂, same, run₂, live₂, ends₂, stepped₂,
    gone₂⟩ := second
  -- of two such moments neither comes before the other
  rcases List.append_eq_append_iff.mp same with ⟨mid, rfl, rest⟩ | ⟨mid, rfl, rest⟩
  · cases mid with
    | nil =>
      rw [List.append_nil, run] at run₂
      cases run₂
      cases rest
      exact ends.unique ends₂
    | cons event mid =>
      cases rest
      cases (isLive_of_run?_past run stepped live gone run₂).symm.trans live₂
  · cases mid with
    | nil =>
      rw [List.append_nil, run₂] at run
      cases run
      cases rest
      exact ends.unique ends₂
    | cons event mid =>
      cases rest
      cases (isLive_of_run?_past run₂ stepped₂ live₂ gone₂ run).symm.trans live

/-! ## The halves -/

/-- The stream is closed from this side only between two writes: both are up to the one task
    that has the writer. -/
def OneAtATime (settings : RelaySettings) : Stream → List Event → Prop
  | _, [] => True
  | s, event :: events =>
    (event = .uses .closeLocally → s.writing = none) ∧
      ∀ next entry, s.next? settings event = some (next, entry) → next.OneAtATime settings events

/-- Nothing of a write has been handed over that is under way on a stream closed from this
    side. -/
def Unhurried (s : Stream) : Prop :=
  s.closedLocally = true → ∀ writing ∈ s.writing, ∃ rest, writing = .next rest

theorem foldl_apply_writing (s : Stream) (actions : List Action) :
    (actions.foldl apply s).writing = s.writing.map (actions.foldl writingAfter) := by
  induction actions generalizing s with
  | nil => simp
  | cons action actions ih =>
    have first : (s.apply action).writing = s.writing.map (writingAfter · action) := by
      cases action <;> rfl
    rw [List.foldl_cons, ih, first, Option.map_map]
    rfl

/-- A piece that has not been handed over stays where it is. -/
theorem foldl_writingAfter_next (rest : Bytes) (actions : List Action) :
    actions.foldl writingAfter (.next rest) = .next rest := by
  induction actions with
  | nil => rfl
  | cons action actions ih =>
    rw [List.foldl_cons]
    cases action <;> exact ih

namespace Unhurried

theorem start (sid : String) : (Stream.start sid).Unhurried := fun closed => by cases closed

theorem step (h : s.Unhurried) (stepped : s.step? settings happening = some (s', actions)) :
    s'.Unhurried := by
  intro closed writing under
  obtain ⟨-, moved⟩ := Option.ite_none_right_eq_some.mp stepped
  obtain ⟨⟨c', did⟩, -, same⟩ := Option.map_eq_some_iff.mp moved
  cases same
  rw [foldl_apply_writing] at under
  obtain ⟨first, before, rfl⟩ := Option.map_eq_some_iff.mp under
  rw [foldl_apply_frame] at closed
  obtain ⟨rest, rfl⟩ := h closed first before
  exact ⟨rest, foldl_writingAfter_next rest actions⟩

theorem goOnWriting (h : s.Unhurried) : s.goOnWriting.1.Unhurried := by
  intro closed writing under
  have shut : s.closedLocally = true := by
    rw [goOnWriting_frame] at closed
    exact closed
  -- a write that is under way finds the stream closed
  cases way : s.writing with
  | none =>
    simp only [Stream.goOnWriting, way] at under
    cases under
  | some first =>
    obtain ⟨rest, rfl⟩ := h shut first way
    simp only [Stream.goOnWriting, way, shut, if_true] at under
    split at under <;> cases under

theorem use {how : Use} (h : s.Unhurried) (idle : how = .closeLocally → s.writing = none) :
    (s.use how).Unhurried := by
  cases how with
  | beginWrite buffer =>
    intro _ writing under
    cases under
    exact ⟨buffer, rfl⟩
  | goOnWriting => exact h.goOnWriting
  | abortWrite =>
    intro _ writing under
    cases under
  | closeLocally =>
    intro _ writing under
    have none : (s.use .closeLocally).writing = none := idle rfl
    rw [none] at under
    cases under
  | dropReader =>
    simp only [Stream.use, dropReader]
    split
    · exact h
    · exact h
  | dropWriter =>
    intro _ writing under
    have none : (s.use .dropWriter).writing = none := by
      simp only [Stream.use, dropWriter]
      split <;> rfl
    rw [none] at under
    cases under
  | cancel => exact h

theorem run (h : s.Unhurried) (run : s.run? settings events = some (s', log))
    (turns : s.OneAtATime settings events) : s'.Unhurried := by
  induction events generalizing s log with
  | nil =>
    cases run
    exact h
  | cons event events ih =>
    obtain ⟨next, entry, rest, stepped, further, -⟩ := run?_cons.mp run
    obtain ⟨idle, others⟩ := turns
    refine ih ?_ further (others next entry stepped)
    cases event with
    | happens happening =>
      obtain ⟨⟨_, actions⟩, moved, same⟩ := Option.map_eq_some_iff.mp stepped
      cases same
      exact h.step moved
    | reads size =>
      simp only [next?] at stepped
      split at stepped
      · obtain ⟨⟨result, _⟩, taken, same⟩ := Option.map_eq_some_iff.mp stepped
        cases same
        rw [takeChunk?_frame taken]
        exact h
      · cases stepped
    | uses how =>
      cases stepped
      exact h.use fun same => idle (congrArg Event.uses same)

end Unhurried

/-- The answer of a write of which a piece was refused comes from a terminal state. -/
theorem answerRefused_error {error : RelayError} (opened : s.closedLocally = false)
    (answer : s.answerRefused.2 = some (.error error)) :
    s.carrier.state = .failed error ∨ s.carrier.state = .closed ∧ error = .streamClosed := by
  cases state : s.carrier.state with
  | connected | reconnecting => simp [answerRefused, writeError?, opened, state] at answer
  | closed =>
    simp only [answerRefused, writeError?, opened, state] at answer
    cases answer
    exact .inr ⟨rfl, rfl⟩
  | failed known =>
    simp only [answerRefused, writeError?, opened, state] at answer
    cases answer
    exact .inl rfl

/-- A write fails before the stream has ended only on a stream closed from this side, and then
    with a piece that has not been handed over. -/
theorem Unhurried.error {error : RelayError} (h : s.Unhurried)
    (answer : s.goOnWriting.2 = some (.error error)) :
    (s.carrier.state = .failed error ∨ s.carrier.state = .closed ∧ error = .streamClosed) ∨
      s.closedLocally = true ∧ error = .streamClosed ∧ ∃ rest, s.writing = some (.next rest) := by
  cases way : s.writing with
  | none => simp [Stream.goOnWriting, way] at answer
  | some writing =>
    cases closed : s.closedLocally with
    | true =>
      obtain ⟨rest, rfl⟩ := h closed writing way
      simp only [Stream.goOnWriting, way, closed, if_true] at answer
      split at answer <;> cases answer
      exact .inr ⟨rfl, rfl, rest, rfl⟩
    | false =>
      refine .inl (answerRefused_error closed ?_)
      cases writing with
      | next rest =>
        simp only [Stream.goOnWriting, way, closed, Bool.false_eq_true, if_false] at answer
        repeat' split at answer
        all_goals first | exact answer | cases answer
      | queueing payload rest => simp [Stream.goOnWriting, way] at answer
      | awaiting number rest => simp [Stream.goOnWriting, way] at answer
      | refused => simpa only [Stream.goOnWriting, way] using answer

/-! ## The life cycle -/

/-- What a stream has been through at the end of a run, where `did` is all that its carrier has
    done. -/
structure LifeCycle (settings : RelaySettings) (sid : String) (events : List Event) (s : Stream)
    (did : List Action) : Prop where
  /-- It was connected, lost its connection and regained it any number of times, perhaps lost
      it once more, and perhaps ended. -/
  course : ∃ rounds lost last, states did = RelayTunnel.course rounds lost last ∧
    ∀ state ∈ last, state.isTerminal = true
  /-- The halves see the state that was published last. -/
  current : (states did).getLast? = some s.carrier.state
  /-- What is counted is how often the connection was regained. -/
  counted (traffic : Traffic) :
    (traffic.recordAll (did.filterMap Action.entry?)).reconnects =
      traffic.reconnects + UInt64.ofNat (recoveries (states did))
  /-- A terminal state tells how the stream ended: it is `closed` after an orderly end and after
      one because the stream is closed, and otherwise `failed` with the error of the end. -/
  ending : ∀ last ∈ states did, last.isTerminal = true →
    ∃ result, (start sid).EndsWith settings events result ∧
      (∀ other, (start sid).EndsWith settings events other → other = result) ∧
      (last = .closed ↔ result = none ∨ result = some .streamClosed) ∧
      ∀ error, last = .failed error ↔ result = some error ∧ error ≠ .streamClosed
  /-- Before its queues end, the terminal state is there. -/
  stopped : s.isStopped = true →
    s.carrier.state.isTerminal = true ∧
      ∃ front, signals did = front ++ [.publish s.carrier.state, .stop] ∧ .stop ∉ front
  running : s.isStopped = false → .stop ∉ did
  /-- A reader that comes to the end of its queue finds the terminal state. -/
  reader : ∀ result s', s.takeChunk? = some (result, s') →
    (∃ payload, result = .data payload) ∨
      s.carrier.state.isTerminal = true ∧
        (s.closedLocally = true ∧ result = .failed .streamClosed ∨
          s.closedLocally = false ∧
            (s.carrier.state = .closed ∧ result = .endOfFile ∨
              ∃ error, s.carrier.state = .failed error ∧ result = .failed error))
  /-- A write that fails does so in a terminal state and with its error, unless nothing of it
      waits for the carrier and the stream was closed from this side. -/
  writer : (start sid).OneAtATime settings events →
    ∀ error, s.goOnWriting.2 = some (.error error) →
      (s.carrier.state = .failed error ∨ s.carrier.state = .closed ∧ error = .streamClosed) ∨
        s.closedLocally = true ∧ error = .streamClosed ∧ ∃ rest, s.writing = some (.next rest)

theorem isStopped_iff : s.isStopped = true ↔ s.carrier.phase.stage = .ended := by
  cases phase : s.carrier.phase with
  | sending errand => cases errand <;> simp [isStopped, Phase.stage, phase]
  | _ => simp [isStopped, Phase.stage, phase]

/-- What a reader finds in a terminal state. -/
theorem endOfStream_of_isTerminal (terminal : s.carrier.state.isTerminal = true) :
    s.closedLocally = true ∧ s.endOfStream = .failed .streamClosed ∨
      s.closedLocally = false ∧
        (s.carrier.state = .closed ∧ s.endOfStream = .endOfFile ∨
          ∃ error, s.carrier.state = .failed error ∧ s.endOfStream = .failed error) := by
  cases closed : s.closedLocally with
  | true => exact .inl ⟨rfl, by simp [endOfStream, closed]⟩
  | false =>
    cases state : s.carrier.state with
    | connected | reconnecting =>
      rw [state] at terminal
      cases terminal
    | closed => exact .inr ⟨rfl, .inl ⟨rfl, by simp [endOfStream, closed, state]⟩⟩
    | failed error => exact .inr ⟨rfl, .inr ⟨error, rfl, by simp [endOfStream, closed, state]⟩⟩

/-- A read that finds no data finds the stream stopped. -/
theorem isStopped_of_takeChunk? {result : ReadResult} (taken : s.takeChunk? = some (result, s'))
    (nothing : ∀ payload, result ≠ .data payload) : s.isStopped = true := by
  unfold takeChunk? at taken
  split at taken
  · cases taken
    exact absurd rfl (nothing _)
  · split at taken
    · assumption
    · cases taken

/-- Whatever the relay, the connections and the halves do and in whatever order, every stream
    has this life cycle. -/
theorem life_cycle (settings : RelaySettings) (sid : String) (events : List Event)
    (run : (start sid).run? settings events = some (s, log)) :
    s.LifeCycle settings sid events (log.flatMap Prod.snd) := by
  have lived : s.carrier.Lived (log.flatMap Prod.snd) :=
    lived_of_run? run (Carrier.Lived.start sid)
  obtain ⟨rounds, lost, last, same, terminal, counted, state⟩ := lived.course
  have settled (ended : s.carrier.state.isTerminal = true) :
      ∃ result, (start sid).EndsWith settings events result ∧
        s.carrier.state = .ofResult result := by
    rcases endsWith_of_run? run rfl with live | ⟨result, ends, closes | ⟨-, state⟩⟩
    · rw [lived.running_of_isLive live] at ended
      cases ended
    · have poised := lived.poised
      rw [Carrier.Poised, closes] at poised
      rw [poised.1] at ended
      cases ended
    · exact ⟨result, ends, state⟩
  have stopped_terminal (stopped : s.isStopped = true) : s.carrier.state.isTerminal = true := by
    have poised := lived.poised
    rwa [Carrier.Poised, isStopped_iff.mp stopped] at poised
  refine
    { course := ⟨rounds, lost, last, same, terminal⟩
      current := ?_
      counted := ?_
      ending := ?_
      stopped := ?_
      running := ?_
      reader := ?_
      writer := ?_ }
  · rw [same, getLast?_course, state]
  · intro traffic
    rw [reconnects_recordAll, same, recoveries_course terminal, counted]
  · intro final member ended
    rw [same] at member
    have isLast : last = some final := eq_last_of_mem_course member ended
    have isState : s.carrier.state = final := by rw [state, isLast]; rfl
    obtain ⟨result, ends, known⟩ := settled (isState ▸ ended)
    refine ⟨result, ends, fun other others => others.unique ends, ?_, fun error => ?_⟩
    · rw [← isState, known]
      exact StreamState.ofResult_eq_closed
    · rw [← isState, known]
      exact StreamState.ofResult_eq_failed
  · intro stopped
    exact ⟨stopped_terminal stopped, lived.stopped (isStopped_iff.mp stopped)⟩
  · intro running
    refine lived.running fun ended => ?_
    rw [isStopped_iff.mpr ended] at running
    cases running
  · intro result s' taken
    by_cases data : ∃ payload, result = .data payload
    · exact .inl data
    · have nothing : ∀ payload, result ≠ .data payload := fun payload same => data ⟨payload, same⟩
      have found := (takeChunk?_end taken nothing).2
      have terminal := stopped_terminal (isStopped_of_takeChunk? taken nothing)
      rw [found]
      exact .inr ⟨terminal, endOfStream_of_isTerminal terminal⟩
  · intro turns error answer
    exact ((Unhurried.start sid).run run turns).error answer

/-- A connection is lost and regained, and the stream is told to end when it is lost again. -/
theorem life_cycle_told_while_resuming :
    let events : List Event :=
      [.happens (.arrival .ended), .happens (.resumed 0), .happens (.arrival .ended),
        .uses .cancel, .happens .notice, .happens .closeOver]
    ∃ s log, (start "s").run? {} events = some (s, log) ∧
      s.takeChunk?.map Prod.fst = some .endOfFile ∧
      states (log.flatMap Prod.snd) =
        [.connected, .reconnecting, .connected, .reconnecting, .closed] ∧
      s.LifeCycle {} "s" events (log.flatMap Prod.snd) := by
  intro events
  have ran : ((start "s").run? {} events).any (fun r =>
      r.1.takeChunk?.map Prod.fst = some .endOfFile ∧
        states (r.2.flatMap Prod.snd) =
          [.connected, .reconnecting, .connected, .reconnecting, .closed]) = true := by
    decide +kernel
  obtain ⟨⟨s, log⟩, run, found⟩ := (Option.any_eq_true ..).mp ran
  obtain ⟨read, through⟩ := of_decide_eq_true found
  exact ⟨s, log, run, read, through, life_cycle {} "s" events run⟩

end Stream

end RelayTunnel
