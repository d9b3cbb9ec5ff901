import RelayTunnel.Proofs.LifeCycle

/-!
# What a stream answers after its end

After its end nothing happens to a stream any more but what its halves do. A read finds what
was still queued, piece by piece, and behind it how the stream has ended; a write fails
(`StreamState.lastRead`, `StreamState.refusal`). A stream that was closed from this side
answers everything by saying so.

A write that waited for the carrier when the stream ended was not taken, so it fails like the
ones after it.
-/

namespace RelayTunnel

/-- What a read finds behind the last data of a stream that has ended in this state. -/
def StreamState.lastRead : StreamState → ReadResult
  | failed error => .failed error
  | closed | connected | reconnecting => .endOfFile

/-- The error of a write to a stream that has ended in this state. -/
def StreamState.refusal : StreamState → RelayError
  | failed error => error
  | closed | connected | reconnecting => .streamClosed

/-! ## What the carrier does at the end -/

theorem Action.deliveries_eq_nil {actions : List Action}
    (aside : ∀ action ∈ actions, action.isAside = true) : actions.filterMap delivery? = [] :=
  List.filterMap_eq_nil_iff.mpr fun action member => delivery?_eq_none (aside action member)

namespace Carrier

variable {settings : RelaySettings} {c c' : Carrier} {happening : Happening}
  {actions : List Action} {number : Nat}

/-- No empty piece is held or handed over. -/
theorem Step.filled (step : c.Step settings happening c' actions)
    (filled : ∀ payload ∈ c.pending, payload ≠ []) :
    (∀ payload ∈ c'.pending, payload ≠ []) ∧
      ∀ payload ∈ actions.filterMap Action.delivery?, payload ≠ [] := by
  have kept (pending : c'.pending = c.pending) (none : actions.filterMap Action.delivery? = []) :
      (∀ payload ∈ c'.pending, payload ≠ []) ∧
        ∀ payload ∈ actions.filterMap Action.delivery?, payload ≠ [] := by
    rw [pending, none]
    exact ⟨filled, by simp⟩
  cases step with
  | told | writesOver | skipped | acknowledged | took | wrote | hasReported | resent
  | resumed => exact kept (by simp) rfl
  | received opened free means nonempty =>
    exact ⟨by simpa using nonempty, by simp [Action.delivery?]⟩
  | @handed payload reader opened held | @reported payload reader opened held =>
    have nonempty := filled payload held
    refine ⟨by simp, ?_⟩
    cases reader <;> simp [Action.hand, Action.delivery?, nonempty]
  | recovered | resumedWhole =>
    refine kept (by simp) ?_
    rw [List.filterMap_cons_none rfl, Action.deliveries_eq_nil (recovered_aside _)]
  | breached opened free means refused leaves | turnedAway attempts refused leaves
  | unsendable attempts taken leaves =>
    refine kept leaves.pending ?_
    rw [List.filterMap_cons_none rfl, Action.deliveries_eq_nil leaves.aside]
  | left otherwise leaves => exact kept leaves.pending (Action.deliveries_eq_nil leaves.aside)

/-- A carrier that ends stops its queues. -/
theorem Turn.stop_mem (turn : c.Turn settings happening c' actions)
    (before : c.phase.stage ≠ .ended) (after : c'.phase.stage = .ended) : .stop ∈ actions := by
  rw [← mem_signals rfl]
  cases turn with
  | stays stage => exact absurd (stage ▸ after) before
  | lost _ _ recovering => cases after.symm.trans recovering
  | recovered _ established => cases after.symm.trans established
  | parts _ _ closing => cases after.symm.trans closing
  | stops _ _ _ _ tells | givesUp _ _ _ _ tells | hasClosed _ _ _ tells => simp [tells]

/-- A carrier that takes a write waits for what comes next. -/
theorem Step.waiting_of_accept (step : c.Step settings happening c' actions)
    (taken : .accept number ∈ actions) : c'.phase = .waiting := by
  cases step with
  | wrote => rfl
  | recovered | resumedWhole => exact recovered_phase _
  | breached opened free means refused leaves | turnedAway attempts refused leaves
  | unsendable attempts acknowledged leaves =>
    exact absurd (List.mem_of_ne_of_mem (by simp) taken) (leaves.untaken number)
  | left other leaves => exact absurd taken (leaves.untaken number)
  | handed opened => exact phase_of_isOpen opened
  | @reported payload reader => cases reader <;> simp [Action.hand] at taken
  | told | writesOver | skipped | received | acknowledged | took | hasReported | resent
  | resumed => simp at taken

end Carrier

namespace Stream

variable {settings : RelaySettings} {s s' t : Stream} {happening : Happening}
  {events : List Event} {actions : List Action} {log : List (Happening × List Action)}

/-! ## Before the end -/

/-- No empty piece is on its way to the reader. -/
structure Filled (s : Stream) : Prop where
  pending : ∀ payload ∈ s.carrier.pending, payload ≠ []
  inbound : ∀ payload ∈ s.inbound, payload ≠ []

theorem Filled.start (sid : String) : (Stream.start sid).Filled where
  pending payload held := by cases held
  inbound payload queued := by cases queued

theorem Filled.next? {event : Event} {entry : Option (Happening × List Action)} (h : s.Filled)
    (stepped : s.next? settings event = some (s', entry)) : s'.Filled := by
  cases event with
  | happens happening =>
    obtain ⟨actions, -, moved⟩ := step?_of_next? stepped
    have moves := moves_of_step? moved
    obtain ⟨held, handed⟩ := moves.carrier.filled h.pending
    refine ⟨held, ?_⟩
    rw [moves.inbound]
    exact List.forall_mem_append.mpr ⟨h.inbound, handed⟩
  | reads size =>
    obtain ⟨-, -, result, taken⟩ := takeChunk?_of_next? stepped
    refine ⟨(takeChunk?_spec taken).1 ▸ h.pending, fun payload queued => ?_⟩
    unfold takeChunk? at taken
    split at taken
    · rename_i first rest found
      cases taken
      have kept : payload ∈ s.inbound.dropWhile List.isEmpty := by
        rw [found]
        exact List.mem_cons_of_mem _ queued
      exact h.inbound payload ((List.dropWhile_sublist _).subset kept)
    · split at taken <;> cases taken
      cases queued
  | uses how =>
    cases stepped
    have spared := s.use_spares how
    refine ⟨spared.pending ▸ h.pending, ?_⟩
    cases how with
    | dropReader =>
      have gone : (s.use .dropReader).inbound = [] := by
        simp only [use, dropReader]
        split <;> rfl
      simp [gone]
    | dropWriter =>
      have kept : (s.use .dropWriter).inbound = s.inbound := by
        simp only [use, dropWriter]
        split <;> rfl
      rw [kept]
      exact h.inbound
    | goOnWriting =>
      rw [use, goOnWriting_frame]
      exact h.inbound
    | beginWrite | abortWrite | closeLocally | cancel => exact h.inbound

theorem Filled.run (h : s.Filled) (run : s.run? settings events = some (s', log)) :
    s'.Filled := by
  induction events generalizing s log with
  | nil =>
    cases run
    exact h
  | cons event events ih =>
    obtain ⟨next, entry, rest, stepped, further, -⟩ := run?_cons.mp run
    exact ih (h.next? stepped) further

/-- In a terminal state a stream has stopped. -/
theorem isStopped_of_isTerminal {sid : String}
    (run : (start sid).run? settings events = some (s, log))
    (ended : s.carrier.state.isTerminal = true) : s.isStopped = true :=
  isStopped_iff.mpr
    ((lived_of_run? run (Carrier.Lived.start sid)).ended_of_isTerminal ended)

/-- The stream has been closed from this side if something in its run has done so. -/
theorem closedLocally_of_run? (run : s.run? settings events = some (s', log)) :
    s'.closedLocally = true ↔ s.closedLocally = true ∨ .uses .closeLocally ∈ events := by
  induction events generalizing s log with
  | nil =>
    cases run
    simp
  | cons event events ih =>
    obtain ⟨next, entry, rest, stepped, further, -⟩ := run?_cons.mp run
    have one : next.closedLocally = true ↔
        s.closedLocally = true ∨ event = .uses .closeLocally := by
      cases event with
      | happens happening =>
        obtain ⟨actions, -, moved⟩ := step?_of_next? stepped
        simp [(moves_of_step? moved).closedLocally]
      | reads size =>
        obtain ⟨-, -, result, taken⟩ := takeChunk?_of_next? stepped
        rw [takeChunk?_frame taken]
        simp
      | uses how =>
        cases stepped
        cases how with
        | closeLocally => simp [use, closeLocally, cancel]
        | goOnWriting =>
          rw [use, goOnWriting_frame]
          simp
        | beginWrite | abortWrite | cancel => simp [use, beginWrite, abortWrite, cancel]
        | dropReader | dropWriter =>
          simp only [use, dropReader, dropWriter, cancel]
          split <;> simp
    rw [ih further, one, List.mem_cons, or_assoc, eq_comm (a := event)]

/-! ## The write at the end -/

/-- Whether the writer waits for the carrier. -/
def isWaiting (s : Stream) : Bool :=
  match s.writing with
  | none | some (.next _) => false
  | some (.queueing _ _) | some (.awaiting _ _) | some .refused => true

/-- A write that waits goes on waiting, unless it is taken, and is refused for good when the
    queues stop. -/
theorem writingAfter_of_waiting {writing : Writing} {action : Action}
    (waits : ∀ rest, writing ≠ .next rest) (untaken : ∀ number, action ≠ .accept number) :
    (∀ rest, writingAfter writing action ≠ .next rest) ∧
      (writing = .refused ∨ action = .stop → writingAfter writing action = .refused) := by
  cases writing with
  | next rest => exact absurd rfl (waits rest)
  | queueing payload rest => cases action <;> simp [writingAfter]
  | refused => cases action <;> simp [writingAfter]
  | awaiting number rest =>
    cases action with
    | accept taken => exact absurd rfl (untaken taken)
    | refuse lost =>
      simp only [writingAfter]
      split <;> simp
    | _ => simp [writingAfter]

/-- So a stop among several actions refuses it. -/
theorem foldl_writingAfter_stop {writing : Writing} (waits : ∀ rest, writing ≠ .next rest)
    (untaken : ∀ number, .accept number ∉ actions)
    (refuses : writing = .refused ∨ .stop ∈ actions) :
    actions.foldl writingAfter writing = .refused := by
  induction actions generalizing writing with
  | nil => simpa using refuses
  | cons action actions ih =>
    have here : ∀ number, action ≠ .accept number := fun number same =>
      untaken number (same ▸ List.mem_cons_self ..)
    obtain ⟨still, refused⟩ := writingAfter_of_waiting waits here
    refine ih still (fun number member => untaken number (List.mem_cons_of_mem _ member)) ?_
    rcases refuses with before | member
    · exact .inl (refused (.inl before))
    · rcases List.mem_cons.mp member with now | further
      · exact .inl (refused (.inr now.symm))
      · exact .inr further

/-- A write that waits when the stream stops is refused. -/
theorem refused_of_step? (waits : s.isWaiting = true) (before : s.isStopped = false)
    (stepped : s.step? settings happening = some (s', actions)) (after : s'.isStopped = true) :
    s'.writing = some .refused := by
  have moved := carrier_of_step? stepped
  have ended := isStopped_iff.mp after
  have running : s.carrier.phase.stage ≠ .ended := fun ended => by
    rw [isStopped_iff.mpr ended] at before
    cases before
  have stops : .stop ∈ actions := (turn_of_step? stepped).stop_mem running ended
  -- a carrier that takes the write would not stop with it
  have untaken : ∀ number, .accept number ∉ actions := by
    intro number taken
    have waiting := (Carrier.step_of_step? moved).waiting_of_accept taken
    rw [waiting] at ended
    cases ended
  have written : s'.writing = s.writing.map (actions.foldl writingAfter) := by
    obtain ⟨-, stepped⟩ := Option.ite_none_right_eq_some.mp stepped
    obtain ⟨⟨c', did⟩, -, same⟩ := Option.map_eq_some_iff.mp stepped
    cases same
    exact foldl_apply_writing ..
  rw [written]
  unfold isWaiting at waits
  split at waits
  · cases waits
  · cases waits
  all_goals
    rename_i way
    rw [way, Option.map_some, foldl_writingAfter_stop (by simp) untaken (.inr stops)]

/-! ## After the end -/

/-- Whether an event is a read that finds something. -/
def Event.isRead : Event → Bool
  | .reads _ => true
  | .happens _ | .uses _ => false

/-- How many reads there are among some events. -/
def readsIn (events : List Event) : Nat := events.countP Event.isRead

/-- Whether a use of a stream is one of its writer, apart from closing the stream. -/
def Use.isWriting : Use → Bool
  | .beginWrite _ | .goOnWriting | .abortWrite | .dropWriter => true
  | .closeLocally | .dropReader | .cancel => false

/-- All that can happen to the carrier of a stream that has stopped is that it is told to end. -/
theorem step?_stopped (stopped : s.isStopped = true)
    (stepped : s.step? settings happening = some (s', actions)) : s' = s.cancel := by
  by_cases told : happening = .cancel
  · subst told
    cases stepped
    rfl
  · rw [step?_eq_none stopped told] at stepped
    cases stepped

/-- What is left of a stream that had stopped as `s`, some events later. -/
structure Remains (s : Stream) (events : List Event) (t : Stream) : Prop where
  phase : t.carrier.phase = s.carrier.phase
  state : t.carrier.state = s.carrier.state
  /-- Reads take what was queued, in order. -/
  inbound : .uses .dropReader ∉ events → t.inbound = s.inbound.drop (readsIn events)
  /-- A write is left alone by all but the writer. -/
  writing : (∀ how, .uses how ∈ events → how.isWriting = false) → t.writing = s.writing

namespace Remains

theorem next? {event : Event} {entry : Option (Happening × List Action)} (filled : s.Filled)
    (stopped : s.isStopped = true) (stepped : s.next? settings event = some (t, entry)) :
    s.Remains [event] t := by
  cases event with
  | happens happening =>
    obtain ⟨actions, -, moved⟩ := step?_of_next? stepped
    rw [step?_stopped stopped moved]
    exact ⟨rfl, rfl, fun _ => rfl, fun _ => rfl⟩
  | reads size =>
    obtain ⟨-, -, result, taken⟩ := takeChunk?_of_next? stepped
    have spared := takeChunk?_frame taken
    refine ⟨by rw [spared], by rw [spared], fun _ => ?_, fun _ => by rw [spared]⟩
    have one : readsIn [.reads size] = 1 := rfl
    rw [one]
    cases queued : s.inbound with
    | nil =>
      simp only [takeChunk?, queued, List.dropWhile_nil, stopped, if_true] at taken
      cases taken
      rfl
    | cons first rest =>
      have nonempty : first.isEmpty = false := by
        simpa using filled.inbound first (queued ▸ List.mem_cons_self ..)
      simp only [takeChunk?, queued, List.dropWhile_cons, nonempty, Bool.false_eq_true,
        if_false] at taken
      cases taken
      rfl
  | uses how =>
    cases stepped
    have spared := s.use_spares how
    refine ⟨spared.phase, spared.state, fun kept => ?_, fun quiet => ?_⟩
    · cases how with
      | dropReader => exact absurd (List.mem_singleton_self _) kept
      | dropWriter =>
        simp only [use, dropWriter]
        split <;> rfl
      | goOnWriting =>
        rw [use, goOnWriting_frame]
        rfl
      | beginWrite | abortWrite | closeLocally | cancel => rfl
    · have quiet := quiet how (List.mem_singleton_self _)
      cases how with
      | closeLocally | cancel => rfl
      | dropReader =>
        simp only [use, dropReader]
        split <;> rfl
      | beginWrite | goOnWriting | abortWrite | dropWriter => cases quiet

/-- One event after the other. -/
theorem cons {event : Event} (first : s.Remains [event] s') (rest : s'.Remains events t) :
    s.Remains (event :: events) t where
  phase := rest.phase.trans first.phase
  state := rest.state.trans first.state
  inbound kept := by
    have one := first.inbound fun member => kept (by simp_all)
    rw [rest.inbound fun member => kept (List.mem_cons_of_mem _ member), one, List.drop_drop,
      readsIn, readsIn, readsIn, ← List.countP_append]
    rfl
  writing quiet := by
    rw [rest.writing fun how member => quiet how (List.mem_cons_of_mem _ member),
      first.writing fun how member => quiet how (by simp_all)]

theorem run (filled : s.Filled) (stopped : s.isStopped = true)
    (run : s.run? settings events = some (t, log)) : s.Remains events t := by
  induction events generalizing s log with
  | nil =>
    cases run
    exact ⟨rfl, rfl, fun _ => rfl, fun _ => rfl⟩
  | cons event events ih =>
    obtain ⟨next, entry, rest, stepped, further, -⟩ := run?_cons.mp run
    have first := Remains.next? filled stopped stepped
    have stays : next.isStopped = true := by
      rw [isStopped, first.phase]
      exact stopped
    exact first.cons (ih (filled.next? stepped) stays further)

end Remains

/-! ## Answers -/

/-- What a read into a buffer of that size finds, `none` while it has to wait. -/
def read? (s : Stream) (size : Nat) : Option ReadResult :=
  match s.readRefusal? size with
  | some error => some (.failed error)
  | none => s.takeChunk?.map Prod.fst

/-- A stream that was closed from this side has nothing more to read. -/
theorem read?_closedLocally {size : Nat} (wide : minReadSize ≤ size)
    (closed : s.closedLocally = true) : s.read? size = some (.failed .streamClosed) := by
  simp [read?, readRefusal?, Nat.not_lt.mpr wide, closed]

/-- A read of a stopped stream finds what comes first in the queue, or how it has ended. -/
theorem read?_stopped {size : Nat} (wide : minReadSize ≤ size)
    (opened : s.closedLocally = false) (stopped : s.isStopped = true) (filled : s.Filled)
    (ended : s.carrier.state.isTerminal = true) :
    s.read? size = some ((s.inbound.head?.map .data).getD s.carrier.state.lastRead) := by
  have allowed : s.readRefusal? size = none := by
    simp [readRefusal?, Nat.not_lt.mpr wide, opened]
  simp only [read?, allowed]
  cases queued : s.inbound with
  | nil =>
    simp only [takeChunk?, queued, List.dropWhile_nil, stopped, if_true, Option.map_some,
      endOfStream, opened, Bool.false_eq_true, if_false, List.head?_nil, Option.map_none,
      Option.getD_none]
    cases state : s.carrier.state with
    | closed | failed => rfl
    | connected | reconnecting =>
      rw [state] at ended
      cases ended
  | cons first rest =>
    have nonempty : first.isEmpty = false := by
      simpa using filled.inbound first (queued ▸ List.mem_cons_self ..)
    simp [takeChunk?, queued, nonempty]

/-- A write that was refused fails once the stream is in a terminal state. -/
theorem answerRefused_of_isTerminal (ended : s.carrier.state.isTerminal = true) :
    s.answerRefused = ({ s with writing := none },
      some (.error (if s.closedLocally then .streamClosed else s.carrier.state.refusal))) := by
  have known : s.writeError? =
      some (if s.closedLocally then .streamClosed else s.carrier.state.refusal) := by
    unfold writeError?
    split
    · rfl
    · cases state : s.carrier.state with
      | closed | failed => rfl
      | connected | reconnecting =>
        rw [state] at ended
        cases ended
  simp only [answerRefused, known]

/-- A write to a stopped stream fails at once. -/
theorem write_stopped {buffer : Bytes} (nonempty : buffer ≠ []) (stopped : s.isStopped = true)
    (ended : s.carrier.state.isTerminal = true) :
    (s.beginWrite buffer).goOnWriting = ({ s with writing := none },
      some (.error (if s.closedLocally then .streamClosed else s.carrier.state.refusal))) := by
  have some : buffer.isEmpty = false := by simpa using nonempty
  have begun : (s.beginWrite buffer).isStopped = true := stopped
  cases closed : s.closedLocally with
  | true => simp [goOnWriting, beginWrite, some, closed]
  | false =>
    have refused := answerRefused_of_isTerminal (s := s.beginWrite buffer) ended
    simp only [beginWrite, closed] at begun refused
    simp [goOnWriting, beginWrite, some, closed, begun, refused]

/-- A write waited for the carrier when the stream stopped in a run, and the writer has left it
    alone since. -/
def LeftWaiting (settings : RelaySettings) (s : Stream) (events : List Event) : Prop :=
  ∃ before happening after u log u' actions,
    events = before ++ .happens happening :: after ∧
      s.run? settings before = some (u, log) ∧ u.isWaiting = true ∧ u.isStopped = false ∧
      u.step? settings happening = some (u', actions) ∧ u'.isStopped = true ∧
      ∀ how, .uses how ∈ after → how.isWriting = false

/-- Such a write is refused. -/
theorem LeftWaiting.refused {sid : String} (h : (start sid).LeftWaiting settings events)
    (run : (start sid).run? settings events = some (t, log)) : t.writing = some .refused := by
  obtain ⟨before, happening, after, u, first, u', actions, rfl, ran, waits, running, stepped,
    stopped, quiet⟩ := h
  obtain ⟨w, front, back, ran₂, further, -⟩ := run?_append.mp run
  cases ran.symm.trans ran₂
  obtain ⟨next, entry, rest, moved, later, -⟩ := run?_cons.mp further
  have filled : next.Filled := ((Filled.start sid).run ran).next? moved
  simp only [next?, stepped, Option.map_some, Option.some.injEq, Prod.mk.injEq] at moved
  obtain ⟨rfl, rfl⟩ := moved
  rw [(Remains.run filled stopped later).writing quiet]
  exact refused_of_step? waits running stepped stopped

/-- Once a stream is in a terminal state, and whatever is done with it then, reads find what was
    queued, piece by piece, and behind it how the stream has ended, and writes fail with its
    error; so does a write that waited when the stream stopped. When the stream was closed from
    this side, both find it closed. -/
theorem answers_after_end (settings : RelaySettings) (sid : String) (events more : List Event)
    {rest : List (Happening × List Action)}
    (run : (start sid).run? settings events = some (s, log))
    (ended : s.carrier.state.isTerminal = true)
    (further : s.run? settings more = some (t, rest)) :
    (.uses .dropReader ∉ more → ∀ size, minReadSize ≤ size →
      t.read? size = some
        (if .uses .closeLocally ∈ events ++ more then .failed .streamClosed
          else (s.inbound[readsIn more]?.map .data).getD s.carrier.state.lastRead)) ∧
    (∀ buffer, buffer ≠ [] →
      (t.beginWrite buffer).goOnWriting = ({ t with writing := none }, some (.error
        (if .uses .closeLocally ∈ events ++ more then .streamClosed
          else s.carrier.state.refusal)))) ∧
    ((start sid).LeftWaiting settings (events ++ more) →
      t.goOnWriting = ({ t with writing := none }, some (.error
        (if .uses .closeLocally ∈ events ++ more then .streamClosed
          else s.carrier.state.refusal)))) := by
  have whole := run?_append.mpr ⟨s, log, rest, run, further, rfl⟩
  have filled := (Filled.start sid).run run
  have stopped := isStopped_of_isTerminal run ended
  have remains := Remains.run filled stopped further
  have still : t.isStopped = true := by
    rw [isStopped, remains.phase]
    exact stopped
  have terminal : t.carrier.state.isTerminal = true := remains.state ▸ ended
  have closed : t.closedLocally = true ↔ .uses .closeLocally ∈ events ++ more := by
    rw [closedLocally_of_run? whole]
    simp [start]
  have refusal : (if t.closedLocally then .streamClosed else t.carrier.state.refusal) =
      if .uses .closeLocally ∈ events ++ more then .streamClosed
        else s.carrier.state.refusal := by
    rw [remains.state]
    simp only [closed]
  refine ⟨fun kept size wide => ?_, fun buffer nonempty => ?_, fun waited => ?_⟩
  · split
    · rename_i shut
      exact read?_closedLocally wide (closed.mpr shut)
    · rename_i opened
      have opened : t.closedLocally = false := Bool.eq_false_iff.mpr (mt closed.mp opened)
      rw [read?_stopped wide opened still (filled.run further) terminal, remains.inbound kept,
        remains.state, List.head?_drop]
  · rw [write_stopped nonempty still terminal, refusal]
  · have refused := waited.refused whole
    simp only [goOnWriting, refused]
    rw [answerRefused_of_isTerminal terminal, refusal]

/-- The relay acknowledges what was never sent while two pieces are queued and a write waits.
    After one read the second piece is still there, and both writes fail. -/
theorem answers_after_end_breach :
    let events : List Event :=
      [.happens (.arrival (.message [0, 4, 0, 0, 0, 1, 1])), .happens (.room true),
        .happens (.arrival (.message [0, 4, 0, 0, 0, 1, 2])), .happens (.room true),
        .uses (.beginWrite [3]), .uses .goOnWriting,
        .happens (.arrival (.message [0, 7, 0, 0, 0, 0, 0, 0, 0, 1])), .happens .closeOver]
    let breach : RelayError := .protocolViolation (.ackOutsideWindow 1 0 0)
    ∃ s log t, (start "s").run? {} events = some (s, log) ∧
      s.carrier.state.isTerminal = true ∧ s.run? {} [.reads 16384] = some (t, []) ∧
      t.read? 16384 = some (.data [2]) ∧
      (t.beginWrite [4]).goOnWriting.2 = some (.error breach) ∧
      t.goOnWriting.2 = some (.error breach) := by
  intro events breach
  have ran : ((start "s").run? {} events).any (fun r =>
      r.1.inbound = [[1], [2]] ∧ r.1.carrier.state = .failed breach ∧
        (r.1.run? {} [.reads 16384]).any (fun q => q.2 = [])) = true := by
    decide +kernel
  obtain ⟨⟨s, log⟩, run, found⟩ := (Option.any_eq_true ..).mp ran
  obtain ⟨queued, failed, read⟩ := of_decide_eq_true found
  obtain ⟨⟨t, rest⟩, further, quiet⟩ := (Option.any_eq_true ..).mp read
  obtain rfl : rest = [] := of_decide_eq_true quiet
  have ended : s.carrier.state.isTerminal = true := by rw [failed]; rfl
  have waited : (start "s").LeftWaiting {} (events ++ [.reads 16384]) := by
    have waits : ((start "s").run? {} (events.take 7)).any (fun r =>
        r.1.isWaiting = true ∧ r.1.isStopped = false ∧
          (r.1.step? {} .closeOver).any (fun q => q.1.isStopped = true)) = true := by
      decide +kernel
    obtain ⟨⟨u, first⟩, before, found⟩ := (Option.any_eq_true ..).mp waits
    obtain ⟨waits, running, step⟩ := of_decide_eq_true found
    obtain ⟨⟨u', actions⟩, stepped, stopped⟩ := (Option.any_eq_true ..).mp step
    exact ⟨events.take 7, .closeOver, [.reads 16384], u, first, u', actions, rfl, before, waits,
      running, stepped, of_decide_eq_true stopped, by simp⟩
  obtain ⟨reads, writes, waiting⟩ :=
    answers_after_end {} "s" events [.reads 16384] run ended further
  refine ⟨s, log, t, run, ended, further, ?_, ?_, ?_⟩
  · rw [reads (by simp) 16384 (by decide), queued]
    rfl
  · rw [writes [4] (by simp), failed]
    rfl
  · rw [waiting waited, failed]
    rfl

end Stream

end RelayTunnel
