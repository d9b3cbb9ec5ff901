import RelayTunnel.Proofs.Window

/-!
# What was sent completely

To hand a payload to a connection is not yet to have sent it: the sending may fail or stall, or
the stream may be told to end meanwhile. A `Dispatch` is a transcript that also tells which
payloads were sent to their end, at the first time or again, and where they lie in what was
written. A byte has got out if it belongs to one of them or was acknowledged by the relay.

Whenever a carrier waits, everything written so far has got out: what a connection lost is sent
again on the next one before anything else is.
-/

namespace RelayTunnel

/-- A transcript with the payloads that were sent completely. -/
structure Dispatch where
  transcript : Transcript := {}
  /-- The payload that is being sent, and its offset in what was written. -/
  underWay : Option (Nat × Bytes) := none
  /-- The payloads that were sent completely, and their offsets. -/
  completed : List (Nat × Bytes) := []
  deriving DecidableEq, Repr

namespace Dispatch

/-- Note what happens: being told to end does not yet interrupt the sending, and nothing but its
    success completes it. -/
def hear (d : Dispatch) (happening : Happening) : Dispatch where
  transcript := d.transcript.hear happening
  underWay := if happening = .cancel then d.underWay else none
  completed := if happening = .sent then d.completed ++ d.underWay.toList else d.completed

/-- Note something that the carrier does about a happening: data come behind all that the
    current connection carries so far. -/
def perform (happening : Happening) (d : Dispatch) (action : Action) : Dispatch where
  transcript := d.transcript.perform happening action
  underWay :=
    match action with
    | .send (.data payload) =>
      d.transcript.current.start.map fun start =>
        (start + d.transcript.current.carried.length, payload)
    | _ => d.underWay
  completed := d.completed

/-- Note what happens and then what the carrier does about it. -/
def follow (d : Dispatch) (entry : Happening × List Action) : Dispatch :=
  entry.2.foldl (perform entry.1) (d.hear entry.1)

/-- What can be noted of a run. -/
def ofLog (log : List (Happening × List Action)) : Dispatch := log.foldl follow {}

/-- A byte has got out if it is acknowledged or part of a payload that was sent completely. -/
def Reached (d : Dispatch) (offset : Nat) : Prop :=
  offset < d.transcript.acknowledged ∨
    ∃ part ∈ d.completed, part.1 ≤ offset ∧ offset < part.1 + part.2.length

/-- Everything in front of an offset has got out. -/
def ReachedTo (d : Dispatch) (bound : Nat) : Prop := ∀ offset < bound, d.Reached offset

variable {d : Dispatch} {happening : Happening} {action : Action} {actions : List Action}
  {c c' : Carrier} {settings : RelaySettings}

/-! ## Noting -/

theorem foldl_perform_transcript (d : Dispatch) (actions : List Action) :
    (actions.foldl (perform happening) d).transcript =
      actions.foldl (Transcript.perform happening) d.transcript := by
  induction actions generalizing d with
  | nil => rfl
  | cons action actions ih =>
    rw [List.foldl_cons, ih]
    rfl

@[simp] theorem follow_transcript (d : Dispatch) (entry : Happening × List Action) :
    (d.follow entry).transcript = d.transcript.follow entry :=
  foldl_perform_transcript (d.hear entry.1) entry.2

theorem foldl_perform_completed (d : Dispatch) (actions : List Action) :
    (actions.foldl (perform happening) d).completed = d.completed := by
  induction actions generalizing d with
  | nil => rfl
  | cons action actions ih =>
    rw [List.foldl_cons, ih]
    rfl

/-! ## What has got out does not come back -/

theorem Reached.hear {offset : Nat} (h : d.Reached offset) : (d.hear happening).Reached offset := by
  rcases h with acknowledged | ⟨part, member, within⟩
  · exact .inl (Nat.lt_of_lt_of_le acknowledged (Transcript.acknowledged_le_hear _))
  · refine .inr ⟨part, ?_, within⟩
    simp only [Dispatch.hear]
    split
    · exact List.mem_append_left _ member
    · exact member

theorem Reached.foldl_perform {offset : Nat} (h : d.Reached offset) (actions : List Action) :
    (actions.foldl (Dispatch.perform happening) d).Reached offset := by
  rcases h with acknowledged | ⟨part, member, within⟩
  · left
    rw [foldl_perform_transcript]
    exact Nat.lt_of_lt_of_le acknowledged (Transcript.acknowledged_le_foldl_perform _)
  · refine .inr ⟨part, ?_, within⟩
    rw [foldl_perform_completed]
    exact member

theorem Reached.follow {offset : Nat} (h : d.Reached offset) (entry : Happening × List Action) :
    (d.follow entry).Reached offset :=
  h.hear.foldl_perform entry.2

/-- Every payload noted lies in what was written where it is noted. -/
def IsGenuine (d : Dispatch) : Prop :=
  ∀ part ∈ d.completed ++ d.underWay.toList, part.2 <+: d.transcript.written.drop part.1

theorem IsGenuine.hear (h : d.IsGenuine) : (d.hear happening).IsGenuine := by
  intro part member
  have kept : part ∈ d.completed ++ d.underWay.toList := by
    simp only [Dispatch.hear] at member
    split at member <;> split at member <;> simp_all
  have same : (d.hear happening).transcript.written = d.transcript.written :=
    Transcript.hear_written d.transcript
  rw [same]
  exact h part kept

/-- Writing more does not move what is there. -/
theorem IsGenuine.perform (h : d.IsGenuine) (noData : ∀ payload, action ≠ .send (.data payload)) :
    (d.perform happening action).IsGenuine := by
  intro part member
  have kept : part ∈ d.completed ++ d.underWay.toList := by
    unfold Dispatch.perform at member
    split at member
    · rename_i payload
      exact absurd rfl (noData payload)
    · exact member
  have more : (d.perform happening action).transcript.written =
      d.transcript.written ++ action.recorded happening :=
    Transcript.perform_written d.transcript action
  rw [more, List.drop_append]
  exact (h part kept).trans (List.prefix_append ..)

theorem IsGenuine.foldl_perform (h : d.IsGenuine)
    (noData : ∀ payload, .send (.data payload) ∉ actions) :
    (actions.foldl (Dispatch.perform happening) d).IsGenuine := by
  induction actions generalizing d with
  | nil => exact h
  | cons action actions ih =>
    refine ih (h.perform fun payload same => noData payload (same ▸ List.mem_cons_self)) ?_
    exact fun payload member => noData payload (List.mem_cons_of_mem _ member)

/-! ## Sending a payload -/

/-- A payload is being sent, and then `unsent` is to be sent; everything in front of them has
    got out. -/
structure Sends (d : Dispatch) (payload unsent : Bytes) : Prop where
  rest : payload ++ unsent <:+ d.transcript.written
  underWay :
    d.underWay = some (d.transcript.written.length - (payload ++ unsent).length, payload)
  reached : d.ReachedTo (d.transcript.written.length - (payload ++ unsent).length)

/-- Once it is sent, only the rest has not got out. -/
theorem Sends.hear {payload unsent : Bytes} (h : d.Sends payload unsent) :
    (d.hear .sent).ReachedTo (d.transcript.written.length - unsent.length) := by
  intro offset before
  have fits := h.rest.length_le
  rw [List.length_append] at fits
  by_cases front : offset < d.transcript.written.length - (payload ++ unsent).length
  · exact (h.reached offset front).hear
  · let position := d.transcript.written.length - (payload ++ unsent).length
    have sent : (position, payload) ∈ (d.hear .sent).completed :=
      List.mem_append_right _ (Option.mem_toList.mpr h.underWay)
    refine .inr ⟨_, sent, Nat.not_lt.mp front, ?_⟩
    simp only [position, List.length_append]
    omega

/-- A connection carries everything but what is still unsent. -/
theorem carried_of_reaches {connection : Transcript.Connection} {written unsent : Bytes}
    (h : connection.Reaches written unsent) :
    unsent <:+ written ∧ ∃ start, connection.start = some start ∧
      start + connection.carried.length = written.length - unsent.length := by
  obtain ⟨-, start, started, -, within, reaches⟩ := h
  have lengths := congrArg List.length reaches
  rw [List.length_append, List.length_drop] at lengths
  refine ⟨?_, start, started, by omega⟩
  have part : unsent <:+ written.drop start := ⟨connection.carried, reaches⟩
  exact part.trans (List.drop_suffix _ _)

/-- A payload is begun to be sent where the current connection has got to. -/
theorem sends_of_reaches {payload unsent : Bytes}
    (reaches : d.transcript.current.Reaches d.transcript.written (payload ++ unsent))
    (reached : d.ReachedTo (d.transcript.written.length - (payload ++ unsent).length)) :
    (d.perform happening (.send (.data payload))).Sends payload unsent := by
  obtain ⟨rest, start, started, position⟩ := carried_of_reaches reaches
  exact ⟨rest, by simp [perform, Transcript.perform, started, position], reached⟩

/-- It lies there. -/
theorem IsGenuine.begins {payload unsent : Bytes} (h : d.IsGenuine)
    (sent : (d.perform happening (.send (.data payload))).Sends payload unsent) :
    (d.perform happening (.send (.data payload))).IsGenuine := by
  intro part member
  rcases List.mem_append.mp member with completed | underWay
  · exact h part (List.mem_append_left _ completed)
  · rw [sent.underWay] at underWay
    obtain rfl := Option.mem_some.mp (Option.mem_toList.mp underWay)
    dsimp only
    rw [← List.suffix_iff_eq_drop.mp sent.rest]
    exact List.prefix_append _ _

theorem follow_append (d : Dispatch) (happening : Happening) (front : List Action)
    (action : Action) :
    d.follow (happening, front ++ [action]) =
      (front.foldl (perform happening) (d.hear happening)).perform happening action := by
  rw [follow, List.foldl_append]
  rfl

/-! ## What a step preserves -/

/-- A dispatch tracks a carrier: their transcripts match; while the carrier waits or sends an
    acknowledgement, everything written has got out; and while it sends data, everything in
    front of them has. -/
structure Tracks (c : Carrier) (d : Dispatch) : Prop where
  agrees : d.transcript.Matches c
  genuine : d.IsGenuine
  rests : c.phase = .waiting ∨ c.phase = .sending .ack → d.ReachedTo d.transcript.written.length
  sends {errand : Errand} (sends : c.phase = .sending errand) (other : errand ≠ .ack) :
    ∃ payload, d.Sends payload c.unsent

namespace Tracks

theorem start (sid : String) : Tracks (.start sid) {} where
  agrees := .start sid
  genuine part member := by cases member
  rests _ offset before := by cases before
  sends sends := by cases sends

/-- Nothing but the session and the phase matters. -/
theorem congr (h : Tracks c d) (session : c'.session = c.session) (phase : c'.phase = c.phase) :
    Tracks c' d where
  agrees := h.agrees.congr (session ▸ h.agrees.books)
    (fun established => by simp_all [Carrier.isEstablished, Carrier.unsent])
  genuine := h.genuine
  rests := by
    rw [phase]
    exact h.rests
  sends := by
    simp only [Carrier.unsent, phase]
    exact h.sends

/-- A step after which no payload is being sent. -/
theorem quiet (h : Tracks c d) (step : c.Step settings happening c' actions)
    (noData : ∀ payload, .send (.data payload) ∉ actions)
    (rests : c'.phase = .waiting ∨ c'.phase = .sending .ack →
      (d.follow (happening, actions)).ReachedTo
        (d.transcript.follow (happening, actions)).written.length)
    (silent : ∀ errand, c'.phase = .sending errand → errand = .ack) :
    Tracks c' (d.follow (happening, actions)) where
  agrees := by
    rw [follow_transcript]
    exact h.agrees.step step
  genuine := h.genuine.hear.foldl_perform noData
  rests := by
    rw [follow_transcript]
    exact rests
  sends sends other := absurd (silent _ sends) other

/-- A step by which the carrier goes on without a connection. -/
theorem leaves (h : Tracks c d) (step : c.Step settings happening c' actions)
    (noData : ∀ payload, .send (.data payload) ∉ actions) (away : c'.isEstablished = false) :
    Tracks c' (d.follow (happening, actions)) := by
  refine h.quiet step noData ?_ ?_
  · rintro (waits | sends) <;> simp [Carrier.isEstablished, *] at away
  · intro errand sends
    simp [Carrier.isEstablished, sends] at away

/-- A step between two moments at which everything written has got out. -/
theorem stays (h : Tracks c d) (step : c.Step settings happening c' actions)
    (noData : ∀ payload, .send (.data payload) ∉ actions)
    (before : c.phase = .waiting ∨ c.phase = .sending .ack)
    (after : c'.phase = .waiting ∨ c'.phase = .sending .ack)
    (unrecorded : actions.flatMap (Action.recorded happening) = []) :
    Tracks c' (d.follow (happening, actions)) := by
  refine h.quiet step noData ?_ ?_
  · intro _
    rw [Transcript.follow_written, unrecorded, List.append_nil]
    exact fun offset within => (h.rests before offset within).follow _
  · rintro errand sends
    rcases after with waits | acks
    · cases waits.symm.trans sends
    · exact Phase.sending.inj (sends.symm.trans acks)

/-- A step by which the last payload to be sent has been sent. -/
theorem completes {errand : Errand} (h : Tracks c d) (step : c.Step settings .sent c' actions)
    (noData : ∀ payload, .send (.data payload) ∉ actions) (sends : c.phase = .sending errand)
    (other : errand ≠ .ack) (nothing : c.unsent = []) (after : c'.phase = .waiting)
    (unrecorded : actions.flatMap (Action.recorded .sent) = []) :
    Tracks c' (d.follow (.sent, actions)) := by
  refine h.quiet step noData ?_ ?_
  · intro _
    obtain ⟨payload, sends⟩ := h.sends sends other
    have reached := sends.hear
    rw [nothing, List.length_nil, Nat.sub_zero] at reached
    rw [Transcript.follow_written, unrecorded, List.append_nil]
    exact fun offset before => (reached offset before).foldl_perform actions
  · intro errand sends
    cases after.symm.trans sends

/-- A step by which a payload begins to be sent, after `front` has been done. -/
theorem begins {payload : Bytes} (h : Tracks c d) (front : List Action)
    (step : c.Step settings happening c' (front ++ [.send (.data payload)]))
    (noData : ∀ payload, .send (.data payload) ∉ front)
    (waitless : c'.phase ≠ .waiting ∧ c'.phase ≠ .sending .ack)
    (sent : ((front.foldl (perform happening) (d.hear happening)).perform happening
      (.send (.data payload))).Sends payload c'.unsent) :
    Tracks c' (d.follow (happening, front ++ [.send (.data payload)])) where
  agrees := by
    rw [follow_transcript]
    exact h.agrees.step step
  genuine := by
    rw [follow_append]
    exact (h.genuine.hear.foldl_perform noData).begins sent
  rests rests := by
    rcases rests with waits | acks
    · exact absurd waits waitless.1
    · exact absurd acks waitless.2
  sends _ _ := by
    rw [follow_append]
    exact ⟨payload, sent⟩

/-- When the session goes on, everything but what is kept has got out. -/
theorem reachedTo_of_taken {number : UInt64} {session : Session} (h : Tracks c d) (d' : Dispatch)
    (taken : c.session.acknowledge number = .ok session)
    (noted : d.transcript.offset number ≤ d'.transcript.acknowledged) :
    d'.ReachedTo (d.transcript.written.length - session.replay.flatten.length) := by
  have books := Transcript.balanced_offset h.agrees.books taken
  have kept := congrArg List.length books.replay
  rw [List.length_drop] at kept
  have within := books.le
  intro offset before
  left
  omega

theorem noData_of_aside (aside : ∀ action ∈ actions, action.isAside = true) (payload : Bytes) :
    .send (.data payload) ∉ actions :=
  fun member => absurd (aside _ member) (by simp [Action.isAside])

/-- The carrier takes a piece of a write, with everything in front of it out. -/
theorem takes {number : Nat} {payload : Bytes} (h : Tracks c d) (waits : c.phase = .waiting)
    (step : c.Step settings (.write number payload)
      { c with session := c.session.recordSent payload, phase := .sending (.write number) }
      [.count (.dataSent payload.length), .send (.data payload)]) :
    Tracks { c with session := c.session.recordSent payload, phase := .sending (.write number) }
      (d.follow (.write number payload,
        [.count (.dataSent payload.length), .send (.data payload)])) := by
  refine h.begins [.count (.dataSent payload.length)] step (by simp) (by simp) ?_
  refine sends_of_reaches ?_ ?_
  · have reaches := (h.agrees.reaches_end waits).append payload
    simpa [Carrier.unsent, perform, hear, Transcript.perform, Transcript.hear,
      Happening.payload] using reaches
  · intro offset before
    have written : offset < d.transcript.written.length := by
      simpa [Carrier.unsent, perform, hear, Transcript.perform, Transcript.hear,
        Happening.payload] using before
    exact (h.rests (.inl waits) offset written).hear.foldl_perform [_]

/-- A payload has been sent again, and the next one follows. -/
theorem resends {recovery : Recovery} {payload : Bytes} {rest : List Bytes} (h : Tracks c d)
    (sends : c.phase = .sending (.replay recovery (payload :: rest)))
    (step : c.Step settings .sent { c with phase := .sending (.replay recovery rest) }
      [.count .frameSent, .send (.data payload)]) :
    Tracks { c with phase := .sending (.replay recovery rest) }
      (d.follow (.sent, [.count .frameSent, .send (.data payload)])) := by
  have unsent : c.unsent = payload ++ rest.flatten := by simp [Carrier.unsent, sends]
  refine h.begins [.count .frameSent] step (by simp) (by simp) ?_
  refine sends_of_reaches ?_ ?_
  · have reaches := h.agrees.reaches (by simp [Carrier.isEstablished, sends])
    rw [unsent] at reaches
    exact reaches
  · obtain ⟨_, sends⟩ := h.sends sends (by simp)
    have reached := sends.hear
    rw [unsent] at reached
    exact fun offset before => (reached offset before).foldl_perform [_]

/-- The session goes on with the first payload that is kept. -/
theorem resumes {number : UInt64} {session : Session} {recovery : Recovery} {payload : Bytes}
    {rest : List Bytes} (h : Tracks c d) (taken : c.session.acknowledge number = .ok session)
    (kept : session.replay = payload :: rest)
    (step : c.Step settings (.resumed number)
      { c with session, phase := .sending (.replay recovery rest) }
      [.install, .send (.data payload)]) :
    Tracks { c with session, phase := .sending (.replay recovery rest) }
      (d.follow (.resumed number, [.install, .send (.data payload)])) := by
  have reaches := h.agrees.reaches_resumed taken
  have resumed := h.agrees.resume_of_taken taken
  rw [kept] at reaches
  refine h.begins [.install] step (by simp) (by simp) ?_
  refine sends_of_reaches ?_ ?_
  · simpa [perform, hear, Transcript.perform, Transcript.hear, resumed, Carrier.unsent]
      using reaches
  · have reached := h.reachedTo_of_taken (perform (.resumed number) (d.hear (.resumed number))
      .install) taken (by simp [perform, hear, Transcript.perform, Transcript.hear, resumed])
    rw [kept] at reached
    simpa [perform, hear, Transcript.perform, Transcript.hear, resumed, Carrier.unsent]
      using reached

/-- The session goes on with nothing left to be sent again. -/
theorem reachedTo_of_resumedWhole {number : UInt64} {session : Session} (h : Tracks c d)
    (taken : c.session.acknowledge number = .ok session) (kept : session.replay.flatten = [])
    (aside : ∀ action ∈ actions, action.isAside = true) :
    (d.follow (.resumed number, .install :: actions)).ReachedTo
      (d.transcript.follow (.resumed number, .install :: actions)).written.length := by
  have resumed := h.agrees.resume_of_taken taken
  have counted : d.transcript.offset number ≤
      (d.follow (.resumed number, .install :: actions)).transcript.acknowledged := by
    have first : (d.transcript.resume number).acknowledged = d.transcript.offset number := by
      rw [resumed]
    rw [follow_transcript, ← first]
    exact Transcript.acknowledged_le_foldl_perform (d.transcript.resume number)
  have reached := h.reachedTo_of_taken _ taken counted
  rw [kept] at reached
  rw [Transcript.follow_written, List.flatMap_cons, Action.recorded_eq_nil aside]
  simpa [Action.recorded] using reached

/-- What every step preserves. -/
theorem step (h : Tracks c d) (step : c.Step settings happening c' actions) :
    Tracks c' (d.follow (happening, actions)) := by
  have stepped := step
  cases step with
  | told => exact h.congr rfl rfl
  | writesOver opened | skipped opened | received opened =>
    have waits := Carrier.phase_of_isOpen opened
    exact h.stays stepped (by simp) (.inl waits) (.inl waits) rfl
  | acknowledged opened =>
    have waits := Carrier.phase_of_isOpen opened
    exact h.stays stepped (by simp) (.inl waits) (.inl (by simpa using waits)) rfl
  | @handed payload reader opened =>
    have waits := Carrier.phase_of_isOpen opened
    exact h.stays stepped (by cases reader <;> simp [Action.hand]) (.inl waits) (.inl waits)
      (by cases reader <;> rfl)
  | @reported payload reader opened =>
    have waits := Carrier.phase_of_isOpen opened
    exact h.stays stepped (by cases reader <;> simp [Action.hand]) (.inl waits) (.inr rfl)
      (by cases reader <;> rfl)
  | took opened => exact h.takes (Carrier.phase_of_isOpen opened) stepped
  | wrote sends =>
    exact h.completes stepped (by simp) sends (by simp) (by simp [Carrier.unsent, sends]) rfl rfl
  | hasReported sends => exact h.stays stepped (by simp) (.inr sends) (.inl rfl) rfl
  | resent sends => exact h.resends sends stepped
  | @recovered recovery sends =>
    have aside := @Carrier.recovered_aside settings.flow c recovery
    refine h.completes stepped ?_ sends (by simp) (by simp [Carrier.unsent, sends]) (by simp) ?_
    · simpa using noData_of_aside aside
    · simpa [Action.recorded] using Action.recorded_eq_nil aside
  | resumed attempts taken kept => exact h.resumes taken kept stepped
  | @resumedWhole number session recovery attempts taken kept =>
    have aside := @Carrier.recovered_aside settings.flow { c with session } recovery
    refine h.quiet stepped ?_ ?_ (by simp)
    · simpa using noData_of_aside aside
    · intro _
      exact h.reachedTo_of_resumedWhole taken (by simp [kept]) aside
  | breached opened free means refused leaves =>
    exact h.leaves stepped (by simpa using noData_of_aside leaves.aside) leaves.away
  | turnedAway attempts refused leaves | unsendable attempts taken leaves =>
    exact h.leaves stepped (by simpa using noData_of_aside leaves.aside) leaves.away
  | left other leaves => exact h.leaves stepped (noData_of_aside leaves.aside) leaves.away

end Tracks

end Dispatch

end RelayTunnel
