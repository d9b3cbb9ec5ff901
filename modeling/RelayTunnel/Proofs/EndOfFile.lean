import RelayTunnel.Proofs.Feed
import RelayTunnel.Proofs.LifeCycle

/-!
# The end that a reader sees

A reader is told the end of a stream by what is left of it: the last state, an empty queue and
nothing that waits for room there. That this is the end which the relay has made, and not a
connection that was lost or an attempt that has failed, follows from what can end a carrier at
all (`Carrier.Ends`). That nothing is missing before it follows from where the bytes are on
their way (`Stream.gathered_append`), and from that a carrier listens only with nothing on hand.
-/

namespace RelayTunnel

/-! ## Closes -/

/-- The codes of an orderly close. -/
theorem CloseDisposition.ofCode_eq_orderly {code : UInt16} :
    ofCode code = .orderly ↔ code ∈ [1000, 4009, 4010] := by
  unfold ofCode
  split
  · simp_all
  · rename_i other
    refine iff_of_false ?_ other
    repeat' split
    all_goals simp

/-- No close stands for the stream being closed on this side. -/
theorem CloseDisposition.error?_ne_streamClosed (disposition : CloseDisposition) (code : UInt16)
    (reason : String) : disposition.error? code reason ≠ some .streamClosed := by
  cases disposition <;> simp [error?]

namespace Handshake

/-- Nor is it the end of a handshake, whatever its code. -/
theorem closeError_ne_streamClosed (code : UInt16) (reason : String) :
    closeError code reason ≠ .streamClosed := by
  unfold closeError
  cases means : CloseDisposition.ofCode code <;> simp [CloseDisposition.error?]

theorem weigh_eq_streamClosed {arrival : Arrival}
    (h : weigh arrival = some (.error .streamClosed)) : arrival = .failed .streamClosed := by
  cases arrival with
  | message bytes =>
    simp only [weigh] at h
    split at h <;> cases h
  | close code reason =>
    simp only [weigh, Option.some.injEq, Except.error.injEq] at h
    exact absurd h (closeError_ne_streamClosed code reason)
  | ended => cases h
  | failed error =>
    cases h
    rfl

/-- A handshake ends with the stream being closed only if its connection says so. -/
theorem firstFrame?_streamClosed {arrivals rest : List Arrival}
    (h : firstFrame? arrivals = some (.error .streamClosed, rest)) :
    .failed .streamClosed ∈ arrivals := by
  induction arrivals with
  | nil => cases h
  | cons arrival arrivals ih =>
    simp only [firstFrame?] at h
    split at h
    · exact List.mem_cons_of_mem _ (ih h)
    · rename_i decided weighed
      simp only [Option.some.injEq, Prod.mk.injEq] at h
      rw [h.1] at weighed
      rw [weigh_eq_streamClosed weighed]
      exact List.mem_cons_self ..

/-- How an attempt to take a session up again can fail, where neither the credential nor the
    connector nor a connection says of itself that the stream is closed. -/
inductive Failure : RelayError → Prop
  /-- The credential or the connector fails. -/
  | unconnected {error : RelayError} (other : error ≠ .streamClosed) : Failure error
  | late (limit : Duration) : Failure (.connectTimeout limit)
  /-- The relay answers in another way than by taking the session up again. -/
  | answered {arrivals rest : List Arrival} {error : RelayError}
      (genuine : .failed .streamClosed ∉ arrivals)
      (ends : outcome? count arrivals = some (.error error, rest)) : Failure error

theorem Failure.ne_streamClosed {error : RelayError} (h : Failure error) :
    error ≠ .streamClosed := by
  cases h with
  | unconnected other => exact other
  | late => simp
  | answered genuine ends =>
    rintro rfl
    obtain ⟨⟨decided, rest⟩, first, same⟩ := Option.map_eq_some_iff.mp ends
    simp only [Prod.mk.injEq] at same
    cases decided with
    | error error =>
      cases same.1
      exact genuine (firstFrame?_streamClosed first)
    | ok frame => cases frame <;> cases same.1

end Handshake

namespace Carrier

/-- A carrier ends because the stream is closed only if a connection, or an attempt, fails
    with that. -/
theorem Ends.of_streamClosed {settings : RelaySettings} {c : Carrier} {happening : Happening}
    (ends : c.Ends settings happening (some .streamClosed)) :
    happening = .sendFailed .streamClosed ∨ happening = .resumeFailed .streamClosed := by
  cases ends with
  | dismissed means => exact absurd means (CloseDisposition.error?_ne_streamClosed _ _ _)
  | oversized unfit =>
    simp only [Wire.encode] at unfit
    split at unfit <;> cases unfit
  | shut => exact .inl rfl
  | hopeless => exact .inr rfl

end Carrier

namespace Stream

variable {settings : RelaySettings} {s s' : Stream} {events : List Event}
  {log : List (Happening × List Action)}

/-! ## Where the bytes are -/

/-- The bytes that an event hands to the reader. -/
def gained (s : Stream) : Event → Bytes
  | .reads _ =>
    match s.takeChunk? with
    | some (result, _) => result.payload
    | none => []
  | _ => []

/-- The bytes that the reads in a series of events get, one after the other. -/
def gathered (settings : RelaySettings) (s : Stream) : List Event → Bytes
  | [] => []
  | event :: events =>
    s.gained event ++
      match s.next? settings event with
      | some (next, _) => next.gathered settings events
      | none => []

/-- The bytes of a stream that are on their way to its reader. -/
def onTheWay (s : Stream) : Bytes := s.inbound.flatten ++ s.carrier.pending.getD []

/-- The bytes that arrive in a run, on whatever connection. -/
def broughtBy (log : List (Happening × List Action)) : Bytes :=
  log.flatMap fun entry => entry.1.brought

/-- A reader that is there after an event was there before, and what it gets and what is on the
    way to it is what was on the way and what arrives. -/
theorem gained_append {event : Event} {entry : Option (Happening × List Action)}
    (h : s.next? settings event = some (s', entry)) (opened : s'.readerOpen = true) :
    s.readerOpen = true ∧
      s.gained event ++ s'.onTheWay = s.onTheWay ++ broughtBy entry.toList := by
  cases event with
  | happens happening =>
    obtain ⟨actions, rfl, moved⟩ := step?_of_next? h
    have moves := moves_of_step? moved
    have before : s.readerOpen = true := moves.readerOpen ▸ opened
    refine ⟨before, ?_⟩
    have bytes := moves.carrier.passesOn.bytes (moves.room_ne_false before)
    simp only [gained, onTheWay, broughtBy, List.nil_append, Option.toList_some,
      List.flatMap_cons, List.flatMap_nil, List.append_nil]
    rw [moves.inbound, List.flatten_append, List.append_assoc, bytes, List.append_assoc]
  | reads size =>
    obtain ⟨before, rfl, result, taken⟩ := takeChunk?_of_next? h
    obtain ⟨carrier, -, bytes⟩ := takeChunk?_spec taken
    refine ⟨before, ?_⟩
    simp only [gained, taken, onTheWay, broughtBy, carrier, Option.toList_none,
      List.flatMap_nil, List.append_nil]
    rw [← List.append_assoc, bytes]
  | uses how =>
    cases h
    have spared := s.use_spares how
    obtain ⟨before, inbound⟩ := spared.inbound opened
    refine ⟨before, ?_⟩
    simp [gained, onTheWay, broughtBy, inbound, spared.pending]

/-- So it is over a whole run. -/
theorem gathered_append (run : s.run? settings events = some (s', log))
    (opened : s'.readerOpen = true) :
    s.readerOpen = true ∧
      s.gathered settings events ++ s'.onTheWay = s.onTheWay ++ broughtBy log := by
  induction events generalizing s log with
  | nil =>
    cases run
    exact ⟨opened, by simp [gathered, broughtBy]⟩
  | cons event events ih =>
    obtain ⟨next, entry, rest, stepped, further, rfl⟩ := run?_cons.mp run
    obtain ⟨there, later⟩ := ih further
    obtain ⟨before, first⟩ := gained_append stepped there
    refine ⟨before, ?_⟩
    calc s.gathered settings (event :: events) ++ s'.onTheWay
        = s.gained event ++ (next.gathered settings events ++ s'.onTheWay) := by
          rw [gathered, stepped, List.append_assoc]
      _ = s.gained event ++ next.onTheWay ++ broughtBy rest := by
          rw [later, List.append_assoc]
      _ = s.onTheWay ++ (broughtBy entry.toList ++ broughtBy rest) := by
          rw [first, List.append_assoc]
      _ = s.onTheWay ++ broughtBy (entry.toList ++ rest) := by
          rw [broughtBy, broughtBy, broughtBy, List.flatMap_append]

/-! ## Streams that nobody ends on this side -/

/-- Nobody on this side ends the stream, and neither the credential nor the connector nor a
    connection says of itself that it is closed. -/
structure Unprompted (events : List Event) : Prop where
  untold : .happens .cancel ∉ events
  uncancelled : .uses .cancel ∉ events
  unclosed : .uses .closeLocally ∉ events
  sends : .happens (.sendFailed .streamClosed) ∉ events
  attempts : ∀ error, .happens (.resumeFailed error) ∈ events → Handshake.Failure error

theorem Unprompted.of_subset {others : List Event} (h : Unprompted events)
    (subset : ∀ event ∈ others, event ∈ events) : Unprompted others where
  untold member := h.untold (subset _ member)
  uncancelled member := h.uncancelled (subset _ member)
  unclosed member := h.unclosed (subset _ member)
  sends member := h.sends (subset _ member)
  attempts error member := h.attempts error (subset _ member)

/-- As long as there is a reader, such a stream is not told to end. -/
theorem Unprompted.run (h : Unprompted events) (run : s.run? settings events = some (s', log))
    (opened : s'.readerOpen = true) (before : s.carrier.cancelled = false) :
    s'.carrier.cancelled = false := by
  induction events generalizing s log with
  | nil =>
    cases run
    exact before
  | cons event events ih =>
    obtain ⟨next, entry, rest, stepped, further, -⟩ := run?_cons.mp run
    have there : next.readerOpen = true := (gathered_append further opened).1
    refine ih (h.of_subset fun _ => List.mem_cons_of_mem _) further ?_
    cases event with
    | happens happening =>
      obtain ⟨actions, -, moved⟩ := step?_of_next? stepped
      have other : happening ≠ .cancel := by
        rintro rfl
        exact h.untold (List.mem_cons_self ..)
      rw [(moves_of_step? moved).carrier.cancelled_eq other, before]
    | reads size =>
      obtain ⟨-, -, result, taken⟩ := takeChunk?_of_next? stepped
      rw [(takeChunk?_spec taken).1, before]
    | uses how =>
      cases stepped
      cases how with
      | beginWrite | abortWrite => exact before
      | goOnWriting =>
        rw [use, goOnWriting_frame]
        exact before
      | closeLocally => exact absurd (List.mem_cons_self ..) h.unclosed
      | cancel => exact absurd (List.mem_cons_self ..) h.uncancelled
      | dropReader =>
        have gone : (s.use .dropReader).readerOpen = false := by
          simp only [use, dropReader]
          split <;> rfl
        rw [gone] at there
        cases there
      | dropWriter =>
        simp only [use, dropWriter] at there ⊢
        split
        · exact before
        · rename_i gone
          rw [if_neg gone] at there
          exact absurd there gone

/-- What the relay has closed stays as it is. -/
theorem HasClosed.run (h : s.HasClosed) (run : s.run? settings events = some (s', log)) :
    s'.HasClosed := by
  induction events generalizing s log with
  | nil =>
    cases run
    exact h
  | cons event events ih =>
    obtain ⟨next, entry, rest, stepped, further, -⟩ := run?_cons.mp run
    refine ih ?_ further
    cases event with
    | happens happening =>
      obtain ⟨actions, -, moved⟩ := step?_of_next? stepped
      by_cases told : happening = .cancel
      · subst told
        have same : { s.carrier with cancelled := true } = next.carrier :=
          congrArg Prod.fst (Option.some.inj (carrier_of_step? moved))
        exact ⟨same ▸ h.ended, same ▸ h.state, same ▸ h.free⟩
      · rw [step?_eq_none h.isStopped told] at moved
        cases moved
    | reads size =>
      obtain ⟨-, -, result, taken⟩ := takeChunk?_of_next? stepped
      exact h.congr (takeChunk?_spec taken).1
    | uses how =>
      cases stepped
      have spared := s.use_spares how
      exact ⟨spared.phase.trans h.ended, spared.state.trans h.state, spared.pending.trans h.free⟩

/-- A reader finds an end of file only in the state of an orderly end. -/
theorem closed_of_endOfStream (found : s.endOfStream = .endOfFile) : s.carrier.state = .closed := by
  unfold endOfStream at found
  split at found
  · cases found
  · split at found
    · assumption
    · cases found
    · cases found
    · cases found

/-- Something arrives only on the connection of an established session. -/
theorem waiting_of_arrival {arrival : Arrival} {actions : List Action}
    (h : s.step? settings (.arrival arrival) = some (s', actions)) : s.carrier.phase = .waiting := by
  have stepped := carrier_of_step? h
  obtain ⟨takes, -⟩ := Option.ite_none_right_eq_some.mp stepped
  exact (Carrier.waiting_of_takes takes).1

/-- A stream that has stopped was ended by something, with the result that its state tells. -/
theorem endsWith_of_isStopped {sid : String}
    (run : (start sid).run? settings events = some (s, log)) (stopped : s.isStopped = true) :
    ∃ result, (start sid).EndsWith settings events result ∧
      s.carrier.state = .ofResult result := by
  have stage := isStopped_iff.mp stopped
  rcases endsWith_of_run? run rfl with live | ⟨result, ends, closes | ⟨-, state⟩⟩
  · rw [stage] at live
    cases live
  · cases stage.symm.trans closes
  · exact ⟨result, ends, state⟩

/-- The relay has ended the stream in a run: at one of its events it has sent an orderly close
    on the connection of the established session, after which nothing happened to the stream. -/
def ClosedByRelay (settings : RelaySettings) (s : Stream) (events : List Event) : Prop :=
  ∃ before code reason after t log t' actions,
    events = before ++ .happens (.arrival (.close code reason)) :: after ∧
      code ∈ [1000, 4009, 4010] ∧
      s.run? settings before = some (t, log) ∧ t.carrier.phase = .waiting ∧
      t.step? settings (.arrival (.close code reason)) = some (t', actions) ∧
      t'.isStopped = true

/-- A stream that nobody on this side ends is closed only by the relay, with nothing on hand. -/
theorem Unprompted.closedByRelay {sid : String} (unprompted : Unprompted events)
    (run : (start sid).run? settings events = some (s, log)) (opened : s.readerOpen = true)
    (stopped : s.isStopped = true) (closed : s.carrier.state = .closed) :
    (start sid).ClosedByRelay settings events ∧ s.carrier.pending = none := by
  obtain ⟨result, ends, state⟩ := endsWith_of_isStopped run stopped
  obtain ⟨before, happening, after, t, first, t', actions, rfl, ran, -, cause, stepped, -⟩ := ends
  obtain ⟨u, start, rest, ran₂, further, -⟩ := run?_append.mp run
  cases ran.symm.trans ran₂
  have there : t.readerOpen = true := (gathered_append further opened).1
  have untold : t.carrier.cancelled = false :=
    (unprompted.of_subset fun event => List.mem_append_left _).run ran there rfl
  have member : .happens happening ∈ before ++ .happens happening :: after := by simp
  rcases StreamState.ofResult_eq_closed.mp (state.symm.trans closed) with rfl | rfl
  · rcases Carrier.ends_none.mp cause with ⟨-, told⟩ | ⟨code, reason, rfl, means⟩
    · rw [untold] at told
      cases told
    · have closes := step?_close means untold stepped
      obtain ⟨next, entry, rest, moved, later, -⟩ := run?_cons.mp further
      simp only [next?, stepped, Option.map_some, Option.some.injEq, Prod.mk.injEq] at moved
      obtain ⟨rfl, rfl⟩ := moved
      exact ⟨⟨before, code, reason, after, t, first, t', actions, rfl,
        CloseDisposition.ofCode_eq_orderly.mp means, ran, waiting_of_arrival stepped, stepped,
        closes.isStopped⟩, (closes.run later).free⟩
  · -- a connection or an attempt would have said that the stream is closed
    rcases cause.of_streamClosed with rfl | rfl
    · exact absurd member unprompted.sends
    · exact absurd rfl (unprompted.attempts _ member).ne_streamClosed

/-- As long as nobody on this side ends the stream, a reader comes to an end of file only if
    the relay has sent a close with an orderly code on the connection of the established
    session, and then what the reads before have got is everything that has arrived in data
    frames on all connections. -/
theorem end_of_file_truthful (settings : RelaySettings) (sid : String) (events : List Event)
    (unprompted : Unprompted events) (run : (start sid).run? settings events = some (s, log))
    (opened : s.readerOpen = true) (found : s.takeChunk? = some (.endOfFile, s')) :
    (start sid).ClosedByRelay settings events ∧
      (start sid).gathered settings events = broughtBy log := by
  have nothing : ∀ payload, ReadResult.endOfFile ≠ .data payload := fun payload same => by
    cases same
  obtain ⟨empty, atEnd⟩ := takeChunk?_end found nothing
  have stopped := isStopped_of_takeChunk? found nothing
  have closed := closed_of_endOfStream atEnd.symm
  obtain ⟨byRelay, free⟩ := unprompted.closedByRelay run opened stopped closed
  have all := (gathered_append run opened).2
  have nowhere : s.onTheWay = [] := by
    rw [onTheWay, empty, free]
    rfl
  rw [nowhere, List.append_nil] at all
  exact ⟨byRelay, all⟩

/-- A connection is lost with data unread, an attempt is answered by an orderly close, which
    ends nothing, and the next connection brings the rest and the end. -/
theorem end_of_file_truthful_second_connection :
    let events : List Event :=
      [.happens (.arrival (.message [0, 4, 0, 0, 0, 2, 1, 2])), .happens (.room true),
        .happens (.arrival .ended),
        .happens (.resumeFailed (Handshake.closeError 1000 "")), .happens .pauseOver,
        .happens (.resumed 0), .happens (.arrival (.message [0, 4, 0, 0, 0, 1, 3])),
        .reads 16384, .happens (.room true), .reads 16384,
        .happens (.arrival (.close 4009 ""))]
    Unprompted events ∧
      ∃ s log, (start "s").run? {} events = some (s, log) ∧ s.readerOpen = true ∧
        (∃ s', s.takeChunk? = some (.endOfFile, s')) ∧
        broughtBy log = [1, 2, 3] ∧ (start "s").ClosedByRelay {} events ∧
        (start "s").gathered {} events = [1, 2, 3] := by
  intro events
  have unprompted : Unprompted events := by
    refine ⟨by simp [events], by simp [events], by simp [events], by simp [events], ?_⟩
    intro error member
    obtain rfl : error = Handshake.closeError 1000 "" := by simpa [events] using member
    have first : Handshake.outcome? Handshake.count [.close 1000 ""] =
        some (.error (Handshake.closeError 1000 ""), []) := rfl
    exact .answered (by simp) first
  have ran : ((start "s").run? {} events).any (fun r =>
      r.1.readerOpen = true ∧ r.1.takeChunk?.map Prod.fst = some .endOfFile ∧
        broughtBy r.2 = [1, 2, 3]) = true := by
    decide +kernel
  obtain ⟨⟨s, log⟩, run, found⟩ := (Option.any_eq_true ..).mp ran
  obtain ⟨opened, atEnd, brought⟩ := of_decide_eq_true found
  obtain ⟨⟨_, s'⟩, atEnd, rfl⟩ := Option.map_eq_some_iff.mp atEnd
  obtain ⟨byRelay, gathered⟩ := end_of_file_truthful {} "s" events unprompted run opened atEnd
  exact ⟨unprompted, s, log, run, opened, ⟨s', atEnd⟩, brought, byRelay,
    gathered.trans brought⟩

end Stream

end RelayTunnel
