import RelayTunnel.Proofs.Aftermath
import RelayTunnel.Proofs.EndOfFile
import RelayTunnel.Proofs.Handshake
import RelayTunnel.Proofs.Recovery
import RelayTunnel.Proofs.Wire
import RelayTunnel.Proofs.Writing

/-!
# How much a stream holds in one piece

A frame carries a limited number of bytes. What arrives is measured when it is read off the wire,
and what is written is cut before it is queued; everywhere else the limit is taken for granted: a
reader copies a piece into its buffer, a piece is sent without another look at its length, and what
an acknowledgement has left of it is sent again. `Stream.Sized` says that all that a stream holds is
within the limit, wherever it is. A piece only ever moves or loses bytes at its front, so every step
preserves this (`Carrier.Step.sized`), and nothing ends a stream with a misuse of its interface
unless an attempt to take the session up again fails with one (`Carrier.Ends.of_misuse`).
-/

namespace RelayTunnel

/-! ## Payloads and frames -/

/-- A frame has a form on the wire. -/
def Wire.Encodable (frame : Frame) : Prop := ∃ message, encode frame = .ok message

theorem Wire.encodable_data {payload : Bytes} :
    Encodable (.data payload) ↔ payload.length ≤ maxPayload := by
  constructor
  · rintro ⟨message, encodes⟩
    exact Carrier.encode_data_eq_ok encodes
  · intro fits
    exact ⟨_, by rw [encode, if_neg (Nat.not_lt.mpr fits)]⟩

theorem Wire.encodable_ack (count : UInt64) : Encodable (.ack count) := ⟨_, rfl⟩

/-- No message carries more. -/
theorem Wire.length_of_decode {message payload : Bytes}
    (means : decode message = .ok (some (.data payload))) : payload.length ≤ maxPayload :=
  Carrier.encode_data_eq_ok (decode_eq_some_iff.mp means)

/-- What an action hands to the reader is within the limit, and what it sends has a form on the
    wire. -/
def Action.Fits : Action → Prop
  | .deliver chunk => chunk.length ≤ maxPayload
  | .send frame => Wire.Encodable frame
  | _ => True

theorem Action.fits_of_aside {actions : List Action}
    (aside : ∀ action ∈ actions, action.isAside = true) : ∀ action ∈ actions, action.Fits := by
  intro action member
  have aside := aside action member
  cases action with
  | deliver | send => cases aside
  | _ => trivial

theorem Action.fits_hand {reader : Bool} {chunk : Bytes} (short : chunk.length ≤ maxPayload) :
    (hand reader chunk).Fits := by
  cases reader <;> simp [hand, Fits, short]

/-! ## Carriers -/

namespace Carrier

variable {settings : RelaySettings} {c c' : Carrier} {happening : Happening}
  {actions : List Action}

/-- If every payload fits into a frame, none is found that does not. -/
theorem unsendable?_eq_none {payloads : List Bytes}
    (short : ∀ payload ∈ payloads, payload.length ≤ maxPayload) : unsendable? payloads = none := by
  have fit : payloads.find? (maxPayload < ·.length) = none := by
    simpa [List.find?_eq_none] using short
  rw [unsendable?_eq, fit, Option.map_none]

/-- What is still to be sent again on the current connection, payload by payload. -/
def resends (c : Carrier) : List Bytes :=
  match c.phase with
  | .sending (.replay _ rest) => rest
  | _ => []

theorem resends_eq_nil (other : ∀ recovery rest, c.phase ≠ .sending (.replay recovery rest)) :
    c.resends = [] := by
  unfold resends
  split
  · rename_i recovery rest phase
    exact absurd phase (other recovery rest)
  · rfl

theorem Leaves.resends {write : Option Nat} {move : Move} (leaves : c.Leaves write move) :
    move.1.resends = [] := by
  apply resends_eq_nil
  intro recovery rest phase
  have away := leaves.away
  simp [isEstablished, phase] at away

/-- All that a carrier holds fits into frames. -/
structure Sized (c : Carrier) : Prop where
  pending : ∀ chunk ∈ c.pending, chunk.length ≤ maxPayload
  replay : ∀ payload ∈ c.session.replay, payload.length ≤ maxPayload
  resends : ∀ payload ∈ c.resends, payload.length ≤ maxPayload

namespace Sized

theorem start (sid : String) : (Carrier.start sid).Sized where
  pending chunk held := by cases held
  replay payload kept := by cases kept
  resends payload behind := by cases behind

/-- A carrier that is not sending anything again has less to hold. -/
theorem of_idle (h : c.Sized) (pending : c'.pending = c.pending)
    (replay : c'.session.replay = c.session.replay)
    (other : ∀ recovery rest, c'.phase ≠ .sending (.replay recovery rest)) : c'.Sized where
  pending := pending ▸ h.pending
  replay := replay ▸ h.replay
  resends := by simp [resends_eq_nil other]

theorem acknowledge {session : Session} {count : UInt64} (h : c.Sized)
    (taken : c.session.acknowledge count = .ok session) : { c with session }.Sized where
  pending := h.pending
  replay := Session.acknowledge_length taken h.replay
  resends := h.resends

theorem leave {write : Option Nat} {move : Move} (h : c.Sized) (leaves : c.Leaves write move) :
    move.1.Sized where
  pending := leaves.pending ▸ h.pending
  replay := leaves.session ▸ h.replay
  resends := by simp [leaves.resends]

end Sized

/-- What one step preserves. -/
theorem Step.sized (step : c.Step settings happening c' actions) (h : c.Sized) : c'.Sized := by
  cases step with
  | told | writesOver | skipped => exact ⟨h.pending, h.replay, h.resends⟩
  | received opened free means nonempty =>
    exact ⟨by simpa using Wire.length_of_decode means, h.replay, h.resends⟩
  | acknowledged opened free means taken =>
    have after := h.acknowledge taken
    rw [updateThrottle_frame]
    exact ⟨after.pending, after.replay, after.resends⟩
  | handed opened held few => exact ⟨by simp, h.replay, h.resends⟩
  | reported opened held enough => exact ⟨by simp, h.replay, by simp [resends]⟩
  | took opened writes unthrottled fits =>
    refine ⟨h.pending, ?_, by simp [resends]⟩
    exact List.forall_mem_append.mpr ⟨h.replay, by simpa using fits⟩
  | wrote sends => exact h.of_idle (by simp) (by simp) (by simp)
  | hasReported sends => exact h.of_idle rfl rfl (by simp)
  | resent sends =>
    have behind := h.resends
    simp only [resends, sends] at behind
    exact ⟨h.pending, h.replay, (List.forall_mem_cons.mp behind).2⟩
  | recovered sends => exact h.of_idle (by simp) (by simp) (by simp)
  | resumed attempts taken kept =>
    -- what the relay does not hold after this acknowledgement is what is sent again
    have after := h.acknowledge taken
    have replay := after.replay
    rw [kept] at replay
    exact ⟨after.pending, after.replay, (List.forall_mem_cons.mp replay).2⟩
  | resumedWhole attempts taken kept =>
    exact (h.acknowledge taken).of_idle (by simp) (by simp) (by simp)
  | unsendable attempts taken leaves => exact (h.acknowledge taken).leave leaves
  | breached opened free means refused leaves | turnedAway attempts refused leaves
  | left otherwise leaves => exact h.leave leaves

/-- Nothing larger is handed over or sent. -/
theorem Step.fits (step : c.Step settings happening c' actions) (h : c.Sized) :
    ∀ action ∈ actions, action.Fits := by
  cases step with
  | told | writesOver | skipped | received | acknowledged | wrote | hasReported =>
    simp [Action.Fits]
  | handed opened held few => simpa using Action.fits_hand (h.pending _ held)
  | reported opened held enough =>
    simpa [Action.Fits, Wire.encodable_ack] using Action.fits_hand (h.pending _ held)
  | took opened writes unthrottled fits =>
    simpa [Action.Fits] using Wire.encodable_data.mpr fits
  | resent sends =>
    have behind := h.resends
    simp only [resends, sends] at behind
    simpa [Action.Fits] using Wire.encodable_data.mpr (List.forall_mem_cons.mp behind).1
  | resumed attempts taken kept =>
    have replay := (h.acknowledge taken).replay
    rw [kept] at replay
    simpa [Action.Fits] using Wire.encodable_data.mpr (List.forall_mem_cons.mp replay).1
  | recovered | resumedWhole =>
    exact List.forall_mem_cons.mpr ⟨trivial, Action.fits_of_aside (recovered_aside _)⟩
  | breached opened free means refused leaves | turnedAway attempts refused leaves
  | unsendable attempts taken leaves =>
    exact List.forall_mem_cons.mpr ⟨trivial, Action.fits_of_aside leaves.aside⟩
  | left otherwise leaves => exact Action.fits_of_aside leaves.aside

end Carrier

/-! ## Streams -/

/-- The piece of a write that waits for room in the queue. -/
def Writing.piece? : Writing → Option Bytes
  | .queueing payload _ => some payload
  | _ => none

namespace Stream

variable {settings : RelaySettings} {s s' : Stream} {happening : Happening}
  {actions : List Action} {events : List Event} {log : List (Happening × List Action)}

/-- No piece begins to wait because of what the carrier does. -/
theorem piece?_foldl_writingAfter {writing : Writing} {payload : Bytes}
    (waits : payload ∈ (actions.foldl writingAfter writing).piece?) :
    payload ∈ writing.piece? := by
  induction actions generalizing writing with
  | nil => exact waits
  | cons action actions ih =>
    have before := ih waits
    unfold writingAfter at before
    split at before
    · split at before <;> cases before
    · split at before <;> cases before
    · cases before
    · cases before
    · exact before

/-- All that a stream holds fits into frames. -/
structure Sized (s : Stream) : Prop where
  carrier : s.carrier.Sized
  inbound : ∀ chunk ∈ s.inbound, chunk.length ≤ maxPayload
  requests : ∀ request ∈ s.requests, request.payload.length ≤ maxPayload
  piece : ∀ payload ∈ s.writing.bind Writing.piece?, payload.length ≤ maxPayload

namespace Sized

theorem start (sid : String) : (Stream.start sid).Sized where
  carrier := .start sid
  inbound chunk queued := by cases queued
  requests request queued := by cases queued
  piece payload waits := by cases waits

theorem step? (h : s.Sized) (stepped : s.step? settings happening = some (s', actions)) :
    s'.Sized := by
  have moves := moves_of_step? stepped
  obtain ⟨writing, requests⟩ := halves_of_step? stepped
  refine ⟨moves.carrier.sized h.carrier, ?_, ?_, ?_⟩
  · rw [moves.inbound]
    refine List.forall_mem_append.mpr ⟨h.inbound, fun chunk handed => ?_⟩
    obtain ⟨action, member, same⟩ := List.mem_filterMap.mp handed
    have fits := moves.carrier.fits h.carrier action member
    cases action <;> cases same
    exact fits
  · intro request queued
    rw [requests] at queued
    split at queued
    · cases queued
    · unfold requestsAfter at queued
      split at queued
      · exact h.requests request (List.mem_of_mem_tail queued)
      · exact h.requests request queued
  · intro payload waits
    rw [writing, Option.bind_map] at waits
    obtain ⟨before, way, piece⟩ := Option.bind_eq_some_iff.mp waits
    exact h.piece payload
      (Option.bind_eq_some_iff.mpr ⟨before, way, piece?_foldl_writingAfter piece⟩)

/-- A piece that is short enough is queued, or waits for room. -/
theorem enqueue {payload : Bytes} (h : s.Sized) (short : payload.length ≤ maxPayload)
    (rest : Bytes) : (s.enqueue payload rest).Sized := by
  unfold Stream.enqueue
  split
  · refine { h with requests := ?_, piece := by simp [Writing.piece?] }
    exact List.forall_mem_append.mpr ⟨h.requests, by simpa using short⟩
  · exact { h with piece := by simpa [Writing.piece?] using short }

/-- A write that was refused has no piece. -/
theorem answerRefused (h : s.Sized) : s.answerRefused.1.Sized := by
  unfold Stream.answerRefused
  split <;> exact { h with piece := by simp [Writing.piece?] }

/-- A write is cut before it is queued. -/
theorem goOnWriting (h : s.Sized) : s.goOnWriting.1.Sized := by
  have idle : { s with writing := none }.Sized := { h with piece := by simp }
  unfold Stream.goOnWriting
  split
  · exact h
  · rename_i rest way
    split
    · exact idle
    · split
      · exact idle
      · split
        · exact h.answerRefused
        · exact h.enqueue (List.length_take_le ..) _
  · rename_i payload rest way
    exact h.enqueue (h.piece payload (by simp [way, Writing.piece?])) rest
  · exact h
  · exact h.answerRefused

theorem use (h : s.Sized) (how : Use) : (s.use how).Sized := by
  cases how with
  | beginWrite buffer => exact { h with piece := by simp [Stream.use, beginWrite, Writing.piece?] }
  | goOnWriting => exact h.goOnWriting
  | abortWrite => exact { h with piece := by simp [Stream.use, abortWrite] }
  | closeLocally | cancel => exact { h with carrier := { h.carrier with } }
  | dropReader =>
    simp only [Stream.use, dropReader]
    split
    · exact { h with inbound := by simp }
    · exact { h with carrier := { h.carrier with }, inbound := by simp [cancel] }
  | dropWriter =>
    simp only [Stream.use, dropWriter]
    split
    · exact { h with piece := by simp }
    · exact { h with carrier := { h.carrier with }, piece := by simp [cancel] }

/-- A read takes a piece out of the queue. -/
theorem takeChunk? {result : ReadResult} (h : s.Sized)
    (taken : s.takeChunk? = some (result, s')) : s'.Sized := by
  have inbound : s'.inbound <:+ s.inbound := by
    unfold Stream.takeChunk? at taken
    split at taken
    · rename_i first rest found
      cases taken
      exact (List.suffix_cons first rest).trans (found ▸ List.dropWhile_suffix _)
    · split at taken <;> cases taken
      exact List.nil_suffix
  have short : ∀ chunk ∈ s'.inbound, chunk.length ≤ maxPayload :=
    fun chunk queued => h.inbound chunk (inbound.subset queued)
  rw [takeChunk?_frame taken]
  exact { h with inbound := short }

theorem next? {event : Event} {entry : Option (Happening × List Action)} (h : s.Sized)
    (stepped : s.next? settings event = some (s', entry)) :
    s'.Sized ∧ ∀ action ∈ entry.toList.flatMap Prod.snd, action.Fits := by
  cases event with
  | happens happening =>
    obtain ⟨actions, rfl, moved⟩ := step?_of_next? stepped
    exact ⟨h.step? moved, by simpa using (moves_of_step? moved).carrier.fits h.carrier⟩
  | reads size =>
    obtain ⟨-, rfl, result, taken⟩ := takeChunk?_of_next? stepped
    exact ⟨h.takeChunk? taken, by simp⟩
  | uses how =>
    cases stepped
    exact ⟨h.use how, by simp⟩

/-- What every run preserves. -/
theorem run (h : s.Sized) (run : s.run? settings events = some (s', log)) :
    s'.Sized ∧ ∀ action ∈ log.flatMap Prod.snd, action.Fits := by
  induction events generalizing s log with
  | nil =>
    cases run
    exact ⟨h, by simp⟩
  | cons event events ih =>
    obtain ⟨next, entry, rest, stepped, further, rfl⟩ := run?_cons.mp run
    obtain ⟨after, first⟩ := h.next? stepped
    obtain ⟨last, others⟩ := ih after further
    rw [List.flatMap_append]
    exact ⟨last, List.forall_mem_append.mpr ⟨first, others⟩⟩

/-- A piece that the carrier can take is short enough. -/
theorem length_of_allows {number : Nat} {payload : Bytes} (h : s.Sized)
    (allowed : s.allows (.write number payload) = true) : payload.length ≤ maxPayload :=
  h.requests _ (List.mem_of_head? (of_decide_eq_true allowed))

end Sized

end Stream

/-! ## What ends with a misuse -/

/-- No close stands for a misuse of the interface. -/
theorem CloseDisposition.error?_ne_misuse (disposition : CloseDisposition) (code : UInt16)
    (reason : String) (cause : Misuse) :
    disposition.error? code reason ≠ some (.invalidArgument cause) := by
  cases disposition <;> simp [error?]

/-- A carrier ends with a misuse only if an attempt fails with it or a write is too long. -/
theorem Carrier.Ends.of_misuse {settings : RelaySettings} {c : Carrier} {happening : Happening}
    {cause : Misuse} (ends : c.Ends settings happening (some (.invalidArgument cause))) :
    happening = .resumeFailed (.invalidArgument cause) ∨
      ∃ number payload, happening = .write number payload ∧
        ¬ Wire.Encodable (.data payload) := by
  cases ends with
  | dismissed means => exact absurd means (CloseDisposition.error?_ne_misuse _ _ _ _)
  | oversized unfit =>
    refine .inr ⟨_, _, rfl, ?_⟩
    rintro ⟨message, encodes⟩
    rw [unfit] at encodes
    cases encodes
  | hopeless => exact .inl rfl

namespace Handshake

/-- A handshake ends with a misuse only if its connection says so. -/
theorem refuses_misuse {wanted : FrameKind} {arrival : Arrival} {cause : Misuse} :
    Refuses wanted arrival (.invalidArgument cause) ↔
      arrival = .failed (.invalidArgument cause) := by
  constructor
  · intro refuses
    cases refuses with
    | failed => rfl
    | closed means => exact absurd means (CloseDisposition.error?_ne_misuse _ _ _ _)
  · rintro rfl
    exact .failed

end Handshake

namespace Endpoint

section

variable {World : Type} {endpoint : Endpoint} {limit : Duration}
  {token : StateM World (Except RelayError String)}
  {connect : Request → StateM World (Except RelayError (List Arrival))} {url : Url}
  {world : World} {error : RelayError}

/-- In a handshake the credential, the connector or the connection that it yields returns an
    error, before anything else decides. -/
inductive Returns (endpoint : Endpoint) (token : StateM World (Except RelayError String))
    (connect : Request → StateM World (Except RelayError (List Arrival))) (url : Url)
    (world : World) (error : RelayError) : Prop
  | credential {asked : World} (refused : token.run world = (.error error, asked))
  | connector {t : String} {asked dialled : World} (given : token.run world = (.ok t, asked))
      (failed : (connect (.authorized endpoint t url)).run asked = (.error error, dialled))
  | connection {t : String} {asked dialled : World} {skipped rest : List Arrival}
      (given : token.run world = (.ok t, asked))
      (opened : (connect (.authorized endpoint t url)).run asked =
        (.ok (skipped ++ .failed error :: rest), dialled))
      (unknown : ∀ arrival ∈ skipped, arrival.IsSkipped)

/-- An attempt to take a session up again fails with a misuse exactly if one of these three
    returns it. -/
theorem resuming_misuse {target : Target} {sid : String} {received : UInt64} {cause : Misuse} :
    (endpoint.resuming limit token connect target sid received world).1 =
        .error (.invalidArgument cause) ↔
      endpoint.Returns token connect (endpoint.reconnectUrl target sid received) world
        (.invalidArgument cause) := by
  have goes : Proceeds endpoint limit token connect .reconnectSuccess .reconnectSuccess
      (endpoint.reconnectUrl target sid received) world
      (endpoint.resuming limit token connect target sid received world) :=
    proceeds Handshake.grants_count
  constructor
  · intro fails
    rcases given : token.run world with ⟨error | t, asked⟩
    · rw [goes.unauthorized given] at fails
      cases fails
      exact .credential given
    · rcases opened : (connect (.authorized endpoint t
          (endpoint.reconnectUrl target sid received))).run asked with ⟨error | arrivals, dialled⟩
      · rw [goes.unconnected given opened] at fails
        cases fails
        exact .connector given opened
      · obtain ⟨concludes, -⟩ := goes.connected given opened
        rcases Handshake.skipped_or_decided arrivals with
          all | ⟨skipped, decisive, rest, rfl, unknown, decides⟩
        · rw [concludes.late all] at fails
          cases fails
        · have refuses := (concludes.refused rfl unknown decides _).mp fails
          obtain rfl := Handshake.refuses_misuse.mp refuses
          exact .connection given opened unknown
  · intro returned
    cases returned with
    | credential refused => rw [goes.unauthorized refused]
    | connector given failed => rw [goes.unconnected given failed]
    | connection given opened unknown =>
      obtain ⟨concludes, -⟩ := goes.connected given opened
      have decides : ¬ (Arrival.failed (.invalidArgument cause)).IsSkipped := by
        simp [Arrival.IsSkipped]
      exact (concludes.refused rfl unknown decides _).mpr .failed

end

end Endpoint

namespace Stream

variable {settings : RelaySettings} {s : Stream} {sid : String} {events : List Event}
  {log : List (Happening × List Action)}

/-- The payloads that a stream holds for sending: the piece that waits for room in the queue, the
    queued ones, and those that were sent and may have to be sent again. -/
def outbound (s : Stream) : List Bytes :=
  (s.writing.bind Writing.piece?).toList ++ s.requests.map (·.payload) ++ s.carrier.session.replay

theorem Sized.outbound (h : s.Sized) : ∀ payload ∈ s.outbound, payload.length ≤ maxPayload := by
  refine List.forall_mem_append.mpr ⟨List.forall_mem_append.mpr ⟨?_, ?_⟩, h.carrier.replay⟩
  · intro payload waits
    exact h.piece payload (Option.mem_toList.mp waits)
  · intro payload queued
    obtain ⟨request, member, rfl⟩ := List.mem_map.mp queued
    exact h.requests request member

/-- A read that is not refused for its buffer finds no more than that holds. -/
theorem Sized.length_le_size {s' : Stream} {size : Nat} {chunk : Bytes} (h : s.Sized)
    (allowed : s.readRefusal? size = none)
    (taken : s.takeChunk? = some (.data chunk, s')) : chunk.length ≤ size := by
  have wide : maxPayload ≤ size := by
    unfold readRefusal? at allowed
    split at allowed
    · cases allowed
    · rename_i wide
      exact Nat.not_lt.mp wide
  have queued : chunk ∈ s.inbound := by
    unfold Stream.takeChunk? at taken
    split at taken
    · rename_i found
      cases taken
      exact (List.dropWhile_sublist _).subset (found ▸ List.mem_cons_self)
    · simp only [Option.ite_none_right_eq_some, Option.some.injEq, Prod.mk.injEq] at taken
      exact absurd taken.2.1 (endOfStream_ne_data s chunk)
  exact Nat.le_trans (h.inbound chunk queued) wide

/-- A run ends a stream with a misuse only at an attempt to take the session up again that fails
    with it. -/
theorem resumeFailed_of_misuse {cause : Misuse}
    (run : (start sid).run? settings events = some (s, log))
    (failed : s.carrier.state = .failed (.invalidArgument cause)) :
    ∃ before after t earlier,
      events = before ++ .happens (.resumeFailed (.invalidArgument cause)) :: after ∧
        (start sid).run? settings before = some (t, earlier) ∧ t.carrier.isResuming = true := by
  have stopped := isStopped_of_isTerminal run (by rw [failed]; rfl)
  obtain ⟨result, ends, state⟩ := endsWith_of_isStopped run stopped
  obtain ⟨rfl, -⟩ := StreamState.ofResult_eq_failed.mp (state.symm.trans failed)
  obtain ⟨before, happening, after, t, earlier, t', actions, rfl, ran, -, cause, stepped, -⟩ := ends
  obtain ⟨sized, -⟩ := (Sized.start sid).run ran
  rcases cause.of_misuse with rfl | ⟨number, payload, rfl, unfit⟩
  · refine ⟨before, after, t, earlier, rfl, ran, ?_⟩
    have moved := carrier_of_step? stepped
    simp only [Carrier.step?] at moved
    split at moved
    · rename_i recovery attempts
      simp [Carrier.isResuming, attempts]
    · cases moved
  · -- what the carrier can take was queued, so it is not too long
    have short := sized.length_of_allows (moves_of_step? stepped).allowed
    exact absurd (Wire.encodable_data.mpr short) unfit

/-- Whatever the relay sends and whatever is written, in every run of a stream: each piece for the
    reader has between 1 and 16384 bytes, and a read whose buffer is not refused finds one that
    fits into it. Each payload that is queued, sent or kept for sending again has at most 16384
    bytes, also after an acknowledgement has cut it, so all of them have a form on the wire. The
    stream fails with a misuse of its interface only at an attempt to take its session up again in
    which the credential, the connector or the connection returns that error. -/
theorem sizes_within_limits (settings : RelaySettings) (sid : String) (events : List Event)
    {log : List (Happening × List Action)}
    (run : (start sid).run? settings events = some (s, log)) :
    (∀ chunk ∈ s.inbound ++ s.carrier.pending.toList,
        1 ≤ chunk.length ∧ chunk.length ≤ 16384) ∧
      (∀ size chunk s', s.readRefusal? size = none → s.takeChunk? = some (.data chunk, s') →
        1 ≤ chunk.length ∧ chunk.length ≤ size) ∧
      (∀ payload ∈ s.outbound, payload.length ≤ 16384 ∧ Wire.Encodable (.data payload)) ∧
      (∀ count session, s.carrier.session.acknowledge count = .ok session →
        (∀ payload ∈ session.replay, payload.length ≤ 16384) ∧
          Carrier.unsendable? session.replay = none) ∧
      (∀ frame, .send frame ∈ log.flatMap Prod.snd → Wire.Encodable frame) ∧
      ∀ cause, s.carrier.state = .failed (.invalidArgument cause) →
        ∃ before after t earlier,
          events = before ++ .happens (.resumeFailed (.invalidArgument cause)) :: after ∧
            (start sid).run? settings before = some (t, earlier) ∧
            t.carrier.isResuming = true ∧
            ∀ {World : Type} (endpoint : Endpoint) (limit : Duration)
              (token : StateM World (Except RelayError String))
              (connect : Request → StateM World (Except RelayError (List Arrival)))
              (target : Target) (world : World),
              let session := t.carrier.session
              (endpoint.resuming limit token connect target session.sid session.received
                  world).1 = .error (.invalidArgument cause) →
                endpoint.Returns token connect
                  (endpoint.reconnectUrl target session.sid session.received) world
                  (.invalidArgument cause) := by
  obtain ⟨sized, sent⟩ := (Sized.start sid).run run
  have filled := (Filled.start sid).run run
  have whole {chunk : Bytes} (short : chunk.length ≤ maxPayload) (nonempty : chunk ≠ []) :
      1 ≤ chunk.length ∧ chunk.length ≤ 16384 :=
    ⟨List.length_pos_iff.mpr nonempty, short⟩
  refine ⟨fun chunk held => ?_, fun size chunk s' allowed taken => ?_, fun payload held => ?_,
    fun count session taken => ?_, fun frame did => sent _ did, fun cause failed => ?_⟩
  · rcases List.mem_append.mp held with queued | waits
    · exact whole (sized.inbound chunk queued) (filled.inbound chunk queued)
    · have waits := Option.mem_toList.mp waits
      exact whole (sized.carrier.pending chunk waits) (filled.pending chunk waits)
  · exact ⟨List.length_pos_iff.mpr (takeChunk?_data taken), sized.length_le_size allowed taken⟩
  · have short := sized.outbound payload held
    exact ⟨short, Wire.encodable_data.mpr short⟩
  · have short := Session.acknowledge_length taken sized.carrier.replay
    exact ⟨short, Carrier.unsendable?_eq_none short⟩
  · obtain ⟨before, after, t, earlier, order, ran, attempts⟩ := resumeFailed_of_misuse run failed
    exact ⟨before, after, t, earlier, order, ran, attempts,
      fun endpoint limit token connect target world => Endpoint.resuming_misuse.mp⟩

/-- The relay acknowledges two of three bytes and sends one, and the connection is lost. When the
    stream is to be taken up again there is no token, by a misuse of the credential. -/
theorem sizes_within_limits_cut_payload :
    let error : RelayError := .invalidArgument (.reported "no account")
    let events : List Event :=
      [.uses (.beginWrite [1, 2, 3]), .uses .goOnWriting, .happens (.write 0 [1, 2, 3]),
        .happens .sent, .happens (.arrival (.message [0, 7, 0, 0, 0, 0, 0, 0, 0, 2])),
        .happens (.arrival (.message [0, 4, 0, 0, 0, 1, 7])), .happens (.room true),
        .happens (.arrival .ended), .happens (.resumeFailed error)]
    let endpoint : Endpoint := ⟨{ scheme := "wss", path := .segments [] }, "client"⟩
    let target : Target := ⟨"p", "z", "vm", 22, "nic0"⟩
    let token : StateM Unit (Except RelayError String) := fun world => (.error error, world)
    let connect : Request → StateM Unit (Except RelayError (List Arrival)) :=
      fun _ world => (.ok [], world)
    ∃ s log, (start "s").run? {} events = some (s, log) ∧
      s.inbound = [[7]] ∧ s.carrier.session.replay = [[3]] ∧ s.carrier.state = .failed error ∧
      (∀ chunk ∈ s.inbound, 1 ≤ chunk.length ∧ chunk.length ≤ 16384) ∧
      Wire.Encodable (.data [3]) ∧
      ∃ t : Stream, t.carrier.isResuming = true ∧
        endpoint.Returns token connect
          (endpoint.reconnectUrl target t.carrier.session.sid t.carrier.session.received) ()
          error := by
  intro error events endpoint target token connect
  have ran : ((start "s").run? {} events).any (fun r =>
      r.1.inbound = [[7]] ∧ r.1.carrier.session.replay = [[3]] ∧
        r.1.carrier.state = .failed error) = true := by
    decide +kernel
  obtain ⟨⟨s, log⟩, run, found⟩ := (Option.any_eq_true ..).mp ran
  obtain ⟨queued, kept, failed⟩ : s.inbound = [[7]] ∧ s.carrier.session.replay = [[3]] ∧
      s.carrier.state = .failed error := of_decide_eq_true found
  obtain ⟨chunks, -, payloads, -, -, misuse⟩ := sizes_within_limits {} "s" events run
  obtain ⟨-, -, t, -, -, -, attempts, returns⟩ := misuse _ failed
  refine ⟨s, log, run, queued, kept, failed, ?_, ?_, t, attempts,
    returns endpoint (.seconds 30) token connect target () rfl⟩
  · exact fun chunk held => chunks chunk (List.mem_append_left _ held)
  · exact (payloads [3] (by simp [outbound, kept])).2

end Stream

end RelayTunnel
