import Mathlib.Control.Monad.Basic
import RelayTunnel.Proofs.Aftermath
import RelayTunnel.Proofs.Dispatch
import RelayTunnel.Proofs.Dues

/-!
# What a write promises

A write is cut into pieces, each of which waits until the carrier answers it. `Stream.Stands`
says how far a write has come: how much of its buffer is recorded, and where its next piece is.
When all writes have returned, what is recorded are the buffers of those that succeeded and
fronts of those that failed, in their order; and everything that a successful write has written
has got out, whatever has happened to the connections meanwhile.
-/

namespace RelayTunnel

/-! ## What is recorded -/

/-- The payload that an action about a happening records as sent. -/
def Action.recording? (happening : Happening) : Action → Option Bytes
  | .count (.dataSent _) => some happening.payload
  | _ => none

/-- The payloads that are recorded in a run, in their order. -/
def recordings (log : List (Happening × List Action)) : List Bytes :=
  log.flatMap fun entry => entry.2.filterMap (Action.recording? entry.1)

theorem flatten_recording (happening : Happening) (actions : List Action) :
    (actions.filterMap (Action.recording? happening)).flatten =
      actions.flatMap (Action.recorded happening) := by
  induction actions with
  | nil => rfl
  | cons action actions ih =>
    rw [List.flatMap_cons, ← ih]
    unfold Action.recorded
    split
    · rfl
    · rename_i other
      rw [List.filterMap_cons_none, List.nil_append]
      unfold Action.recording?
      split
      · exact absurd rfl (other _)
      · rfl

/-- The recorded payloads make up what is written. -/
theorem flatten_recordings (log : List (Happening × List Action)) :
    (recordings log).flatten = (Dispatch.ofLog log).transcript.written := by
  suffices step : ∀ d : Dispatch, (log.foldl Dispatch.follow d).transcript.written =
      d.transcript.written ++ (recordings log).flatten from (step {}).symm
  induction log with
  | nil => simp [recordings]
  | cons entry log ih =>
    intro d
    rw [List.foldl_cons, ih, Dispatch.follow_transcript, Transcript.follow_written,
      ← flatten_recording, List.append_assoc, ← List.flatten_append]
    rfl

/-! ## What is promised -/

namespace Dispatch

variable {d d' : Dispatch} {calls : List (Bytes × Except RelayError Unit)} {parts : List Bytes}
  {buffer part : Bytes} {answer : Except RelayError Unit} {offset : Nat}

/-- What the answer of a write says about the part of its buffer that is recorded at an offset:
    all of it is and has got out, or a number of whole pieces is. -/
def Honours (d : Dispatch) (offset : Nat) (buffer part : Bytes) : Except RelayError Unit → Prop
  | .ok () => part = buffer ∧ ∀ index < part.length, d.Reached (offset + index)
  | .error _ => part <+: buffer ∧ (part.length % maxPayload = 0 ∨ part = buffer)

/-- What the answers of writes say about the parts of their buffers that are recorded from an
    offset on, one after the other. -/
def HonoursAll (d : Dispatch) : Nat → List (Bytes × Except RelayError Unit) → List Bytes → Prop
  | _, [], [] => True
  | offset, (buffer, answer) :: calls, part :: parts =>
    d.Honours offset buffer part answer ∧ d.HonoursAll (offset + part.length) calls parts
  | _, _, _ => False

theorem Honours.mono (h : d.Honours offset buffer part answer)
    (more : ∀ index, d.Reached index → d'.Reached index) :
    d'.Honours offset buffer part answer := by
  cases answer with
  | ok => exact ⟨h.1, fun index before => more _ (h.2 index before)⟩
  | error error => exact h

theorem HonoursAll.mono (h : d.HonoursAll offset calls parts)
    (more : ∀ index, d.Reached index → d'.Reached index) : d'.HonoursAll offset calls parts := by
  induction calls generalizing offset parts with
  | nil =>
    cases parts with
    | nil => trivial
    | cons part parts => exact h
  | cons call calls ih =>
    cases parts with
    | nil => exact h
    | cons part parts => exact ⟨h.1.mono more, ih h.2⟩

/-- One more write has returned. -/
theorem HonoursAll.concat (h : d.HonoursAll offset calls parts)
    (last : d.Honours (offset + parts.flatten.length) buffer part answer) :
    d.HonoursAll offset (calls ++ [(buffer, answer)]) (parts ++ [part]) := by
  induction calls generalizing offset parts with
  | nil =>
    cases parts with
    | nil => exact ⟨last, trivial⟩
    | cons part parts => exact h.elim
  | cons call calls ih =>
    cases parts with
    | nil => exact h.elim
    | cons part parts =>
      refine ⟨h.1, ih h.2 ?_⟩
      rwa [List.flatten_cons, List.length_append, ← Nat.add_assoc] at last

end Dispatch

namespace Carrier

variable {settings : RelaySettings} {c c' : Carrier} {happening : Happening}
  {actions : List Action} {number : Nat} {payload : Bytes}

theorem recording_of_aside (aside : ∀ action ∈ actions, action.isAside = true) :
    actions.filterMap (Action.recording? happening) = [] := by
  rw [List.filterMap_eq_nil_iff]
  intro action member
  have aside := aside action member
  unfold Action.recording?
  split
  · cases aside
  · rfl

/-- Only writes are recorded. -/
theorem Step.recording (step : c.Step settings happening c' actions)
    (other : ∀ number payload, happening ≠ .write number payload) :
    actions.filterMap (Action.recording? happening) = [] := by
  cases step with
  | told | writesOver | skipped | received | acknowledged | wrote | hasReported | resent
  | resumed => rfl
  | @handed payload reader | @reported payload reader => cases reader <;> rfl
  | took => exact absurd rfl (other _ _)
  | recovered | resumedWhole =>
    exact (List.filterMap_cons_none rfl).trans (recording_of_aside (recovered_aside _))
  | breached _ _ _ _ leaves | turnedAway _ _ leaves | unsendable _ _ leaves =>
    exact (List.filterMap_cons_none rfl).trans (recording_of_aside leaves.aside)
  | left otherwise leaves => exact recording_of_aside leaves.aside

/-- A write that fits into a frame is taken. -/
theorem step?_write {move : Move} (h : c.step? settings (.write number payload) = some move)
    (fits : payload.length ≤ maxPayload) :
    move = ({ c with session := c.session.recordSent payload, phase := .sending (.write number) },
      [.count (.dataSent payload.length), .send (.data payload)]) := by
  simp only [step?] at h
  split at h <;> cases h
  simp only [takeWrite, Wire.encode, Nat.not_lt.mpr fits, if_false]

/-- What stops the queues has ended. -/
theorem Turn.ended_of_stop (turn : c.Turn settings happening c' actions)
    (stops : .stop ∈ actions) : c'.phase.stage = .ended := by
  have member : .stop ∈ signals actions := (mem_signals rfl).mpr stops
  cases turn with
  | stays _ _ silent | parts _ _ _ _ silent => simp [silent] at member
  | lost _ _ _ _ tells | recovered _ _ _ tells => simp [tells] at member
  | stops _ _ after | givesUp _ _ after | hasClosed _ after => exact after

end Carrier

namespace Stream

variable {settings : RelaySettings} {s s' : Stream} {d d' : Dispatch} {happening : Happening}
  {events : List Event} {actions : List Action} {log : List (Happening × List Action)}
  {buffer part rest : Bytes} {base number : Nat}

/-! ## The write under way -/

/-- Whether an event leaves no way for a write under way to return. -/
def Event.interrupts : Event → Bool
  | .uses (.beginWrite _) | .uses .abortWrite | .uses .dropWriter => true
  | _ => false

/-- Whether no write is abandoned in a run: each has returned when the next one begins or the
    writer goes. -/
def isUnabandoned (settings : RelaySettings) (s : Stream) : List Event → Bool
  | [] => true
  | event :: events =>
    (!event.interrupts || s.writing.isNone) &&
      match s.next? settings event with
      | none => true
      | some (next, _) => next.isUnabandoned settings events

theorem isUnabandoned_cons {event : Event} {next : Stream}
    {entry : Option (Happening × List Action)}
    (unabandoned : s.isUnabandoned settings (event :: events) = true)
    (stepped : s.next? settings event = some (next, entry)) :
    (event.interrupts = true → s.writing = none) ∧ next.isUnabandoned settings events = true := by
  rw [isUnabandoned, stepped, Bool.and_eq_true] at unabandoned
  refine ⟨fun interrupts => ?_, unabandoned.2⟩
  simpa [interrupts] using unabandoned.1

/-- How far the write under way has come, where `part` of its buffer is recorded from the offset
    `base` on. -/
inductive Stands (s : Stream) (d : Dispatch) (base : Nat) (buffer part : Bytes) : Prop
  | idle (writing : s.writing = none) (empty : s.requests = [])
      (free : s.carrier.phase.write? = none) (nothing : part = [])
  /-- All pieces so far were taken, and have got out. -/
  | next {rest : Bytes} (writing : s.writing = some (.next rest)) (empty : s.requests = [])
      (free : s.carrier.phase.write? = none) (whole : part ++ rest = buffer)
      (even : part.length % maxPayload = 0 ∨ rest = [])
      (reached : ∀ index < part.length, d.Reached (base + index))
  /-- The next piece waits for the carrier. -/
  | queued {number : Nat} {piece rest : Bytes} (writing : s.writing = some (.awaiting number rest))
      (waits : s.requests = [⟨number, piece⟩]) (free : s.carrier.phase.write? = none)
      (whole : part ++ piece ++ rest = buffer) (even : part.length % maxPayload = 0)
      (nonempty : 0 < piece.length) (fits : piece.length ≤ maxPayload)
      (full : piece.length = maxPayload ∨ rest = [])
  /-- The carrier has the piece and has not answered it. -/
  | taken {number : Nat} {rest : Bytes} (writing : s.writing = some (.awaiting number rest))
      (empty : s.requests = []) (inHand : s.carrier.phase.write? = some number)
      (whole : part ++ rest = buffer) (even : part.length % maxPayload = 0 ∨ rest = [])
  | refused (writing : s.writing = some .refused) (empty : s.requests = [])
      (free : s.carrier.phase.write? = none) (front : part <+: buffer)
      (even : part.length % maxPayload = 0 ∨ part = buffer)

namespace Stands

/-- Nothing but the write, its pieces and the write in hand matters. -/
theorem congr (h : s.Stands d base buffer part) (writing : s'.writing = s.writing)
    (requests : s'.requests = s.requests) (phase : s'.carrier.phase = s.carrier.phase) :
    s'.Stands d base buffer part := by
  cases h with
  | idle way empty free nothing =>
    exact .idle (writing.trans way) (requests.trans empty) (phase ▸ free) nothing
  | next way empty free whole even reached =>
    exact .next (writing.trans way) (requests.trans empty) (phase ▸ free) whole even reached
  | queued way waits free whole even nonempty fits full =>
    exact .queued (writing.trans way) (requests.trans waits) (phase ▸ free) whole even nonempty
      fits full
  | taken way empty inHand whole even =>
    exact .taken (writing.trans way) (requests.trans empty) (phase ▸ inHand) whole even
  | refused way empty free front even =>
    exact .refused (writing.trans way) (requests.trans empty) (phase ▸ free) front even

end Stands

/-- Between two writes nothing waits. -/
theorem Stands.idle_of_writing (h : s.Stands d base buffer part) (idle : s.writing = none) :
    s.requests = [] ∧ s.carrier.phase.write? = none ∧ part = [] := by
  cases h with
  | idle _ empty free nothing => exact ⟨empty, free, nothing⟩
  | next way | queued way | taken way | refused way => cases way.symm.trans idle

/-! ### What the carrier does about it -/

theorem foldl_apply_requests (s : Stream) (actions : List Action) :
    (actions.foldl apply s).requests = if .stop ∈ actions then [] else s.requests := by
  induction actions generalizing s with
  | nil => rfl
  | cons action actions ih =>
    rw [List.foldl_cons, ih]
    cases action <;> simp [apply]

/-- What becomes of the write and of the pieces that wait. -/
theorem halves_of_step? (h : s.step? settings happening = some (s', actions)) :
    s'.writing = s.writing.map (actions.foldl writingAfter) ∧
      s'.requests = if .stop ∈ actions then [] else s.requestsAfter happening := by
  obtain ⟨-, stepped⟩ := Option.ite_none_right_eq_some.mp h
  obtain ⟨⟨c', did⟩, -, same⟩ := Option.map_eq_some_iff.mp stepped
  cases same
  exact ⟨foldl_apply_writing .., foldl_apply_requests ..⟩

theorem foldl_writingAfter_refused (actions : List Action) :
    actions.foldl writingAfter .refused = .refused := by
  induction actions with
  | nil => rfl
  | cons action actions ih =>
    rw [List.foldl_cons]
    cases action <;> exact ih

/-- A write without an answer goes on waiting. -/
theorem foldl_writingAfter_unanswered (unanswered : actions.filterMap Action.answer? = [])
    (going : .stop ∉ actions) :
    actions.foldl writingAfter (.awaiting number rest) = .awaiting number rest := by
  induction actions with
  | nil => rfl
  | cons action actions ih =>
    obtain ⟨here, later⟩ : action.answer? = none ∧ actions.filterMap Action.answer? = [] := by
      cases answer : action.answer? with
      | none => exact ⟨rfl, by rwa [List.filterMap_cons_none answer] at unanswered⟩
      | some number =>
        rw [List.filterMap_cons_some answer] at unanswered
        cases unanswered
    have rest := ih later (List.not_mem_of_not_mem_cons going)
    cases action with
    | accept | refuse => cases here
    | stop => exact absurd List.mem_cons_self going
    | _ => exact rest

theorem not_mem_of_unanswered {action : Action}
    (unanswered : actions.filterMap Action.answer? = []) (answers : action.answer? ≠ none) :
    action ∉ actions :=
  fun member => answers (List.filterMap_eq_nil_iff.mp unanswered action member)

/-- A write whose piece was taken goes on with the next one. -/
theorem foldl_writingAfter_accept (answers : actions.filterMap Action.answer? = [number])
    (taken : .accept number ∈ actions) (going : .stop ∉ actions) :
    actions.foldl writingAfter (.awaiting number rest) = .next rest := by
  induction actions with
  | nil => cases taken
  | cons action actions ih =>
    cases action with
    | accept other =>
      obtain rfl : other = number := (List.cons.inj answers).1
      rw [List.foldl_cons, writingAfter, if_pos rfl]
      exact foldl_writingAfter_next rest actions
    | refuse other =>
      have member : .accept number ∈ actions := by simpa using taken
      have unanswered := (List.cons.inj answers).2
      exact absurd member (not_mem_of_unanswered unanswered (by simp [Action.answer?]))
    | stop => exact absurd List.mem_cons_self going
    | _ => exact ih answers (by simpa using taken) (List.not_mem_of_not_mem_cons going)

/-- A write whose piece was not taken fails. -/
theorem foldl_writingAfter_refuse (answers : actions.filterMap Action.answer? = [number])
    (lost : .refuse number ∈ actions) :
    actions.foldl writingAfter (.awaiting number rest) = .refused := by
  induction actions with
  | nil => cases lost
  | cons action actions ih =>
    cases action with
    | accept other =>
      have member : .refuse number ∈ actions := by simpa using lost
      have unanswered := (List.cons.inj answers).2
      exact absurd member (not_mem_of_unanswered unanswered (by simp [Action.answer?]))
    | refuse other =>
      obtain rfl : other = number := (List.cons.inj answers).1
      rw [List.foldl_cons, writingAfter, if_pos rfl]
      exact foldl_writingAfter_refused actions
    | stop => exact foldl_writingAfter_refused actions
    | _ => exact ih answers (by simpa using lost)

/-- The one answer among actions takes the write or refuses it. -/
theorem accept_or_refuse (answers : actions.filterMap Action.answer? = [number]) :
    .accept number ∈ actions ∨ .refuse number ∈ actions := by
  have member : number ∈ actions.filterMap Action.answer? := by simp [answers]
  obtain ⟨action, among, answer⟩ := List.mem_filterMap.mp member
  cases action with
  | accept other =>
    cases answer
    exact .inl among
  | refuse other =>
    cases answer
    exact .inr among
  | _ => cases answer

/-! ### Steps of the carrier -/

theorem inHand_of_other (other : ∀ number payload, happening ≠ .write number payload)
    (phase : Phase) : happening.inHand phase = phase.write? := by
  cases happening with
  | write number payload => exact absurd rfl (other number payload)
  | _ => rfl

theorem requestsAfter_of_other (other : ∀ number payload, happening ≠ .write number payload) :
    s.requestsAfter happening = s.requests := by
  cases happening with
  | write number payload => exact absurd rfl (other number payload)
  | _ => rfl

/-- A carrier that stops its queues has no write in hand. -/
theorem free_of_stop (stepped : s.step? settings happening = some (s', actions))
    (stops : .stop ∈ actions) : s'.carrier.phase.write? = none := by
  have ended := (turn_of_step? stepped).ended_of_stop stops
  rw [Carrier.phase_of_ended ended]
  rfl

/-- A piece that waits while something else happens goes on waiting, or its write fails with the
    queues. -/
theorem writing_of_queued (stepped : s.step? settings happening = some (s', actions))
    (other : ∀ number payload, happening ≠ .write number payload)
    (way : s.writing = some (.awaiting number rest))
    (unanswered : actions.filterMap Action.answer? = []) :
    s'.writing = some (.awaiting number rest) ∧ s'.requests = s.requests ∨
      s'.writing = some .refused ∧ s'.requests = [] := by
  obtain ⟨writing, requests⟩ := halves_of_step? stepped
  rw [way, Option.map_some] at writing
  by_cases stops : .stop ∈ actions
  · have untaken (number : Nat) : .accept number ∉ actions :=
      not_mem_of_unanswered unanswered (by simp [Action.answer?])
    rw [foldl_writingAfter_stop (by simp) untaken (.inr stops)] at writing
    rw [if_pos stops] at requests
    exact .inr ⟨writing, requests⟩
  · rw [foldl_writingAfter_unanswered unanswered stops] at writing
    rw [if_neg stops, requestsAfter_of_other other] at requests
    exact .inl ⟨writing, requests⟩

/-- A piece in hand stays there; or it is taken, and the carrier waits; or it is refused. -/
theorem writing_of_inHand (stepped : s.step? settings happening = some (s', actions))
    (way : s.writing = some (.awaiting number rest))
    (inHand : happening.inHand s.carrier.phase = some number) :
    s'.writing = some (.awaiting number rest) ∧ s'.carrier.phase.write? = some number ∨
      s'.writing = some (.next rest) ∧ s'.carrier.phase = .waiting ∨
      s'.writing = some .refused ∧ s'.carrier.phase.write? = none := by
  obtain ⟨writing, -⟩ := halves_of_step? stepped
  have moved := carrier_of_step? stepped
  have answers := Carrier.answers_of_step? moved
  rw [way, Option.map_some] at writing
  rw [inHand] at answers
  cases after : s'.carrier.phase.write? with
  | some held =>
    rw [after] at answers
    obtain ⟨unanswered, same⟩ := List.append_eq_singleton_iff.mp answers |>.resolve_right
      (by simp)
    obtain rfl : held = number := by simpa using same
    have going : .stop ∉ actions := fun stops => by
      rw [free_of_stop stepped stops] at after
      cases after
    rw [foldl_writingAfter_unanswered unanswered going] at writing
    exact .inl ⟨writing, rfl⟩
  | none =>
    rw [after, Option.toList_none, List.append_nil] at answers
    rcases accept_or_refuse answers with taken | lost
    · have waits := (Carrier.step_of_step? moved).waiting_of_accept taken
      have going : .stop ∉ actions := fun stops => by
        have ended := (turn_of_step? stepped).ended_of_stop stops
        rw [waits] at ended
        cases ended
      rw [foldl_writingAfter_accept answers taken going] at writing
      exact .inr (.inl ⟨writing, waits⟩)
    · rw [foldl_writingAfter_refuse answers lost] at writing
      exact .inr (.inr ⟨writing, rfl⟩)

/-- Nothing but a write adds to what is written. -/
theorem written_of_other (stepped : s.step? settings happening = some (s', actions))
    (other : ∀ number payload, happening ≠ .write number payload) (d : Dispatch) :
    (d.follow (happening, actions)).transcript.written = d.transcript.written := by
  have step := Carrier.step_of_step? (carrier_of_step? stepped)
  rw [Dispatch.follow_transcript, Transcript.follow_written, ← flatten_recording,
    step.recording other]
  exact List.append_nil _

/-- Whatever else happens to the carrier, it records nothing of the write under way, and when the
    next piece is due, everything recorded has got out. -/
theorem Stands.step (h : s.Stands d base buffer part) (tracks : d.Tracks s.carrier)
    (stepped : s.step? settings happening = some (s', actions))
    (other : ∀ number payload, happening ≠ .write number payload)
    (written : base + part.length = d.transcript.written.length) :
    s'.Stands (d.follow (happening, actions)) base buffer part := by
  obtain ⟨writing, requests⟩ := halves_of_step? stepped
  rw [requestsAfter_of_other other] at requests
  have moved := carrier_of_step? stepped
  have answers := Carrier.answers_of_step? moved
  rw [inHand_of_other other] at answers
  -- without a write in hand nothing is answered, and none comes into hand
  have still (free : s.carrier.phase.write? = none) :
      actions.filterMap Action.answer? = [] ∧ s'.carrier.phase.write? = none := by
    rw [free] at answers
    obtain ⟨none, after⟩ := List.append_eq_nil_iff.mp answers
    exact ⟨none, Option.toList_eq_nil_iff.mp after⟩
  have nothing (empty : s.requests = []) : s'.requests = [] := by
    rw [requests, empty, ite_self]
  cases h with
  | idle way empty free none =>
    rw [way] at writing
    exact .idle writing (nothing empty) (still free).2 none
  | next way empty free whole even reached =>
    rw [way, Option.map_some, foldl_writingAfter_next] at writing
    exact .next writing (nothing empty) (still free).2 whole even
      fun index before => (reached index before).follow _
  | @queued number piece rest way waits free whole even nonempty fits full =>
    obtain ⟨unanswered, free'⟩ := still free
    rcases writing_of_queued stepped other way unanswered with
      ⟨writing, requests⟩ | ⟨writing, requests⟩
    · exact .queued writing (requests.trans waits) free' whole even nonempty fits full
    · refine .refused writing requests free' ⟨piece ++ rest, ?_⟩ (.inl even)
      rw [← List.append_assoc, whole]
  | @taken number rest way empty inHand whole even =>
    rw [← inHand_of_other other] at inHand
    rcases writing_of_inHand stepped way inHand with
      ⟨writing, held⟩ | ⟨writing, waits⟩ | ⟨writing, after⟩
    · exact .taken writing (nothing empty) held whole even
    · have reached := (tracks.step (Carrier.step_of_step? moved)).rests (.inl waits)
      rw [written_of_other stepped other] at reached
      refine .next writing (nothing empty) (by rw [waits]; rfl) whole even ?_
      exact fun index before => reached (base + index) (by omega)
    · refine .refused writing (nothing empty) after ⟨rest, whole⟩ (even.imp_right fun last => ?_)
      rw [← whole, last, List.append_nil]
  | refused way empty free front even =>
    rw [way, Option.map_some, foldl_writingAfter_refused] at writing
    exact .refused writing (nothing empty) (still free).2 front even

/-- A write that happens to the carrier is the piece that waits, which is recorded then. -/
theorem Stands.takes {payload : Bytes} (h : s.Stands d base buffer part)
    (stepped : s.step? settings (.write number payload) = some (s', actions)) :
    s'.Stands d' base buffer (part ++ payload) ∧
      actions = [.count (.dataSent payload.length), .send (.data payload)] ∧
      0 < payload.length ∧ payload.length ≤ maxPayload := by
  have allowed := (moves_of_step? stepped).allowed
  simp only [allows, decide_eq_true_eq] at allowed
  obtain ⟨writing, requests⟩ := halves_of_step? stepped
  have moved := carrier_of_step? stepped
  cases h with
  | idle _ empty | next _ empty | taken _ empty | refused _ empty =>
    rw [empty] at allowed
    cases allowed
  | @queued number piece rest way waits free whole even nonempty fits full =>
    rw [waits, List.head?_cons, Option.some.injEq, WriteRequest.mk.injEq] at allowed
    obtain ⟨rfl, rfl⟩ := allowed
    obtain ⟨carrier, rfl⟩ := Prod.mk.inj (Carrier.step?_write moved fits)
    refine ⟨?_, rfl, nonempty, fits⟩
    have inHand : s'.carrier.phase.write? = some number := by
      rw [carrier]
      rfl
    refine .taken (by rw [writing, way]; rfl) (by simp [requests, requestsAfter, waits]) inHand
      whole ?_
    rw [List.length_append]
    rcases full with full | last
    · rw [full, Nat.add_mod_right]
      exact .inl even
    · exact .inr last

/-! ## Runs -/

/-- The ledger of all writes so far: `calls` have returned, and `parts` of their buffers are
    recorded; `part` is what is recorded of the write under way, which has `buffer`. -/
structure Ledger (s : Stream) (d : Dispatch) (buffer : Bytes)
    (calls : List (Bytes × Except RelayError Unit)) (parts : List Bytes) (part : Bytes) :
    Prop where
  tracks : d.Tracks s.carrier
  written : d.transcript.written = parts.flatten ++ part
  honoured : d.HonoursAll 0 calls parts
  stands : s.Stands d parts.flatten.length buffer part

/-- The answer with which a write returns. -/
def answer? (s : Stream) : Event → Option (Except RelayError Unit)
  | .uses .goOnWriting => s.goOnWriting.2
  | _ => none

/-- Nothing but going on with a write lets it return. -/
theorem unanswered_of_ne {event : Event} (other : event ≠ .uses .goOnWriting) (buffer : Bytes) :
    ((s.answer? event).map (buffer, ·)).toList = [] := by
  unfold answer?
  split
  · exact absurd rfl other
  · rfl

/-- The buffer of the write that an event begins. -/
def Event.begun? : Event → Option Bytes
  | .uses (.beginWrite buffer) => some buffer
  | _ => none

/-- Everything else that the halves do leaves an unabandoned write and its pieces alone. -/
theorem use_of_untouched {how : Use}
    (idle : (Event.uses how).interrupts = true → s.writing = none)
    (begins : (Event.uses how).begun? = none) (other : how ≠ .goOnWriting) :
    (s.use how).writing = s.writing ∧ (s.use how).requests = s.requests := by
  cases how with
  | beginWrite => cases begins
  | goOnWriting => exact absurd rfl other
  | abortWrite => exact ⟨(idle rfl).symm, rfl⟩
  | closeLocally | cancel => exact ⟨rfl, rfl⟩
  | dropWriter =>
    unfold use dropWriter
    dsimp only
    split
    · exact ⟨(idle rfl).symm, rfl⟩
    · exact ⟨(idle rfl).symm, rfl⟩
  | dropReader =>
    unfold use dropReader
    dsimp only
    split
    · exact ⟨rfl, rfl⟩
    · exact ⟨rfl, rfl⟩

/-- The writes that return in a run, with their buffers and answers in the order of the calls,
    where `buffer` is that of the write under way. -/
def returned (settings : RelaySettings) (s : Stream) (buffer : Bytes) :
    List Event → List (Bytes × Except RelayError Unit)
  | [] => []
  | event :: events =>
    match s.next? settings event with
    | none => []
    | some (next, _) =>
      ((s.answer? event).map (buffer, ·)).toList ++
        returned settings next (event.begun?.getD buffer) events

/-! ### Going on with a write -/

/-- The answer of a write that fails, once the error is known. -/
theorem answerRefused_cases (s : Stream) :
    (∃ error, s.answerRefused = ({ s with writing := none }, some (.error error))) ∨
      s.answerRefused = ({ s with writing := some .refused }, none) := by
  unfold answerRefused
  split
  · exact .inl ⟨_, rfl⟩
  · exact .inr rfl

theorem goOnWriting_of_awaiting (way : s.writing = some (.awaiting number rest)) :
    s.goOnWriting = (s, none) := by
  simp only [goOnWriting, way]

theorem enqueue_of_empty {payload : Bytes} (empty : s.requests = []) :
    s.enqueue payload rest =
      { s with
        requests := [⟨s.numbered, payload⟩]
        numbered := s.numbered + 1
        writing := some (.awaiting s.numbered rest) } := by
  rw [enqueue, empty, if_pos (by decide)]
  rfl

/-- The next piece of a write is put into the queue. -/
theorem stands_enqueue (empty : s.requests = []) (free : s.carrier.phase.write? = none)
    (whole : part ++ rest = buffer) (even : part.length % maxPayload = 0) (more : rest ≠ []) :
    (s.enqueue (rest.take maxPayload) (rest.drop maxPayload)).Stands d base buffer part := by
  have some : 0 < rest.length := List.length_pos_iff.mpr more
  have positive : 0 < maxPayload := by decide
  have size : (rest.take maxPayload).length = min maxPayload rest.length := List.length_take
  rw [enqueue_of_empty empty]
  refine .queued rfl rfl free ?_ even ?_ ?_ ?_
  · rw [List.append_assoc, List.take_append_drop, whole]
  · omega
  · omega
  · by_cases long : maxPayload ≤ rest.length
    · exact .inl (by omega)
    · exact .inr (List.drop_eq_nil_of_le (by omega))

/-- Going on with a write brings it no further than to its next piece, or it returns and its
    answer says the truth about what is recorded of it. -/
theorem Stands.goOnWriting (h : s.Stands d base buffer part) :
    s.goOnWriting.2 = none ∧ s.goOnWriting.1.Stands d base buffer part ∨
      ∃ answer, s.goOnWriting.2 = some answer ∧ d.Honours base buffer part answer ∧
        s.goOnWriting.1.writing = none ∧ s.goOnWriting.1.requests = [] ∧
        s.goOnWriting.1.carrier.phase.write? = none := by
  cases h with
  | idle way empty free nothing =>
    have same : s.goOnWriting = (s, none) := by simp only [Stream.goOnWriting, way]
    rw [same]
    exact .inl ⟨rfl, .idle way empty free nothing⟩
  | taken way empty inHand whole even =>
    rw [goOnWriting_of_awaiting way]
    exact .inl ⟨rfl, .taken way empty inHand whole even⟩
  | queued way waits free whole even nonempty fits full =>
    rw [goOnWriting_of_awaiting way]
    exact .inl ⟨rfl, .queued way waits free whole even nonempty fits full⟩
  | refused way empty free front even =>
    have same : s.goOnWriting = s.answerRefused := by simp only [Stream.goOnWriting, way]
    rw [same]
    rcases answerRefused_cases s with ⟨error, answer⟩ | waits
    · rw [answer]
      exact .inr ⟨_, rfl, ⟨front, even⟩, rfl, empty, free⟩
    · rw [waits]
      exact .inl ⟨rfl, .refused rfl empty free front even⟩
  | @next rest way empty free whole even reached =>
    have front : part <+: buffer := ⟨rest, whole⟩
    have all (last : rest = []) : part = buffer := by rw [← whole, last, List.append_nil]
    have fails (error : RelayError) : d.Honours base buffer part (.error error) :=
      ⟨front, even.imp_right all⟩
    simp only [Stream.goOnWriting, way]
    split
    · rename_i last
      exact .inr ⟨_, rfl, ⟨all (List.isEmpty_iff.mp last), reached⟩, rfl, empty, free⟩
    · rename_i more
      split
      · exact .inr ⟨_, rfl, fails _, rfl, empty, free⟩
      · split
        · rcases answerRefused_cases s with ⟨error, answer⟩ | waits
          · rw [answer]
            exact .inr ⟨_, rfl, fails error, rfl, empty, free⟩
          · rw [waits]
            exact .inl ⟨rfl, .refused rfl empty free front (even.imp_right all)⟩
        · have nonempty : rest ≠ [] := fun last => more (List.isEmpty_iff.mpr last)
          exact .inl ⟨rfl, stands_enqueue empty free whole (even.resolve_right nonempty) nonempty⟩

namespace Ledger

variable {calls : List (Bytes × Except RelayError Unit)} {parts : List Bytes}

theorem start (sid : String) : (Stream.start sid).Ledger {} [] [] [] [] where
  tracks := .start sid
  written := rfl
  honoured := trivial
  stands := .idle rfl rfl rfl rfl

/-- Between the halves nothing but the write under way matters. -/
theorem congr (h : s.Ledger d buffer calls parts part) (writing : s'.writing = s.writing)
    (requests : s'.requests = s.requests) (session : s'.carrier.session = s.carrier.session)
    (phase : s'.carrier.phase = s.carrier.phase) : s'.Ledger d buffer calls parts part where
  tracks := h.tracks.congr session phase
  written := h.written
  honoured := h.honoured
  stands := h.stands.congr writing requests phase

theorem step (h : s.Ledger d buffer calls parts part)
    (stepped : s.step? settings happening = some (s', actions)) :
    ∃ part', s'.Ledger (d.follow (happening, actions)) buffer calls parts part' ∧
      ∀ payload ∈ actions.filterMap (Action.recording? happening),
        0 < payload.length ∧ payload.length ≤ maxPayload := by
  have moved := Carrier.step_of_step? (carrier_of_step? stepped)
  have tracks := h.tracks.step moved
  have honoured := h.honoured.mono fun index before => Dispatch.Reached.follow before
    (happening, actions)
  by_cases writes : ∃ number payload, happening = .write number payload
  · obtain ⟨number, payload, rfl⟩ := writes
    obtain ⟨stands, rfl, nonempty, fits⟩ := h.stands.takes stepped
    refine ⟨part ++ payload, ⟨tracks, ?_, honoured, stands⟩, ?_⟩
    · rw [Dispatch.follow_transcript, Transcript.follow_written, h.written, List.append_assoc]
      simp [Action.recorded, Happening.payload]
    · simpa [Action.recording?, Happening.payload] using ⟨nonempty, fits⟩
  · have other : ∀ number payload, happening ≠ .write number payload :=
      fun number payload same => writes ⟨number, payload, same⟩
    have length := congrArg List.length h.written
    rw [List.length_append] at length
    have stands := h.stands.step h.tracks stepped other length.symm
    have written := (written_of_other stepped other d).trans h.written
    refine ⟨part, ⟨tracks, written, honoured, stands⟩, ?_⟩
    simp [moved.recording other]

theorem use {how : Use} (h : s.Ledger d buffer calls parts part)
    (idle : (Event.uses how).interrupts = true → s.writing = none) :
    ∃ parts' part', (s.use how).Ledger d ((Event.uses how).begun?.getD buffer)
      (calls ++ ((s.answer? (.uses how)).map (buffer, ·)).toList) parts' part' := by
  have spared := s.use_spares how
  cases how with
  | beginWrite next =>
    obtain ⟨empty, free, rfl⟩ := h.stands.idle_of_writing (idle rfl)
    refine ⟨parts, [], h.tracks, h.written, ?_, ?_⟩
    · simpa [answer?] using h.honoured
    · exact .next rfl empty free rfl (.inl rfl) (by simp)
  | goOnWriting =>
    have tracks := h.tracks.congr spared.session spared.phase
    rcases h.stands.goOnWriting with ⟨none, stands⟩ | ⟨answer, some, honours, way, empty, free⟩
    · refine ⟨parts, part, tracks, h.written, ?_, stands⟩
      simpa [answer?, none] using h.honoured
    · refine ⟨parts ++ [part], [], tracks, ?_, ?_, .idle way empty free rfl⟩
      · simpa using h.written
      · rw [answer?, some]
        refine h.honoured.concat ?_
        rwa [Nat.zero_add]
  | abortWrite | dropWriter | closeLocally | dropReader | cancel =>
    obtain ⟨writing, requests⟩ := use_of_untouched idle rfl (by simp)
    refine ⟨parts, part, ?_⟩
    rw [unanswered_of_ne (by simp), List.append_nil]
    exact h.congr writing requests spared.session spared.phase

/-- What every run preserves in which no write is abandoned. -/
theorem run (h : s.Ledger d buffer calls parts part)
    (run : s.run? settings events = some (s', log))
    (unabandoned : s.isUnabandoned settings events = true) :
    (∃ buffer' parts' part', s'.Ledger (log.foldl Dispatch.follow d) buffer'
        (calls ++ s.returned settings buffer events) parts' part') ∧
      ∀ payload ∈ recordings log, 0 < payload.length ∧ payload.length ≤ maxPayload := by
  induction events generalizing s d buffer calls parts part log with
  | nil =>
    cases run
    refine ⟨⟨buffer, parts, part, ?_⟩, by simp [recordings]⟩
    rw [returned, List.append_nil]
    exact h
  | cons event events ih =>
    obtain ⟨next, entry, rest, stepped, further, rfl⟩ := run?_cons.mp run
    obtain ⟨idle, onward⟩ := isUnabandoned_cons unabandoned stepped
    rw [returned, stepped]
    dsimp only
    rw [← List.append_assoc]
    cases event with
    | happens happening =>
      obtain ⟨actions, rfl, moved⟩ := step?_of_next? stepped
      obtain ⟨part', books, sizes⟩ := h.step moved
      obtain ⟨after, sizes'⟩ := ih books further onward
      rw [unanswered_of_ne (by simp), List.append_nil]
      refine ⟨after, fun payload member => ?_⟩
      rcases List.mem_append.mp member with here | there
      · exact sizes payload here
      · exact sizes' payload there
    | reads size =>
      obtain ⟨-, rfl, result, taken⟩ := takeChunk?_of_next? stepped
      have same := takeChunk?_frame taken
      rw [unanswered_of_ne (by simp), List.append_nil]
      refine ih (h.congr ?_ ?_ ?_ ?_) further onward
      all_goals rw [same]
    | uses how =>
      cases stepped
      obtain ⟨parts', part', books⟩ := h.use idle
      exact ih books further onward

end Ledger

/-! ## All writes -/

/-- Going on with a write returns it, or leaves it under way. -/
theorem goOnWriting_writing (s : Stream) :
    s.goOnWriting.2 = none ∧ s.goOnWriting.1.writing.isSome = s.writing.isSome ∨
      (∃ answer, s.goOnWriting.2 = some answer) ∧ s.goOnWriting.1.writing = none ∧
        s.writing.isSome = true := by
  unfold goOnWriting answerRefused enqueue
  repeat' split
  all_goals simp_all

/-- The buffer of the write under way, if there is one. -/
def underWay (s : Stream) (buffer : Bytes) : List Bytes := if s.writing.isSome then [buffer] else []

/-- A write that begins is under way until it returns. -/
theorem begun_of_next? {event : Event} {next : Stream} {entry : Option (Happening × List Action)}
    (stepped : s.next? settings event = some (next, entry))
    (idle : event.interrupts = true → s.writing = none) (buffer : Bytes) :
    s.underWay buffer ++ event.begun?.toList =
      (((s.answer? event).map (buffer, ·)).toList).map Prod.fst ++
        next.underWay (event.begun?.getD buffer) := by
  -- an event that neither begins a write nor lets it return leaves it under way
  have same (noReturn : event ≠ .uses .goOnWriting) (begun : event.begun? = none)
      (writing : next.writing.isSome = s.writing.isSome) :
      s.underWay buffer ++ event.begun?.toList =
        (((s.answer? event).map (buffer, ·)).toList).map Prod.fst ++
          next.underWay (event.begun?.getD buffer) := by
    rw [unanswered_of_ne noReturn, begun, underWay, underWay, writing]
    simp
  cases event with
  | happens happening =>
    obtain ⟨actions, -, moved⟩ := step?_of_next? stepped
    refine same (by simp) rfl ?_
    rw [(halves_of_step? moved).1, Option.isSome_map]
  | reads size =>
    obtain ⟨-, -, result, taken⟩ := takeChunk?_of_next? stepped
    refine same (by simp) rfl ?_
    rw [takeChunk?_frame taken]
  | uses how =>
    cases stepped
    cases how with
    | beginWrite next =>
      have none := idle rfl
      rw [unanswered_of_ne (by simp)]
      simp [underWay, none, use, beginWrite, Event.begun?]
    | goOnWriting =>
      rcases s.goOnWriting_writing with ⟨none, way⟩ | ⟨⟨answer, some⟩, way, under⟩
      · simp [underWay, answer?, none, use, way, Event.begun?]
      · simp [underWay, answer?, some, use, way, under, Event.begun?]
    | abortWrite | dropWriter | closeLocally | dropReader | cancel =>
      refine same (by simp) rfl ?_
      rw [(use_of_untouched idle rfl (by simp)).1]

/-- In a run in which no write is abandoned, those that begin are those that return and the one
    that is under way in the end. -/
theorem begun_of_run? (buffer : Bytes) (run : s.run? settings events = some (s', log))
    (unabandoned : s.isUnabandoned settings events = true) (idle : s'.writing = none) :
    s.underWay buffer ++ events.filterMap Event.begun? =
      (s.returned settings buffer events).map Prod.fst := by
  induction events generalizing s buffer log with
  | nil =>
    cases run
    simp [underWay, idle, returned]
  | cons event events ih =>
    obtain ⟨next, entry, rest, stepped, further, rfl⟩ := run?_cons.mp run
    obtain ⟨interrupts, onward⟩ := isUnabandoned_cons unabandoned stepped
    have here := begun_of_next? stepped interrupts buffer
    have later := ih (event.begun?.getD buffer) further onward
    have first : (event :: events).filterMap Event.begun? =
        event.begun?.toList ++ events.filterMap Event.begun? := by
      rw [List.filterMap_cons]
      cases event.begun? <;> rfl
    rw [returned, stepped, first, ← List.append_assoc, here, List.append_assoc, later,
      List.map_append]

/-- When all writes of a run have returned, what is recorded as sent are the buffers of those
    that succeeded and fronts of those that failed, one after the other, where such a front is made
    of whole pieces or is all of the buffer; every payload recorded has a size that a frame can
    carry; and every byte of a write that succeeded has been acknowledged, or handed to a
    connection by a sending that went through. A beginning of a run is a run, so this holds already
    when a write returns. -/
theorem writes_recorded (settings : RelaySettings) (sid : String) (events : List Event)
    (run : (start sid).run? settings events = some (s, log))
    (unabandoned : (start sid).isUnabandoned settings events = true) (idle : s.writing = none) :
    let d := Dispatch.ofLog log
    let calls := (start sid).returned settings [] events
    calls.map Prod.fst = events.filterMap Event.begun? ∧
      s.carrier.session.Balanced (recordings log).flatten d.transcript.acknowledged ∧
      (∀ payload ∈ recordings log, 0 < payload.length ∧ payload.length ≤ maxPayload) ∧
      (∀ part ∈ d.completed, part.2 <+: (recordings log).flatten.drop part.1) ∧
      ∃ parts, (recordings log).flatten = parts.flatten ∧ d.HonoursAll 0 calls parts := by
  intro d calls
  obtain ⟨⟨buffer, parts, part, books⟩, sizes⟩ := (Ledger.start sid).run run unabandoned
  have begun := begun_of_run? [] run unabandoned idle
  obtain ⟨-, -, rfl⟩ := books.stands.idle_of_writing idle
  have written := books.written
  rw [List.append_nil] at written
  rw [flatten_recordings]
  refine ⟨begun.symm, books.tracks.agrees.books, sizes, ?_, parts, written, books.honoured⟩
  intro part member
  exact books.tracks.genuine part (List.mem_append_left _ member)

/-- A write whose sending fails goes through when the session is resumed with a part of it
    acknowledged; the next one is lost with the session, which the relay resumes with a wrong
    count. -/
theorem writes_recorded_replayed :
    let events : List Event :=
      [.uses (.beginWrite [1, 2, 3]), .uses .goOnWriting, .happens (.write 0 [1, 2, 3]),
        .happens (.sendFailed (.transport "reset")), .happens (.resumed 1), .happens .sent,
        .uses .goOnWriting, .uses (.beginWrite [4, 5]), .uses .goOnWriting,
        .happens (.write 1 [4, 5]), .happens (.sendFailed (.transport "reset")),
        .happens (.resumed 9), .happens .closeOver, .uses .goOnWriting]
    let calls : List (Bytes × Except RelayError Unit) :=
      [([1, 2, 3], .ok ()), ([4, 5], .error (.protocolViolation (.ackOutsideWindow 9 1 5)))]
    ∃ s log, (start "s").run? {} events = some (s, log) ∧ s.writing = none ∧
      recordings log = [[1, 2, 3], [4, 5]] ∧ (Dispatch.ofLog log).completed = [(1, [2, 3])] ∧
      ∃ parts, (recordings log).flatten = parts.flatten ∧
        (Dispatch.ofLog log).HonoursAll 0 calls parts := by
  intro events calls
  have ran : ((start "s").run? {} events).any (fun r =>
      r.1.writing = none ∧ recordings r.2 = [[1, 2, 3], [4, 5]] ∧
        (Dispatch.ofLog r.2).completed = [(1, [2, 3])]) = true := by
    decide +kernel
  obtain ⟨⟨s, log⟩, run, found⟩ := (Option.any_eq_true ..).mp ran
  obtain ⟨idle, recorded, completed⟩ := of_decide_eq_true found
  have returns : (start "s").returned {} [] events = calls := by decide +kernel
  have promised := writes_recorded {} "s" events run (by decide +kernel) idle
  rw [returns] at promised
  exact ⟨s, log, run, idle, recorded, completed, promised.2.2.2.2⟩

end Stream

end RelayTunnel
