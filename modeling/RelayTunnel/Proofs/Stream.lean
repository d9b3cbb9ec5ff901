import RelayTunnel.Proofs.Carrier
import RelayTunnel.Stream

/-!
# What the halves of a stream can do

The carrier of a stream puts data into the reader's queue, and the reader takes it out
in the same order. Whatever else either half does leaves the queue and the session
alone, except that without a reader there is no queue.
-/

namespace RelayTunnel

/-- The data in what a read finds. -/
def ReadResult.payload : ReadResult → Bytes
  | .data payload => payload
  | .endOfFile | .failed _ => []

namespace Stream

variable {settings : RelaySettings} {s s' : Stream} {happening : Happening}
  {actions : List Action}

/-! ## Steps of the carrier -/

/-- An action changes at most the queues and the write. -/
theorem apply_frame (s : Stream) (action : Action) :
    s.apply action =
      { s with
        inbound := (s.apply action).inbound
        requests := (s.apply action).requests
        writing := (s.apply action).writing } := by
  cases action <;> rfl

theorem apply_inbound (s : Stream) (action : Action) :
    (s.apply action).inbound = s.inbound ++ action.delivery?.toList := by
  cases action <;> simp [apply, Action.delivery?]

theorem foldl_apply_frame (s : Stream) (actions : List Action) :
    actions.foldl apply s =
      { s with
        inbound := (actions.foldl apply s).inbound
        requests := (actions.foldl apply s).requests
        writing := (actions.foldl apply s).writing } := by
  induction actions generalizing s with
  | nil => rfl
  | cons action actions ih =>
    rw [List.foldl_cons, ih, apply_frame]

/-- What is delivered goes to the end of the queue. -/
theorem foldl_apply_inbound (s : Stream) (actions : List Action) :
    (actions.foldl apply s).inbound = s.inbound ++ actions.filterMap Action.delivery? := by
  induction actions generalizing s with
  | nil => simp
  | cons action actions ih =>
    rw [List.foldl_cons, ih, apply_inbound, List.append_assoc, List.filterMap_cons]
    cases action.delivery? <;> rfl

/-- A step of a stream is one of its carrier that the halves allow. -/
structure Moves (settings : RelaySettings) (s : Stream) (happening : Happening) (s' : Stream)
    (actions : List Action) : Prop where
  allowed : s.allows happening = true
  carrier : s.carrier.Step settings happening s'.carrier actions
  inbound : s'.inbound = s.inbound ++ actions.filterMap Action.delivery?
  readerOpen : s'.readerOpen = s.readerOpen
  writerOpen : s'.writerOpen = s.writerOpen
  closedLocally : s'.closedLocally = s.closedLocally

theorem moves_of_step? (h : s.step? settings happening = some (s', actions)) :
    s.Moves settings happening s' actions := by
  simp only [step?] at h
  split at h
  · rename_i allowed
    obtain ⟨move, moved, same⟩ := Option.map_eq_some_iff.mp h
    cases same
    exact {
      allowed
      carrier := by
        rw [foldl_apply_frame]
        exact Carrier.step_of_step? moved
      inbound := foldl_apply_inbound ..
      readerOpen := by rw [foldl_apply_frame]
      writerOpen := by rw [foldl_apply_frame]
      closedLocally := by rw [foldl_apply_frame] }
  · cases h

/-- There is room for data only where there is a reader. -/
theorem Moves.room_ne_false (h : s.Moves settings happening s' actions)
    (opened : s.readerOpen = true) : happening ≠ .room false := by
  rintro rfl
  have allowed := h.allowed
  simp [allows, opened] at allowed

/-! ## Reading -/

theorem flatten_dropWhile_isEmpty (payloads : List Bytes) :
    (payloads.dropWhile List.isEmpty).flatten = payloads.flatten := by
  induction payloads with
  | nil => rfl
  | cons payload payloads ih =>
    cases payload with
    | nil => simpa using ih
    | cons byte payload => rfl

theorem endOfStream_payload (s : Stream) : s.endOfStream.payload = [] := by
  unfold endOfStream
  repeat' split
  all_goals rfl

/-- A read changes the queue and nothing else. -/
theorem takeChunk?_frame {result : ReadResult} (h : s.takeChunk? = some (result, s')) :
    s' = { s with inbound := s'.inbound } := by
  unfold takeChunk? at h
  split at h
  · cases h
    rfl
  · split at h <;> cases h
    rfl

/-- A read takes the data that it finds from the front of the queue. -/
theorem takeChunk?_spec {result : ReadResult} (h : s.takeChunk? = some (result, s')) :
    s'.carrier = s.carrier ∧ s'.readerOpen = s.readerOpen ∧
      result.payload ++ s'.inbound.flatten = s.inbound.flatten := by
  have all := flatten_dropWhile_isEmpty s.inbound
  unfold takeChunk? at h
  split at h
  · rename_i payload rest found
    cases h
    rw [found] at all
    exact ⟨rfl, rfl, all⟩
  · rename_i found
    split at h <;> cases h
    rw [found] at all
    refine ⟨rfl, rfl, ?_⟩
    rw [endOfStream_payload]
    exact all

theorem endOfStream_ne_data (s : Stream) (payload : Bytes) : s.endOfStream ≠ .data payload := by
  unfold endOfStream
  repeat' split
  all_goals simp

/-- The data that a read finds is not empty. -/
theorem takeChunk?_data {payload : Bytes} (h : s.takeChunk? = some (.data payload, s')) :
    payload ≠ [] := by
  unfold takeChunk? at h
  split at h
  · rename_i found
    cases h
    have first := List.head?_dropWhile_not List.isEmpty s.inbound
    rw [found] at first
    simpa using first
  · simp only [Option.ite_none_right_eq_some, Option.some.injEq, Prod.mk.injEq] at h
    exact absurd h.2.1 (endOfStream_ne_data s payload)

/-- A read finds something else only behind all data. -/
theorem takeChunk?_end {result : ReadResult} (h : s.takeChunk? = some (result, s'))
    (nothing : ∀ payload, result ≠ .data payload) :
    s.inbound.flatten = [] ∧ result = s.endOfStream := by
  unfold takeChunk? at h
  split at h
  · cases h
    exact absurd rfl (nothing _)
  · rename_i found
    split at h <;> cases h
    rw [← flatten_dropWhile_isEmpty, found]
    exact ⟨rfl, rfl⟩

theorem takeChunk?_ne_none (stopped : s.isStopped = true) : s.takeChunk? ≠ none := by
  unfold takeChunk?
  split
  · exact Option.some_ne_none _
  · simp [stopped]

/-! ## Everything else that the halves do -/

/-- What is done with a stream from outside, apart from reading. -/
inductive Use where
  | beginWrite (buffer : Bytes)
  | goOnWriting
  | abortWrite
  | closeLocally
  | dropReader
  | dropWriter
  | cancel
  deriving DecidableEq, Repr

/-- The stream after a use of it. -/
def use (s : Stream) : Use → Stream
  | .beginWrite buffer => s.beginWrite buffer
  | .goOnWriting => s.goOnWriting.1
  | .abortWrite => s.abortWrite
  | .closeLocally => s.closeLocally
  | .dropReader => s.dropReader
  | .dropWriter => s.dropWriter
  | .cancel => s.cancel

/-- The carrier is at most told to end, the queue goes away only with the reader, and a half
    that is gone does not come back. -/
structure Spares (s s' : Stream) : Prop where
  carrier : s'.carrier = s.carrier ∨ s'.carrier = { s.carrier with cancelled := true }
  inbound : s'.readerOpen = true → s.readerOpen = true ∧ s'.inbound = s.inbound
  writerOpen : s'.writerOpen = true → s.writerOpen = true

namespace Spares

theorem session (h : s.Spares s') : s'.carrier.session = s.carrier.session := by
  rcases h.carrier with same | told
  · rw [same]
  · rw [told]

theorem pending (h : s.Spares s') : s'.carrier.pending = s.carrier.pending := by
  rcases h.carrier with same | told
  · rw [same]
  · rw [told]

theorem phase (h : s.Spares s') : s'.carrier.phase = s.carrier.phase := by
  rcases h.carrier with same | told
  · rw [same]
  · rw [told]

theorem state (h : s.Spares s') : s'.carrier.state = s.carrier.state := by
  rcases h.carrier with same | told
  · rw [same]
  · rw [told]

end Spares

/-- Going on with a write changes the write and the pieces that wait. -/
theorem goOnWriting_frame (s : Stream) :
    s.goOnWriting.1 =
      { s with
        writing := s.goOnWriting.1.writing
        requests := s.goOnWriting.1.requests
        numbered := s.goOnWriting.1.numbered } := by
  simp only [goOnWriting, enqueue, answerRefused]
  repeat' split
  all_goals rfl

theorem goOnWriting_spares (s : Stream) : s.Spares s.goOnWriting.1 := by
  rw [goOnWriting_frame]
  exact ⟨.inl rfl, fun opened => ⟨opened, rfl⟩, id⟩

theorem use_spares (s : Stream) (how : Use) : s.Spares (s.use how) := by
  cases how with
  | beginWrite buffer => exact ⟨.inl rfl, fun opened => ⟨opened, rfl⟩, id⟩
  | goOnWriting => exact goOnWriting_spares s
  | abortWrite => exact ⟨.inl rfl, fun opened => ⟨opened, rfl⟩, id⟩
  | closeLocally => exact ⟨.inr rfl, fun opened => ⟨opened, rfl⟩, id⟩
  | dropReader =>
    simp only [use, dropReader]
    split
    · exact ⟨.inl rfl, (fun opened => by cases opened), id⟩
    · exact ⟨.inr rfl, (fun opened => by cases opened), id⟩
  | dropWriter =>
    simp only [use, dropWriter]
    split
    · exact ⟨.inl rfl, fun opened => ⟨opened, rfl⟩, fun opened => by cases opened⟩
    · exact ⟨.inr rfl, fun opened => ⟨opened, rfl⟩, fun opened => by cases opened⟩
  | cancel => exact ⟨.inr rfl, fun opened => ⟨opened, rfl⟩, id⟩

/-! ## When the relay has closed the stream -/

/-- The relay has closed the stream, and all the data that it has sent before are in the
    reader's queue. -/
structure HasClosed (s : Stream) : Prop where
  ended : s.carrier.phase = .ended
  state : s.carrier.state = .closed
  free : s.carrier.pending = none

theorem HasClosed.congr (h : s.HasClosed) (same : s'.carrier = s.carrier) : s'.HasClosed := by
  constructor
  · rw [same]
    exact h.ended
  · rw [same]
    exact h.state
  · rw [same]
    exact h.free

/-- An orderly close leaves the stream so that was not told to end. -/
theorem step?_close {code : UInt16} {reason : String} {actions : List Action}
    (orderly : CloseDisposition.ofCode code = .orderly) (untold : s.carrier.cancelled = false)
    (h : s.step? settings (.arrival (.close code reason)) = some (s', actions)) :
    s'.HasClosed := by
  obtain ⟨-, stepped⟩ := Option.ite_none_right_eq_some.mp h
  obtain ⟨⟨c', did⟩, moved, same⟩ := Option.map_eq_some_iff.mp stepped
  obtain ⟨free, rfl⟩ := Carrier.step?_close orderly untold moved
  cases same
  rw [foldl_apply_frame]
  exact ⟨rfl, rfl, free⟩

/-- Nothing happens any more to the carrier of a stream that has stopped, but it can be told to
    end. -/
theorem step?_eq_none (stopped : s.isStopped = true) (other : happening ≠ .cancel) :
    s.step? settings happening = none := by
  simp [step?, Carrier.step?_ended (of_decide_eq_true stopped) other]

theorem HasClosed.isStopped (h : s.HasClosed) : s.isStopped = true := by
  simp [Stream.isStopped, h.ended]

theorem HasClosed.endOfStream (h : s.HasClosed) (unclosed : s.closedLocally = false) :
    s.endOfStream = .endOfFile := by
  simp [Stream.endOfStream, unclosed, h.state]

theorem HasClosed.closeLocally (h : s.HasClosed) : s.abortWrite.closeLocally.HasClosed :=
  ⟨h.ended, h.state, h.free⟩

/-- A write to a stream that the relay has closed is refused. -/
theorem goOnWriting_error {error : RelayError} (closed : s.carrier.state = .closed)
    (answer : s.goOnWriting.2 = some (.error error)) : error = .streamClosed := by
  have refused : s.writeError? = some .streamClosed := by simp [writeError?, closed]
  simp only [goOnWriting, enqueue, answerRefused, refused] at answer
  repeat' split at answer
  all_goals simp_all

/-- A write fails that way only where the stream was closed from this side, or has ended. -/
theorem ended_of_goOnWriting {error : RelayError} (unclosed : s.closedLocally = false)
    (answer : s.goOnWriting.2 = some (.error error)) :
    s.isStopped = true ∨ s.carrier.state.isTerminal = true := by
  have terminal (refused : s.answerRefused.2 = some (.error error)) :
      s.carrier.state.isTerminal = true := by
    simp only [answerRefused, writeError?, unclosed, Bool.false_eq_true, if_false] at refused
    cases state : s.carrier.state with
    | closed | failed => rfl
    | connected | reconnecting => simp [state] at refused
  simp only [goOnWriting, enqueue, unclosed, Bool.false_eq_true, if_false] at answer
  split at answer
  · cases answer
  · split at answer
    · cases answer
    · split at answer
      · rename_i stopped
        exact .inl stopped
      · split at answer <;> cases answer
  · split at answer <;> cases answer
  · cases answer
  · exact .inr (terminal answer)

/-! ## Runs -/

/-- Something that can happen to a stream. -/
inductive Event where
  /-- To its carrier. -/
  | happens (happening : Happening)
  /-- The reader reads. A read that is refused changes nothing and is left out. -/
  | reads (size : Nat)
  | uses (how : Use)
  deriving DecidableEq, Repr

/-- The stream after an event, and what its carrier did if it happened to that; `none` if the
    event cannot happen. -/
def next? (settings : RelaySettings) (s : Stream) :
    Event → Option (Stream × Option (Happening × List Action))
  | .happens happening =>
    (s.step? settings happening).map fun (s, actions) => (s, some (happening, actions))
  | .reads size =>
    if s.readerOpen ∧ s.readRefusal? size = none then
      s.takeChunk?.map fun (_, s) => (s, none)
    else none
  | .uses how => some (s.use how, none)

/-- The stream after a series of events, and what its carrier did about what happened to it;
    `none` if one of them cannot happen. -/
def run? (settings : RelaySettings) (s : Stream) :
    List Event → Option (Stream × List (Happening × List Action))
  | [] => some (s, [])
  | event :: events => do
    let (s', entry) ← s.next? settings event
    let (last, log) ← s'.run? settings events
    return (last, entry.toList ++ log)

/-- What an event can do: the carrier takes a step, or a half does something and the carrier
    is at most told to end. -/
theorem next?_cases {event : Event} {entry : Option (Happening × List Action)}
    (h : s.next? settings event = some (s', entry)) :
    (∃ happening actions, entry = some (happening, actions) ∧
        s.Moves settings happening s' actions) ∨
      entry = none ∧ (s' = { s with inbound := s'.inbound } ∨ ∃ how, s' = s.use how) := by
  cases event with
  | happens happening =>
    obtain ⟨⟨_, actions⟩, moved, same⟩ := Option.map_eq_some_iff.mp h
    cases same
    exact .inl ⟨happening, actions, rfl, moves_of_step? moved⟩
  | reads size =>
    simp only [next?] at h
    split at h
    · obtain ⟨⟨result, _⟩, taken, same⟩ := Option.map_eq_some_iff.mp h
      cases same
      exact .inr ⟨rfl, .inl (takeChunk?_frame taken)⟩
    · cases h
  | uses how =>
    cases h
    exact .inr ⟨rfl, .inr ⟨how, rfl⟩⟩

/-- What happens to a stream is a step of it. -/
theorem step?_of_next? {entry : Option (Happening × List Action)}
    (h : s.next? settings (.happens happening) = some (s', entry)) :
    ∃ actions, entry = some (happening, actions) ∧
      s.step? settings happening = some (s', actions) := by
  obtain ⟨⟨_, actions⟩, moved, same⟩ := Option.map_eq_some_iff.mp h
  cases same
  exact ⟨actions, rfl, moved⟩

/-- A read needs a reader and something to find. -/
theorem takeChunk?_of_next? {size : Nat} {entry : Option (Happening × List Action)}
    (h : s.next? settings (.reads size) = some (s', entry)) :
    s.readerOpen = true ∧ entry = none ∧ ∃ result, s.takeChunk? = some (result, s') := by
  simp only [next?] at h
  split at h
  · rename_i allowed
    obtain ⟨⟨result, _⟩, taken, same⟩ := Option.map_eq_some_iff.mp h
    cases same
    exact ⟨allowed.1, rfl, result, taken⟩
  · cases h

theorem run?_cons {event : Event} {events : List Event}
    {log : List (Happening × List Action)} :
    s.run? settings (event :: events) = some (s', log) ↔
      ∃ next entry rest, s.next? settings event = some (next, entry) ∧
        next.run? settings events = some (s', rest) ∧ log = entry.toList ++ rest := by
  simp only [run?, Option.bind_eq_bind, Option.bind_eq_some_iff, Prod.exists]
  constructor
  · rintro ⟨next, entry, stepped, last, rest, run, same⟩
    cases same
    exact ⟨next, entry, rest, stepped, run, rfl⟩
  · rintro ⟨next, entry, rest, stepped, run, rfl⟩
    exact ⟨next, entry, stepped, s', rest, run, rfl⟩

/-- What every event preserves of a stream and a record of its run, every run does. -/
theorem run?_invariant {Record : Type} {follow : Record → Happening × List Action → Record}
    {Inv : Stream → Record → Prop}
    (moves : ∀ s record happening s' actions, Inv s record →
      s.Moves settings happening s' actions → Inv s' (follow record (happening, actions)))
    (reads : ∀ s record inbound, Inv s record → Inv { s with inbound } record)
    (uses : ∀ s record how, Inv s record → Inv (s.use how) record)
    {events : List Event} {log : List (Happening × List Action)} {record : Record}
    (run : s.run? settings events = some (s', log)) (before : Inv s record) :
    Inv s' (log.foldl follow record) := by
  induction events generalizing s record log with
  | nil =>
    cases run
    exact before
  | cons event events ih =>
    obtain ⟨next, entry, rest, stepped, further, rfl⟩ := run?_cons.mp run
    rw [List.foldl_append]
    refine ih further ?_
    rcases next?_cases stepped with ⟨happening, actions, rfl, moved⟩ | ⟨rfl, read | ⟨how, rfl⟩⟩
    · exact moves _ _ _ _ _ before moved
    · rw [read]
      exact reads _ _ _ before
    · exact uses _ _ _ before

end Stream

end RelayTunnel
