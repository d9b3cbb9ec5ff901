import RelayTunnel.Listener
import RelayTunnel.Proofs.LifeCycle
import RelayTunnel.Proofs.Relaying

/-!
# What a client gets when the relay closes its stream

The relay may close a stream in an orderly way while data for the client waits in the
reader's queue and the client is still sending. From then on the loop from the stream only
empties the queue, but a write of the other loop is refused, and the first loop to end ends
the relaying. So nothing is lost as long as both loops go on, and a refused write can cut
off what has not been written by then.

A delivery is a relaying together with what its stream has brought and what it has done.
`Delivery.Settling` says what holds of it from the close on, which every step preserves.
-/

namespace RelayTunnel

/-! ## Deliveries -/

/-- A relaying, what its stream has brought, and what it has done. -/
structure Delivery where
  relaying : Relaying := {}
  /-- The bytes that the stream has brought, in order. -/
  brought : Bytes := []
  log : List RelayingAction := []

namespace Delivery

/-- The bytes that have gone to the client, in order. -/
def written (d : Delivery) : Bytes := d.log.flatMap RelayingAction.bytes

/-- The delivery after something has happened to the relaying and it has done something about
    it. -/
def after (d : Delivery) (happening : RelayingHappening) (move : Relaying.Move) : Delivery where
  relaying := move.1
  brought := d.brought ++ happening.brought
  log := d.log ++ move.2

/-- The delivery after something has happened; `none` if it cannot happen. -/
def step? (settings : RelaySettings) (d : Delivery) (happening : RelayingHappening) :
    Option Delivery :=
  (d.relaying.step? settings happening).map (d.after happening)

/-- The delivery after a series of happenings. -/
def run? (settings : RelaySettings) (d : Delivery) : List RelayingHappening → Option Delivery
  | [] => some d
  | happening :: happenings => (d.step? settings happening).bind (run? settings · happenings)

variable {settings : RelaySettings} {d d' : Delivery} {s s' : Stream} {up : Outbound}
  {down : Inbound} {happening : RelayingHappening} {happenings : List RelayingHappening}

theorem written_after (move : Relaying.Move) :
    (d.after happening move).written = d.written ++ move.2.flatMap RelayingAction.bytes :=
  List.flatMap_append

/-- While both loops are copying, the client has got what the stream has brought, apart from
    the rest of a piece, the reader's queue and the data without room there. -/
structure Intact (d : Delivery) (s : Stream) (down : Inbound) : Prop where
  stream : d.relaying.stream = some s
  readerOpen : s.readerOpen = true
  unclosed : s.closedLocally = false
  untold : s.carrier.cancelled = false
  lived : ∃ did, s.carrier.Lived did
  bytes : d.written ++ down.rest ++ s.inbound.flatten ++ s.carrier.pending.getD [] = d.brought
  piece : ∀ rest size, down = .client rest size → rest ≠ [] ∧ rest.length ≤ size
  sent : d.relaying.traffic.sent + UInt64.ofNat down.taken = UInt64.ofNat d.written.length
  unshut : .shutClient ∉ d.log

namespace Intact

theorem start (sid : String) :
    Intact { relaying := { stream := some (.start sid), phase := .copying .client .stream } }
      (.start sid) .stream where
  stream := rfl
  readerOpen := rfl
  unclosed := rfl
  untold := rfl
  lived := ⟨[], .start sid⟩
  bytes := rfl
  piece _ _ other := by cases other
  sent := rfl
  unshut member := by cases member

theorem written_in_order (h : d.Intact s down) : d.written <+: d.brought :=
  ⟨down.rest ++ s.inbound.flatten ++ s.carrier.pending.getD [], by
    rw [← h.bytes]
    simp only [List.append_assoc]⟩

/-- The carrier brings something and puts it into the queue. -/
theorem carried {happening : Happening} {actions : List Action} (h : d.Intact s down)
    (other : happening ≠ .cancel) (moved : s.step? settings happening = some (s', actions)) :
    Intact (d.after (.carrier happening) (d.relaying.withStream s', actions.map .carrier))
      s' down := by
  have moves := Stream.moves_of_step? moved
  have aside : (actions.map RelayingAction.carrier).flatMap RelayingAction.bytes = [] := by
    simp [List.flatMap_map, RelayingAction.bytes]
  have written : (d.after (.carrier happening)
      (d.relaying.withStream s', actions.map .carrier)).written = d.written := by
    rw [written_after, aside, List.append_nil]
  exact {
    stream := rfl
    readerOpen := moves.readerOpen.trans h.readerOpen
    unclosed := moves.closedLocally.trans h.unclosed
    untold := (moves.carrier.cancelled_eq other).trans h.untold
    lived := by
      obtain ⟨did, lived⟩ := h.lived
      exact ⟨_, lived.turn (Stream.turn_of_step? moved)⟩
    bytes := by
      rw [written, moves.inbound, List.flatten_append]
      have passed := moves.carrier.passesOn.bytes (moves.room_ne_false h.readerOpen)
      simp only [List.append_assoc] at passed ⊢
      rw [passed]
      simp only [after, RelayingHappening.brought, ← h.bytes, List.append_assoc]
    piece := h.piece
    sent := by
      rw [written]
      exact h.sent
    unshut := by simpa [after] using h.unshut }

/-- The loop to the stream goes on. -/
theorem upwards {phase : RelayingPhase} {traffic : ClientTraffic} (h : d.Intact s down)
    (quiet : happening.brought = [])
    (frame : s' = { s with
      requests := s'.requests
      numbered := s'.numbered
      writing := s'.writing })
    (sent : traffic.sent = d.relaying.traffic.sent) :
    Intact (d.after happening ({ d.relaying with stream := some s', traffic, phase }, []))
      s' down where
  stream := rfl
  readerOpen := by
    rw [frame]
    exact h.readerOpen
  unclosed := by
    rw [frame]
    exact h.unclosed
  untold := by
    rw [frame]
    exact h.untold
  lived := by
    rw [frame]
    exact h.lived
  bytes := by
    rw [frame]
    simpa [after, written, quiet] using h.bytes
  piece := h.piece
  sent := by simpa [after, written, sent] using h.sent
  unshut := by simpa [after] using h.unshut

/-- The loop from the stream has got a piece. -/
theorem read {payload : Bytes} (h : d.Intact s .stream)
    (found : s.takeChunk? = some (.data payload, s')) (phase : RelayingPhase) :
    Intact (d.after .goOnDown ({ d.relaying with stream := some s', phase }, []))
      s' (.client payload payload.length) := by
  obtain ⟨carrier, -, bytes⟩ := Stream.takeChunk?_spec found
  have frame := Stream.takeChunk?_frame found
  exact {
    stream := rfl
    readerOpen := by
      rw [frame]
      exact h.readerOpen
    unclosed := by
      rw [frame]
      exact h.unclosed
    untold := by
      rw [carrier]
      exact h.untold
    lived := by
      rw [carrier]
      exact h.lived
    bytes := by
      have all := h.bytes
      rw [← bytes, ← carrier] at all
      simpa [after, written, Inbound.rest, RelayingHappening.brought, ReadResult.payload] using all
    piece := fun rest size same => by
      cases same
      exact ⟨Stream.takeChunk?_data found, Nat.le_refl _⟩
    sent := by simpa [after, written, Inbound.taken] using h.sent
    unshut := by simpa [after] using h.unshut }

/-- The client takes bytes of a piece. -/
theorem took {rest bytes : Bytes} {size count : Nat} {traffic : ClientTraffic}
    {phase : RelayingPhase} (h : d.Intact s (.client rest size))
    (split : bytes ++ down.rest = rest)
    (piece : ∀ rest size, down = .client rest size → rest ≠ [] ∧ rest.length ≤ size)
    (sent : traffic.sent + UInt64.ofNat down.taken =
      d.relaying.traffic.sent + UInt64.ofNat (size - rest.length + bytes.length)) :
    Intact (d.after (.clientTook count)
      ({ d.relaying with traffic, phase }, [.toClient bytes])) s down where
  stream := h.stream
  readerOpen := h.readerOpen
  unclosed := h.unclosed
  untold := h.untold
  lived := h.lived
  bytes := by
    have all : d.written ++ rest ++ _ ++ _ = d.brought := h.bytes
    rw [← split] at all
    simpa [after, written, RelayingHappening.brought, RelayingAction.bytes] using all
  piece := piece
  sent := by
    have before : _ + UInt64.ofNat (size - rest.length) = _ := h.sent
    rw [written_after, List.length_append, UInt64.ofNat_add, ← before]
    simpa [after, RelayingAction.bytes, UInt64.add_assoc] using sent
  unshut := by simpa [after] using h.unshut

/-- The client takes a part of a piece. -/
theorem tookPart {rest : Bytes} {size count : Nat} {phase : RelayingPhase}
    (h : d.Intact s (.client rest size)) (part : count < rest.length) :
    Intact (d.after (.clientTook count) ({ d.relaying with phase }, [.toClient (rest.take count)]))
      s (.client (rest.drop count) size) := by
  have few := (h.piece rest size rfl).2
  have left : (rest.drop count).length = rest.length - count := List.length_drop
  refine h.took (List.take_append_drop ..) ?_ ?_
  · intro _ _ same
    cases same
    exact ⟨by simpa using part, by omega⟩
  · have taken :
        size - (rest.drop count).length = size - rest.length + (rest.take count).length := by
      rw [List.length_take_of_le (Nat.le_of_lt part)]
      omega
    rw [Inbound.taken, taken]

/-- The client takes the rest of a piece. -/
theorem tookAll {rest : Bytes} {size : Nat} {phase : RelayingPhase}
    (h : d.Intact s (.client rest size)) :
    Intact (d.after (.clientTook rest.length)
      ({ d.relaying with traffic := d.relaying.traffic.recordSent size, phase },
        [.toClient rest])) s .stream := by
  have few := (h.piece rest size rfl).2
  refine h.took (List.append_nil rest) (fun _ _ same => by cases same) ?_
  rw [Nat.sub_add_cancel few]
  exact UInt64.add_zero _

/-- When a write is refused the stream has stopped. -/
theorem stopped_of_refused {error : RelayError} (h : d.Intact s down)
    (answer : s.goOnWriting.2 = some (.error error)) : s.isStopped = true := by
  obtain ⟨did, lived⟩ := h.lived
  rcases Stream.ended_of_goOnWriting h.unclosed answer with stopped | terminal
  · exact stopped
  · exact Stream.isStopped_iff.mpr (lived.ended_of_isTerminal terminal)

end Intact

/-! ## Until the relay closes the stream -/

/-- What holds before the relay closes the stream, as long as nobody disturbs the relaying. -/
structure Undisturbed (d : Delivery) : Prop where
  untold : d.relaying.cancelled = false
  fresh : d.relaying.phase = .opening → d = {}
  intact : ∀ up down, d.relaying.phase = .copying up down → ∃ s, d.Intact s down
  /-- A stream that is being closed has ended before. -/
  closing : ∀ result, d.relaying.phase = .closing result →
    ∃ s, d.relaying.stream = some s ∧ s.isStopped = true

namespace Undisturbed

theorem start : Undisturbed {} where
  untold := rfl
  fresh _ := rfl
  intact _ _ phase := by cases phase
  closing _ phase := by cases phase

theorem of_copying (untold : d.relaying.cancelled = false)
    (phase : d.relaying.phase = .copying up down) (intact : d.Intact s down) : d.Undisturbed where
  untold := untold
  fresh opening := by cases phase.symm.trans opening
  intact _ _ copying := by
    cases phase.symm.trans copying
    exact ⟨s, intact⟩
  closing _ closing := by cases phase.symm.trans closing

theorem of_closing {result : Except SessionError Unit} (untold : d.relaying.cancelled = false)
    (phase : d.relaying.phase = .closing result) (stream : d.relaying.stream = some s)
    (stopped : s.isStopped = true) : d.Undisturbed where
  untold := untold
  fresh opening := by cases phase.symm.trans opening
  intact _ _ copying := by cases phase.symm.trans copying
  closing _ _ := ⟨s, stream, stopped⟩

theorem of_ended {result : Except SessionError ClientTraffic}
    (untold : d.relaying.cancelled = false) (phase : d.relaying.phase = .ended result) :
    d.Undisturbed where
  untold := untold
  fresh opening := by cases phase.symm.trans opening
  intact _ _ copying := by cases phase.symm.trans copying
  closing _ closing := by cases phase.symm.trans closing

theorem step (h : d.Undisturbed) (undisturbed : happening.isDisturbance = false)
    (stepped : d.step? settings happening = some d') : d'.Undisturbed := by
  obtain ⟨⟨r', actions⟩, moved, rfl⟩ := Option.map_eq_some_iff.mp stepped
  cases phase : d.relaying.phase with
  | opening =>
    obtain rfl := h.fresh phase
    cases happening with
    | cancel => cases undisturbed
    | opened sid =>
      cases moved
      exact of_copying rfl rfl (.start sid)
    | openFailed error =>
      cases moved
      exact of_ended rfl rfl
    | _ => simp [Relaying.step?] at moved
  | copying up down =>
    obtain ⟨s, intact⟩ := h.intact up down phase
    cases Relaying.copies_of_step? phase intact.stream h.untold undisturbed moved with
    | carried goesOn =>
      exact of_copying h.untold phase
        (intact.carried (RelayingHappening.ne_cancel undisturbed) goesOn)
    | sent => exact of_copying h.untold rfl (intact.upwards rfl rfl rfl)
    | wrote up => exact of_copying h.untold rfl (intact.upwards rfl s.goOnWriting_frame rfl)
    | refused answer =>
      have stopped := intact.stopped_of_refused answer
      refine of_closing h.untold rfl rfl ?_
      rwa [s.goOnWriting_frame]
    | finished found nothing =>
      have stopped := Stream.isStopped_of_takeChunk? found nothing
      refine of_closing h.untold rfl rfl ?_
      rwa [Stream.takeChunk?_frame found]
    | read found => exact of_copying h.untold rfl (intact.read found _)
    | tookPart positive part => exact of_copying h.untold rfl (intact.tookPart part)
    | tookAll => exact of_copying h.untold rfl intact.tookAll
  | closing result =>
    obtain ⟨s, stream, stopped⟩ := h.closing result phase
    rcases Relaying.closing_of_step? phase stream undisturbed moved with
      ⟨happening, s', did, rfl, goesOn, rfl, rfl⟩ | ⟨rfl, rfl, rfl⟩
    · rw [Stream.step?_eq_none stopped (RelayingHappening.ne_cancel undisturbed)] at goesOn
      cases goesOn
    · exact of_ended h.untold rfl
  | ended result =>
    rw [Relaying.step?_ended phase undisturbed] at moved
    cases moved

end Undisturbed

/-! ## From then on -/

/-- Whether the loop to the stream writes from a moment on: a write is under way, or the client
    sends something later. -/
def Writes (d : Delivery) (later : List RelayingHappening) : Prop :=
  (∃ down, d.relaying.phase = .copying .stream down) ∨ ∃ bytes, .clientSent bytes ∈ later

variable {opened : Delivery} {later : List RelayingHappening}

/-- How a loop ends after the relay has closed the stream of `opened`: either the client has got
    everything, or a write to the stream was refused before. -/
inductive Outcome (opened : Delivery) (later : List RelayingHappening) (d : Delivery) :
    Except SessionError Unit → Prop
  | whole (written : d.written = opened.brought)
    (sent : d.relaying.traffic.sent = UInt64.ofNat opened.brought.length) :
    Outcome opened later d (.ok ())
  | cut (written : d.written <+: opened.brought) (writes : opened.Writes later)
    (refused : .goOnUp ∈ later) : Outcome opened later d (.error (.relay .streamClosed))

/-- What holds of a delivery from the moment on at which the relay has closed the stream of
    `opened`, if nothing happens but what is in `later`. -/
structure Settling (opened : Delivery) (later : List RelayingHappening) (d : Delivery) : Prop where
  untold : d.relaying.cancelled = false
  brought : d.brought = opened.brought
  begun : d.relaying.phase ≠ .opening
  copying : ∀ up down, d.relaying.phase = .copying up down →
    ∃ s, d.Intact s down ∧ s.HasClosed ∧ (up = .stream → opened.Writes later)
  closing : ∀ result, d.relaying.phase = .closing result →
    (∃ s, d.relaying.stream = some s ∧ s.HasClosed) ∧ .shutClient ∉ d.log ∧
      opened.Outcome later d result
  ended : ∀ result, d.relaying.phase = .ended result →
    ∃ first front, d.log = front ++ [.shutClient] ∧ .shutClient ∉ front ∧
      result = Relaying.verdict d.relaying.traffic first ∧ opened.Outcome later d first

namespace Outcome

/-- Nothing more goes to the client. -/
theorem congr {result : Except SessionError Unit} (h : opened.Outcome later d result)
    (written : d'.written = d.written) (traffic : d'.relaying.traffic = d.relaying.traffic) :
    opened.Outcome later d' result := by
  cases h with
  | whole all sent => exact .whole (written.trans all) (traffic ▸ sent)
  | cut front writes refused => exact .cut (written ▸ front) writes refused

theorem written_in_order {result : Except SessionError Unit} (h : opened.Outcome later d result) :
    d.written <+: opened.brought := by
  cases h with
  | whole all => exact all ▸ List.prefix_rfl
  | cut front => exact front

end Outcome

/-- At the end of the stream the client has got everything. -/
theorem Intact.whole (h : d.Intact s .stream) (brought : d.brought = opened.brought)
    (closed : s.HasClosed) (empty : s.inbound.flatten = []) :
    opened.Outcome later d (.ok ()) := by
  have all : d.written = opened.brought := by
    simpa [Inbound.rest, empty, closed.free, brought] using h.bytes
  have sent : d.relaying.traffic.sent + 0 = UInt64.ofNat d.written.length := h.sent
  rw [UInt64.add_zero, all] at sent
  exact .whole all sent

namespace Settling

theorem of_copying (untold : d.relaying.cancelled = false) (brought : d.brought = opened.brought)
    (phase : d.relaying.phase = .copying up down) (intact : d.Intact s down)
    (closed : s.HasClosed) (writing : up = .stream → opened.Writes later) :
    opened.Settling later d where
  untold := untold
  brought := brought
  begun opening := by cases phase.symm.trans opening
  copying _ _ copying := by
    cases phase.symm.trans copying
    exact ⟨s, intact, closed, writing⟩
  closing _ closing := by cases phase.symm.trans closing
  ended _ ended := by cases phase.symm.trans ended

theorem of_closing {result : Except SessionError Unit} (untold : d.relaying.cancelled = false)
    (brought : d.brought = opened.brought) (phase : d.relaying.phase = .closing result)
    (stream : d.relaying.stream = some s) (closed : s.HasClosed) (unshut : .shutClient ∉ d.log)
    (outcome : opened.Outcome later d result) : opened.Settling later d where
  untold := untold
  brought := brought
  begun opening := by cases phase.symm.trans opening
  copying _ _ copying := by cases phase.symm.trans copying
  closing _ closing := by
    cases phase.symm.trans closing
    exact ⟨⟨s, stream, closed⟩, unshut, outcome⟩
  ended _ ended := by cases phase.symm.trans ended

theorem of_ended {result : Except SessionError Unit} {front : List RelayingAction}
    (untold : d.relaying.cancelled = false) (brought : d.brought = opened.brought)
    (phase : d.relaying.phase = .ended (Relaying.verdict d.relaying.traffic result))
    (log : d.log = front ++ [.shutClient]) (unshut : .shutClient ∉ front)
    (outcome : opened.Outcome later d result) : opened.Settling later d where
  untold := untold
  brought := brought
  begun opening := by cases phase.symm.trans opening
  copying _ _ copying := by cases phase.symm.trans copying
  closing _ closing := by cases phase.symm.trans closing
  ended _ ended := by
    cases phase.symm.trans ended
    exact ⟨result, front, log, unshut, rfl, outcome⟩

/-- Nothing arrives any more. -/
theorem brought_after (h : opened.Settling later d) (quiet : happening.brought = [])
    (move : Relaying.Move) : (d.after happening move).brought = opened.brought := by
  simp [after, quiet, h.brought]

/-- What one step preserves. -/
theorem step (h : opened.Settling later d) (undisturbed : happening.isDisturbance = false)
    (member : happening ∈ later) (stepped : d.step? settings happening = some d') :
    opened.Settling later d' := by
  obtain ⟨⟨r', actions⟩, moved, rfl⟩ := Option.map_eq_some_iff.mp stepped
  cases phase : d.relaying.phase with
  | opening => exact absurd phase h.begun
  | copying up down =>
    obtain ⟨s, intact, closed, writing⟩ := h.copying up down phase
    have unshut : .shutClient ∉ d.log ++ [] := by simpa using intact.unshut
    cases Relaying.copies_of_step? phase intact.stream h.untold undisturbed moved with
    | carried goesOn =>
      rw [Stream.step?_eq_none closed.isStopped (RelayingHappening.ne_cancel undisturbed)] at goesOn
      cases goesOn
    | @sent _ bytes =>
      exact of_copying h.untold (h.brought_after rfl _) rfl (intact.upwards rfl rfl rfl)
        (closed.congr rfl) fun _ => .inr ⟨bytes, member⟩
    | wrote up =>
      exact of_copying h.untold (h.brought_after rfl _) rfl
        (intact.upwards rfl s.goOnWriting_frame rfl)
        (closed.congr (by rw [s.goOnWriting_frame])) fun _ => writing rfl
    | refused answer =>
      obtain rfl := Stream.goOnWriting_error closed.state answer
      have closed : s.goOnWriting.1.HasClosed := closed.congr (by rw [s.goOnWriting_frame])
      have outcome : opened.Outcome later d (.error (.relay .streamClosed)) :=
        .cut (h.brought ▸ intact.written_in_order) (writing rfl) member
      exact of_closing h.untold (h.brought_after rfl _) rfl rfl closed.closeLocally unshut
        (outcome.congr (by simp [written_after]) rfl)
    | read found =>
      exact of_copying h.untold (h.brought_after rfl _) rfl (intact.read found _)
        (closed.congr (Stream.takeChunk?_spec found).1) writing
    | finished found nothing ends =>
      obtain ⟨empty, last⟩ := Stream.takeChunk?_end found nothing
      obtain rfl := ends (last.trans (closed.endOfStream intact.unclosed))
      have whole : opened.Outcome later d (.ok ()) := intact.whole h.brought closed empty
      have closed := closed.congr (Stream.takeChunk?_spec found).1
      exact of_closing h.untold (h.brought_after rfl _) rfl rfl closed.closeLocally unshut
        (whole.congr (by simp [written_after]) rfl)
    | tookPart positive part =>
      exact of_copying h.untold (h.brought_after rfl _) rfl (intact.tookPart part) closed writing
    | tookAll =>
      exact of_copying h.untold (h.brought_after rfl _) rfl intact.tookAll closed writing
  | closing result =>
    obtain ⟨⟨s, stream, closed⟩, unshut, outcome⟩ := h.closing result phase
    rcases Relaying.closing_of_step? phase stream undisturbed moved with
      ⟨other, s', did, rfl, goesOn, rfl, rfl⟩ | ⟨rfl, rfl, rfl⟩
    · rw [Stream.step?_eq_none closed.isStopped (RelayingHappening.ne_cancel undisturbed)] at goesOn
      cases goesOn
    · exact of_ended h.untold (h.brought_after rfl _) rfl rfl unshut
        (outcome.congr (by simp [written_after, RelayingAction.bytes]) rfl)
  | ended result =>
    rw [Relaying.step?_ended phase undisturbed] at moved
    cases moved

/-- What has gone to the client is in order. -/
theorem written_in_order (h : opened.Settling later d) : d.written <+: opened.brought := by
  cases phase : d.relaying.phase with
  | opening => exact absurd phase h.begun
  | copying up down =>
    obtain ⟨s, intact, -⟩ := h.copying up down phase
    exact h.brought ▸ intact.written_in_order
  | closing result => exact (h.closing result phase).2.2.written_in_order
  | ended result =>
    obtain ⟨first, -, -, -, -, outcome⟩ := h.ended result phase
    exact outcome.written_in_order

/-- Until its end a relaying does not wait for anything else, and the client can still get
    more. -/
theorem goes_on (h : opened.Settling later d)
    (unended : ∀ result, d.relaying.phase ≠ .ended result) :
    .shutClient ∉ d.log ∧
      ∃ happening, happening.isProgress = true ∧ d.step? settings happening ≠ none := by
  cases phase : d.relaying.phase with
  | opening => exact absurd phase h.begun
  | copying up down =>
    obtain ⟨s, intact, closed, -⟩ := h.copying up down phase
    refine ⟨intact.unshut, ?_⟩
    cases down with
    | stream =>
      refine ⟨.goOnDown, rfl, ?_⟩
      have found := Stream.takeChunk?_ne_none closed.isStopped
      simpa [step?, Relaying.step?, phase, intact.stream, Relaying.goOnDown] using found
    | client rest size =>
      refine ⟨.clientTook rest.length, rfl, ?_⟩
      have some := (intact.piece rest size rfl).1
      simp [step?, Relaying.step?, phase, some]
  | closing result =>
    obtain ⟨⟨s, stream, closed⟩, unshut, -⟩ := h.closing result phase
    refine ⟨unshut, .streamEnded, rfl, ?_⟩
    simp [step?, Relaying.step?, phase, stream, closed.state, StreamState.isTerminal]
  | ended result => exact absurd phase (unended result)

end Settling

/-- How often at most a relaying whose stream the relay has closed goes on towards its end:
    with each piece of the queue and with each byte, and twice at the end. -/
def remaining (d : Delivery) : Nat :=
  match d.relaying.phase, d.relaying.stream with
  | .copying _ down, some s => 2 * s.inbound.flatten.length + down.rest.length + 2
  | .closing _, _ => 1
  | _, _ => 0

theorem Intact.remaining_le (h : d.Intact s down) (phase : d.relaying.phase = .copying up down) :
    d.remaining ≤ 2 * d.brought.length + 2 := by
  have bytes := congrArg List.length h.bytes
  simp only [List.length_append] at bytes
  simp only [remaining, phase, h.stream]
  omega

namespace Settling

/-- Every step on the way shortens it, and no step prolongs it. -/
theorem remaining_step (h : opened.Settling later d)
    (undisturbed : happening.isDisturbance = false)
    (stepped : d.step? settings happening = some d') :
    happening.isProgress.toNat + d'.remaining ≤ d.remaining := by
  obtain ⟨⟨r', actions⟩, moved, rfl⟩ := Option.map_eq_some_iff.mp stepped
  cases phase : d.relaying.phase with
  | opening => exact absurd phase h.begun
  | copying up down =>
    obtain ⟨s, intact, closed, -⟩ := h.copying up down phase
    have whole : d.remaining = 2 * s.inbound.flatten.length + down.rest.length + 2 := by
      simp [remaining, phase, intact.stream]
    rw [whole]
    cases Relaying.copies_of_step? phase intact.stream h.untold undisturbed moved with
    | carried goesOn =>
      rw [Stream.step?_eq_none closed.isStopped (RelayingHappening.ne_cancel undisturbed)] at goesOn
      cases goesOn
    | sent => exact Nat.le_of_eq (Nat.zero_add _)
    | wrote up =>
      have inbound : s.goOnWriting.1.inbound = s.inbound := by rw [s.goOnWriting_frame]
      simp [RelayingHappening.isProgress, remaining, after, inbound]
    | refused => simp [RelayingHappening.isProgress, remaining, after, Relaying.finish]
    | read found =>
      have bytes := congrArg List.length (Stream.takeChunk?_spec found).2.2
      have some := List.length_pos_iff.mpr (Stream.takeChunk?_data found)
      simp only [ReadResult.payload, List.length_append] at bytes
      simp only [RelayingHappening.isProgress, remaining, after, Inbound.rest, Bool.toNat_true,
        List.length_nil]
      omega
    | finished => simp [RelayingHappening.isProgress, remaining, after, Relaying.finish]
    | tookPart positive part =>
      simp only [RelayingHappening.isProgress, remaining, after, intact.stream, Inbound.rest,
        Bool.toNat_true, List.length_drop]
      omega
    | @tookAll _ rest size =>
      have some := List.length_pos_iff.mpr (intact.piece rest size rfl).1
      simp only [RelayingHappening.isProgress, remaining, after, intact.stream, Inbound.rest,
        Bool.toNat_true, List.length_nil]
      omega
  | closing result =>
    obtain ⟨⟨s, stream, closed⟩, -⟩ := h.closing result phase
    rcases Relaying.closing_of_step? phase stream undisturbed moved with
      ⟨other, s', did, rfl, goesOn, rfl, rfl⟩ | ⟨rfl, rfl, rfl⟩
    · rw [Stream.step?_eq_none closed.isStopped (RelayingHappening.ne_cancel undisturbed)] at goesOn
      cases goesOn
    · simp [RelayingHappening.isProgress, remaining, after, phase]
  | ended result =>
    rw [Relaying.step?_ended phase undisturbed] at moved
    cases moved

end Settling

/-! ## Whole runs -/

theorem run?_cons :
    d.run? settings (happening :: happenings) = some d' ↔
      ∃ next, d.step? settings happening = some next ∧ next.run? settings happenings = some d' :=
  Option.bind_eq_some_iff

theorem Undisturbed.run (h : d.Undisturbed)
    (undisturbed : ∀ happening ∈ happenings, happening.isDisturbance = false)
    (run : d.run? settings happenings = some d') : d'.Undisturbed := by
  induction happenings generalizing d with
  | nil =>
    cases run
    exact h
  | cons happening happenings ih =>
    obtain ⟨next, stepped, run⟩ := run?_cons.mp run
    rw [List.forall_mem_cons] at undisturbed
    exact ih (h.step undisturbed.1 stepped) undisturbed.2 run

/-- The relay closes the stream in an orderly way. -/
theorem Undisturbed.close {code : UInt16} {reason : String} (h : opened.Undisturbed)
    (orderly : CloseDisposition.ofCode code = .orderly)
    (closes : opened.step? settings (.carrier (.arrival (.close code reason))) = some d) :
    opened.Settling later d ∧ d.remaining ≤ 2 * opened.brought.length + 2 := by
  obtain ⟨⟨r', actions⟩, moved, rfl⟩ := Option.map_eq_some_iff.mp closes
  have nothing (move : Relaying.Move) : (opened.after (.carrier (.arrival (.close code reason)))
      move).brought = opened.brought := List.append_nil _
  cases phase : opened.relaying.phase with
  | opening =>
    obtain rfl := h.fresh phase
    cases moved
  | copying up down =>
    obtain ⟨s, intact⟩ := h.intact up down phase
    cases Relaying.copies_of_step? phase intact.stream h.untold rfl moved with
    | carried arrives =>
      have closed := Stream.step?_close orderly intact.untold arrives
      have intact := intact.carried (by simp) arrives
      refine ⟨.of_copying h.untold (nothing _) phase intact closed fun same => ?_, ?_⟩
      · exact .inl ⟨down, same ▸ phase⟩
      · have few := intact.remaining_le phase
        rwa [nothing] at few
  | closing result =>
    obtain ⟨s, stream, stopped⟩ := h.closing result phase
    rcases Relaying.closing_of_step? phase stream rfl moved with
      ⟨happening, s', did, same, arrives, -, -⟩ | ⟨other, -, -⟩
    · cases same
      rw [Stream.step?_eq_none stopped (by simp)] at arrives
      cases arrives
    · cases other
  | ended result =>
    rw [Relaying.step?_ended phase rfl] at moved
    cases moved

/-- What every step preserves, a run does, and it is not longer than what remains. -/
theorem Settling.run (h : opened.Settling later d)
    (undisturbed : ∀ happening ∈ happenings, happening.isDisturbance = false)
    (members : ∀ happening ∈ happenings, happening ∈ later)
    (run : d.run? settings happenings = some d') :
    opened.Settling later d' ∧
      happenings.countP RelayingHappening.isProgress + d'.remaining ≤ d.remaining := by
  induction happenings generalizing d with
  | nil =>
    cases run
    exact ⟨h, Nat.le_of_eq (Nat.zero_add _)⟩
  | cons happening happenings ih =>
    obtain ⟨next, stepped, run⟩ := run?_cons.mp run
    rw [List.forall_mem_cons] at undisturbed members
    have first := h.remaining_step undisturbed.1 stepped
    obtain ⟨last, rest⟩ :=
      ih (h.step undisturbed.1 members.1 stepped) undisturbed.2 members.2 run
    refine ⟨last, ?_⟩
    have counted : (if happening.isProgress = true then 1 else 0) = happening.isProgress.toNat := by
      cases happening.isProgress <;> rfl
    rw [List.countP_cons, counted]
    omega

/-- The relay closes a stream in an orderly way, and nobody tells the tunnel to stop or takes
    the client away. Then the client gets nothing but the bytes that the stream has brought, in
    order; after at most two steps for each of these bytes, and two more, the relaying has
    ended, and until then the client can get more; and the last thing of all is that the client
    is told that nothing follows. By then it has got every byte and the session is reported as
    closed, unless a write to the stream has been refused, which was under way at the close or
    was begun by something that the client sent later. -/
theorem closed_stream_delivered (settings : RelaySettings) (before after : List RelayingHappening)
    (code : UInt16) (reason : String) (opened closed last : Delivery)
    (orderly : CloseDisposition.ofCode code = .orderly)
    (undisturbed : ∀ happening ∈ before ++ after, happening.isDisturbance = false)
    (first : run? settings {} before = some opened)
    (closes : opened.step? settings (.carrier (.arrival (.close code reason))) = some closed)
    (rest : closed.run? settings after = some last) :
    last.brought = opened.brought ∧
      last.written <+: opened.brought ∧
      after.countP RelayingHappening.isProgress ≤ 2 * opened.brought.length + 2 ∧
      ((∀ result, last.relaying.phase ≠ .ended result) →
        .shutClient ∉ last.log ∧
          ∃ happening, happening.isProgress = true ∧ last.step? settings happening ≠ none) ∧
      ∀ result, last.relaying.phase = .ended result →
        (∃ front, last.log = front ++ [.shutClient] ∧ .shutClient ∉ front) ∧
          (last.written = opened.brought ∧
              (∃ received, ∀ id client, Listener.reportEnd id client result =
                [.publish
                  (.sessionClosed id client (UInt64.ofNat opened.brought.length) received)]) ∨
            result = .error (.relay .streamClosed) ∧ opened.Writes after ∧ .goOnUp ∈ after) := by
  rw [List.forall_mem_append] at undisturbed
  have calm : opened.Undisturbed := Undisturbed.start.run undisturbed.1 first
  obtain ⟨settling, few⟩ := calm.close orderly closes
  obtain ⟨settled, steps⟩ := settling.run undisturbed.2 (fun _ member => member) rest
  refine ⟨settled.brought, settled.written_in_order, by omega, settled.goes_on, ?_⟩
  intro result ended
  obtain ⟨verdict, front, log, unshut, rfl, outcome⟩ := settled.ended result ended
  refine ⟨⟨front, log, unshut⟩, ?_⟩
  cases outcome with
  | whole written sent =>
    refine .inl ⟨written, last.relaying.traffic.received, fun id client => ?_⟩
    rw [← sent]
    rfl
  | cut written writes refused => exact .inr ⟨rfl, writes, refused⟩

/-- The client gets two bytes one by one although it is sending when the relay closes the
    stream: the loop to the stream does not go on any more before the end. -/
theorem closed_stream_delivered_while_sending :
    let before : List RelayingHappening :=
      [.opened "s", .carrier (.arrival (.message [0, 4, 0, 0, 0, 2, 1, 2])), .carrier (.room true),
        .clientSent [7], .goOnUp]
    let after : List RelayingHappening :=
      [.goOnDown, .clientTook 1, .clientTook 1, .goOnDown, .streamEnded]
    ∃ opened closed last, run? {} {} before = some opened ∧
      opened.step? {} (.carrier (.arrival (.close 1000 ""))) = some closed ∧
      closed.run? {} after = some last ∧
      (∃ traffic, last.relaying.phase = .ended (.ok traffic)) ∧
      opened.brought = [1, 2] ∧ last.written = [1, 2] := by
  intro before after
  obtain ⟨opened, closed, last, first, closes, rest, brought, traffic, ended⟩ :
      ∃ opened closed last, run? {} {} before = some opened ∧
        opened.step? {} (.carrier (.arrival (.close 1000 ""))) = some closed ∧
        closed.run? {} after = some last ∧ opened.brought = [1, 2] ∧
        ∃ traffic, last.relaying.phase = .ended (.ok traffic) :=
    ⟨_, _, _, rfl, rfl, rfl, rfl, _, rfl⟩
  have delivered := closed_stream_delivered {} before after 1000 "" opened closed last (by decide)
    (by decide) first closes rest
  obtain ⟨written, -⟩ | ⟨lost, -⟩ := (delivered.2.2.2.2 _ ended).2
  · exact ⟨opened, closed, last, first, closes, rest, ⟨traffic, ended⟩, brought,
      written.trans brought⟩
  · cases lost

/-- The same two bytes are lost, and the session fails, when the client sends something and
    the loop to the stream goes on first. -/
theorem refused_write_cuts_off :
    let before : List RelayingHappening :=
      [.opened "s", .carrier (.arrival (.message [0, 4, 0, 0, 0, 2, 1, 2])), .carrier (.room true)]
    let after : List RelayingHappening := [.clientSent [7], .goOnUp, .streamEnded]
    CloseDisposition.ofCode 1000 = .orderly ∧
      (∀ happening ∈ before ++ after, happening.isDisturbance = false) ∧
      ∃ opened closed last, run? {} {} before = some opened ∧
        opened.step? {} (.carrier (.arrival (.close 1000 ""))) = some closed ∧
        closed.run? {} after = some last ∧
        last.relaying.phase = .ended (.error (.relay .streamClosed)) ∧
        opened.brought = [1, 2] ∧ last.written = [] := by
  intro before after
  exact ⟨by decide, by decide, _, _, _, rfl, rfl, rfl, rfl, rfl, rfl⟩

end Delivery

end RelayTunnel
