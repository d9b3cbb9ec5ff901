import RelayTunnel.Proofs.Session
import RelayTunnel.Proofs.Stream

/-!
# Reading from an honest relay

A stream together with a relay that has something to say: a sequence of bytes, which it
sends in DATA frames of any size, in order, with any messages between them that carry no
data. On a connection on which the session is taken up again it goes on from the count
in the request. Connections break at any time, with what is unread on them, and the
halves do what they like when they like.

The bytes on their way through the stream are then always the first ones of that
sequence: what was read, what waits in the queue and what has no room there yet.
-/

namespace RelayTunnel

/-! ## What a carrier passes on -/

/-- The bytes of the stream that a happening brings. -/
def Happening.brought : Happening → Bytes
  | .arrival (.message message) => Wire.payload message
  | _ => []

namespace Carrier

variable {settings : RelaySettings} {c c' : Carrier} {happening : Happening}
  {actions : List Action}

/-- What a step does with the bytes on their way to the reader: those that arrive are
    counted, and none of them gets lost or out of order. A request to take the session up
    again carries its name and the count so far. -/
structure PassesOn (c : Carrier) (happening : Happening) (c' : Carrier) (actions : List Action) :
    Prop where
  sid : c'.session.sid = c.session.sid
  received :
    c'.session.received = c.session.received + UInt64.ofNat happening.brought.length
  bytes : happening ≠ .room false →
    (actions.filterMap Action.delivery?).flatten ++ c'.pending.getD [] =
      c.pending.getD [] ++ happening.brought
  established : c'.isEstablished = true →
    c.isEstablished = true ∨ ∃ number, happening = .resumed number
  asks :
    actions.filterMap Action.request? = [] ∧
        (c'.isResuming = true → c.isResuming = true ∧ happening.brought = []) ∨
      actions.filterMap Action.request? = [(c.session.sid, c.session.received)] ∧
        happening.brought = []

namespace PassesOn

/-- Doing something else before makes no difference. -/
theorem cons {action : Action} (h : c.PassesOn happening c' actions)
    (delivers : action.delivery? = none) (silent : action.request? = none) :
    c.PassesOn happening c' (action :: actions) where
  sid := h.sid
  received := h.received
  bytes reader := by
    rw [List.filterMap_cons_none delivers]
    exact h.bytes reader
  established := h.established
  asks := by
    rw [List.filterMap_cons_none silent]
    exact h.asks

/-- A carrier without a connection passes nothing on. -/
theorem leaves {write : Option Nat} {move : Move} (leaves : c.Leaves write move)
    (nothing : happening.brought = []) :
    c.PassesOn happening move.1 move.2 where
  sid := by rw [leaves.session]
  received := by simp [leaves.session, nothing]
  bytes _ := by
    have none : move.2.filterMap Action.delivery? = [] :=
      List.filterMap_eq_nil_iff.mpr fun action member =>
        Action.delivery?_eq_none (leaves.aside action member)
    rw [none, leaves.pending, nothing]
    simp
  established established := by simp [leaves.away] at established
  asks := by
    rw [leaves.asks]
    split
    · exact .inr ⟨rfl, nothing⟩
    · rename_i gone
      exact .inl ⟨rfl, fun attempts => absurd attempts gone⟩

/-- Nothing of the data moves on an established session. -/
theorem still (sid : c'.session.sid = c.session.sid)
    (received : c'.session.received = c.session.received) (pending : c'.pending = c.pending)
    (nothing : happening.brought = [])
    (delivers : actions.filterMap Action.delivery? = [])
    (silent : actions.filterMap Action.request? = [])
    (established : c'.isEstablished = true →
      c.isEstablished = true ∨ ∃ number, happening = .resumed number)
    (attempts : c'.isResuming = true → c.isResuming = true) :
    c.PassesOn happening c' actions where
  sid := sid
  received := by simp [received, nothing]
  bytes _ := by simp [delivers, pending, nothing]
  established := established
  asks := .inl ⟨silent, fun resuming => ⟨attempts resuming, nothing⟩⟩

/-- Taking an acknowledgement before makes no difference. -/
theorem acknowledge {session : Session} {number : UInt64}
    (h : { c with session }.PassesOn happening c' actions)
    (taken : c.session.acknowledge number = .ok session) :
    c.PassesOn happening c' actions := by
  obtain ⟨sid, received, bytes, established, asks⟩ := h
  rw [Session.acknowledge_sid taken] at sid
  rw [Session.acknowledge_received taken] at received
  rw [Session.acknowledge_sid taken, Session.acknowledge_received taken] at asks
  exact ⟨sid, received, bytes, established, asks⟩

/-- Nor does it matter that everything has been sent again. -/
theorem recovered (flow : FlowSettings) (recovery : Recovery)
    (established : c.isEstablished = true ∨ ∃ number, happening = .resumed number)
    (nothing : happening.brought = []) :
    c.PassesOn happening (c.recovered flow recovery).1 (c.recovered flow recovery).2 where
  sid := by simp
  received := by simp [nothing]
  bytes _ := by
    have none : (c.recovered flow recovery).2.filterMap Action.delivery? = [] :=
      List.filterMap_eq_nil_iff.mpr fun action member =>
        Action.delivery?_eq_none (recovered_aside recovery action member)
    simp [none, nothing]
  established _ := established
  asks := .inl ⟨by simp, by simp [isResuming]⟩

end PassesOn

/-- Every step of a carrier passes on what it brings. -/
theorem Step.passesOn (step : c.Step settings happening c' actions) :
    c.PassesOn happening c' actions := by
  cases step with
  | told => exact .still rfl rfl rfl rfl rfl rfl .inl id
  | writesOver => exact .still rfl rfl rfl rfl rfl rfl .inl id
  | skipped opened free means =>
    refine .still rfl rfl rfl ?_ rfl rfl .inl id
    rcases means with means | means <;> simp [Happening.brought, Wire.payload, means, Frame.payload]
  | @received message payload opened free means nonempty =>
    have brought : (Happening.arrival (.message message)).brought = payload := by
      simp [Happening.brought, Wire.payload, means, Frame.payload]
    exact {
      sid := rfl
      received := by rw [brought]; rfl
      bytes := fun _ => by simp [List.filterMap_cons, Action.delivery?, free, brought]
      established := .inl
      asks := .inl ⟨rfl, fun attempts => by simp [isResuming, phase_of_isOpen opened] at attempts⟩ }
  | acknowledged opened free means taken =>
    have waits := phase_of_isOpen opened
    refine .still ?_ ?_ (by simp) ?_ rfl rfl ?_ ?_
    · simpa using Session.acknowledge_sid taken
    · simpa using Session.acknowledge_received taken
    · simp [Happening.brought, Wire.payload, Wire.ack?_eq_some.mp means, Frame.payload]
    · simp [isEstablished, waits]
    · simp [isResuming, waits]
  | breached opened free means refused leaves =>
    have brought : Happening.brought (.arrival (.message _)) = [] := means
    exact (PassesOn.leaves leaves brought).cons rfl rfl
  | @handed payload reader opened held few =>
    exact {
      sid := rfl
      received := by simp [Happening.brought]
      bytes := fun present => by
        cases reader with
        | true => simp [Action.hand, Action.delivery?, held, Happening.brought]
        | false => exact absurd rfl present
      established := .inl
      asks := .inl ⟨by simp, fun attempts => ⟨attempts, rfl⟩⟩ }
  | @reported payload reader opened held enough =>
    have waits := phase_of_isOpen opened
    exact {
      sid := rfl
      received := by simp [Happening.brought, Session.takeAck]
      bytes := fun present => by
        cases reader with
        | true => simp [List.filterMap_cons, Action.hand, Action.delivery?, held, Happening.brought]
        | false => exact absurd rfl present
      established := fun _ => .inl (by simp [isEstablished, waits])
      asks := .inl ⟨by cases reader <;> rfl, fun attempts => by cases attempts⟩ }
  | took opened writes unthrottled fits =>
    have waits := phase_of_isOpen opened
    exact .still rfl rfl rfl rfl rfl rfl (fun _ => .inl (by simp [isEstablished, waits]))
      (fun attempts => by cases attempts)
  | wrote sends =>
    exact .still (by simp) (by simp) (by simp) rfl rfl rfl
      (fun _ => .inl (by simp [isEstablished, sends])) (fun attempts => by cases attempts)
  | hasReported sends =>
    exact .still rfl rfl rfl rfl rfl rfl (fun _ => .inl (by simp [isEstablished, sends]))
      (fun attempts => by cases attempts)
  | resent sends =>
    exact .still rfl rfl rfl rfl rfl rfl (fun _ => .inl (by simp [isEstablished, sends]))
      (fun attempts => by cases attempts)
  | recovered sends =>
    exact (PassesOn.recovered _ _ (.inl (by simp [isEstablished, sends])) rfl).cons rfl rfl
  | resumed attempts taken kept =>
    exact .still (Session.acknowledge_sid taken) (Session.acknowledge_received taken) rfl rfl rfl
      rfl (fun _ => .inr ⟨_, rfl⟩) (fun attempts => by cases attempts)
  | @resumedWhole number session recovery attempts taken kept =>
    have whole := PassesOn.recovered (c := { c with session }) settings.flow recovery
      (.inr ⟨number, rfl⟩) rfl
    exact (whole.cons rfl rfl).acknowledge taken
  | @turnedAway number violation recovery move attempts refused leaves =>
    have away : c.PassesOn (.resumed number) move.1 move.2 := .leaves leaves rfl
    exact away.cons rfl rfl
  | @unsendable number session recovery move attempts taken leaves =>
    have away : { c with session }.PassesOn (.resumed number) move.1 move.2 := .leaves leaves rfl
    exact (away.cons rfl rfl).acknowledge taken
  | left other leaves =>
    refine .leaves leaves ?_
    unfold Happening.brought
    split
    · cases other
    · rfl

/-- A message arrives only on an established session. -/
theorem Step.established_of_message {message : Bytes}
    (step : c.Step settings (.arrival (.message message)) c' actions) :
    c.isEstablished = true := by
  cases step with
  | skipped opened | received opened | acknowledged opened | breached opened =>
    simp [isEstablished, phase_of_isOpen opened]
  | left other => cases other

end Carrier

/-! ## The relay and the stream -/

/-- A stream and a relay that sends it something. -/
structure Feed where
  stream : Stream
  /-- The messages on the current connection that have not arrived. -/
  unread : List Bytes := []
  /-- How far the relay has got on the current connection. -/
  position : Nat := 0
  /-- How far it has ever got. -/
  most : Nat := 0
  /-- The count in the last request to take the session up again. -/
  asked : Option UInt64 := none
  /-- Whether the relay has granted the request that is under way. -/
  granted : Bool := false
  /-- How many bytes have arrived in all. -/
  taken : Nat := 0
  /-- The bytes that the reader has got. -/
  read : Bytes := []
  deriving DecidableEq, Repr

namespace Feed

/-- Something that can happen to a stream and its relay. -/
inductive Event where
  /-- To the carrier. -/
  | happens (happening : Happening)
  /-- The relay sends a message. -/
  | sends (message : Bytes)
  /-- The relay takes the session up again, on a new connection. -/
  | grants
  /-- The reader reads. A read that is refused changes nothing and is left out. -/
  | reads (size : Nat)
  | uses (how : Stream.Use)
  deriving DecidableEq, Repr

/-- The stream of a session that was just opened. -/
def start (sid : String) : Feed := { stream := .start sid }

/-- Messages arrive in the order in which they were sent, and an attempt succeeds only
    once the relay has granted it. -/
def fits (x : Feed) : Happening → Bool
  | .arrival (.message message) => x.unread.head? = some message
  | .resumed _ => x.granted
  | _ => true

/-- The messages under way once something has happened to the carrier. -/
def unreadAfter (x : Feed) : Happening → List Bytes
  | .arrival (.message _) => x.unread.tail
  | _ => x.unread

/-- Whether an attempt is granted once something has happened to the carrier. -/
def grantedAfter (x : Feed) : Happening → Bool
  | .resumed _ | .resumeFailed _ => false
  | _ => x.granted

/-- What was last asked for once the carrier has done something. -/
def askedAfter (x : Feed) (actions : List Action) : Option UInt64 :=
  match (actions.filterMap Action.request?).getLast? with
  | some (_, count) => some count
  | none => x.asked

/-- The offset that the relay takes a count for: the last one that it has got to with
    that count. -/
def offset (x : Feed) (count : UInt64) : Nat := x.most - (UInt64.ofNat x.most - count).toNat

/-- The feed once something has happened to the carrier and it has done something about
    it. -/
def after (x : Feed) (happening : Happening) (stream : Stream) (actions : List Action) : Feed :=
  { x with
    stream
    unread := x.unreadAfter happening
    asked := x.askedAfter actions
    granted := x.grantedAfter happening
    taken := x.taken + happening.brought.length }

/-- The feed after an event; `none` if it cannot happen. What the relay sends are the next
    bytes of `source`. It takes the session up again as long as it has not got 2^64 bytes
    further than what has arrived, or else the count would not tell it where to go on. -/
def step? (source : Bytes) (settings : RelaySettings) (x : Feed) : Event → Option Feed
  | .happens happening =>
    if x.fits happening then
      (x.stream.step? settings happening).map fun (stream, actions) =>
        x.after happening stream actions
    else none
  | .sends message =>
    let position := x.position + (Wire.payload message).length
    if Wire.payload message <+: source.drop x.position then
      some { x with
        unread := x.unread ++ [message]
        position
        most := max x.most position }
    else none
  | .grants =>
    match x.asked with
    | some count =>
      if x.stream.carrier.isResuming ∧ x.most < x.taken + UInt64.size then
        some { x with unread := [], position := x.offset count, granted := true }
      else none
    | none => none
  | .reads size =>
    if x.stream.readerOpen ∧ x.stream.readRefusal? size = none then
      x.stream.takeChunk?.map fun (result, stream) =>
        { x with stream, read := x.read ++ result.payload }
    else none
  | .uses how => some { x with stream := x.stream.use how }

/-- The feed after a series of events. -/
def run? (source : Bytes) (settings : RelaySettings) (x : Feed) : List Event → Option Feed
  | [] => some x
  | event :: events => (x.step? source settings event).bind (run? source settings · events)

/-- The bytes on their way from the carrier to the reader, and those that it has got. -/
def passed (x : Feed) : Bytes :=
  x.read ++ x.stream.inbound.flatten ++ x.stream.carrier.pending.getD []

/-- Whether the messages under way will arrive if nothing goes wrong. -/
def isLive (x : Feed) : Bool := x.stream.carrier.isEstablished || x.granted

/-! ## The invariant -/

/-- What holds of every feed whose relay sends `source`. -/
structure InOrder (source : Bytes) (sid : String) (x : Feed) : Prop where
  named : x.stream.carrier.session.sid = sid
  counted : x.stream.carrier.session.received = UInt64.ofNat x.taken
  passed : x.stream.readerOpen = true → x.passed = source.take x.taken
  read : x.read <+: source
  within : x.most ≤ source.length
  taken : x.taken ≤ x.most
  position : x.position ≤ x.most
  asked : x.stream.carrier.isResuming = true →
    x.asked = some x.stream.carrier.session.received
  /-- What has arrived and what is under way is what the relay has got to. -/
  live : x.isLive = true →
    source.take x.taken ++ x.unread.flatMap Wire.payload = source.take x.position

namespace InOrder

variable {settings : RelaySettings} {source : Bytes} {sid : String} {x y : Feed}

theorem start (source : Bytes) (sid : String) : InOrder source sid (start sid) where
  named := rfl
  counted := rfl
  passed _ := rfl
  read := List.nil_prefix
  within := Nat.zero_le _
  taken := Nat.le_refl 0
  position := Nat.le_refl 0
  asked resuming := by cases resuming
  live _ := rfl

/-- A count says how many bytes have arrived. -/
theorem received_toNat (h : InOrder source sid x) :
    x.stream.carrier.session.received.toNat = x.taken % UInt64.size := by
  rw [h.counted, UInt64.toNat_ofNat']

/-- The relay finds out from the count of the carrier how many bytes have arrived. -/
theorem offset_received (h : InOrder source sid x) (near : x.most < x.taken + UInt64.size) :
    x.offset x.stream.carrier.session.received = x.taken := by
  have taken := h.taken
  simp only [UInt64.size] at near
  simp only [offset, h.counted, UInt64.toNat_sub, UInt64.toNat_ofNat']
  omega

/-! ## What happens to the carrier -/

variable {happening : Happening} {stream : Stream} {actions : List Action}

/-- What arrives goes before what is still under way. -/
theorem brought_append (fits : x.fits happening = true) :
    happening.brought ++ (x.unreadAfter happening).flatMap Wire.payload =
      x.unread.flatMap Wire.payload := by
  unfold Happening.brought
  split
  · rename_i message
    simp only [Feed.fits, decide_eq_true_eq] at fits
    obtain ⟨rest, unread⟩ := List.head?_eq_some_iff.mp fits
    simp [unreadAfter, unread]
  · rename_i noMessage
    unfold unreadAfter
    split
    · exact absurd rfl (noMessage _)
    · rfl

/-- Something arrives only where it can be told what it is. -/
theorem live_of_brought (step : x.stream.carrier.Step settings happening stream.carrier actions) :
    happening.brought = [] ∨ x.isLive = true := by
  unfold Happening.brought
  split
  · right
    simp [isLive, step.established_of_message]
  · exact .inl rfl

/-- What will arrive afterwards would have arrived before. -/
theorem live_of_after (fits : x.fits happening = true)
    (passes : x.stream.carrier.PassesOn happening stream.carrier actions)
    (live : (x.after happening stream actions).isLive = true) : x.isLive = true := by
  simp only [isLive, after, Bool.or_eq_true] at live ⊢
  -- A carrier gets a connection only by an attempt that the relay has granted.
  rcases live with established | granted
  · rcases passes.established established with before | ⟨number, rfl⟩
    · exact .inl before
    · exact .inr fits
  · right
    unfold grantedAfter at granted
    split at granted
    · cases granted
    · cases granted
    · exact granted

theorem take_add {front rest : Bytes} {n k : Nat}
    (h : source.take n ++ (front ++ rest) = source.take k) (le : n ≤ source.length) :
    source.take (n + front.length) = source.take n ++ front := by
  have first : source.take n ++ front <+: source := by
    refine .trans ⟨rest, ?_⟩ (List.take_prefix k source)
    rw [List.append_assoc, h]
  have same := List.prefix_iff_eq_take.mp first
  rw [List.length_append, List.length_take_of_le le] at same
  exact same.symm

/-- What arrives are the next bytes. -/
theorem brings (h : InOrder source sid x) (fits : x.fits happening = true)
    (live : happening.brought = [] ∨ x.isLive = true) :
    source.take (x.taken + happening.brought.length) =
        source.take x.taken ++ happening.brought ∧
      x.taken + happening.brought.length ≤ x.most := by
  have within := h.within
  have taken := h.taken
  have position := h.position
  rcases live with nothing | live
  · simpa [nothing] using taken
  · have all := h.live live
    rw [← brought_append fits] at all
    refine ⟨take_add all (by omega), ?_⟩
    have lengths := congrArg List.length all
    simp only [List.length_append, List.length_take] at lengths
    omega

/-- An attempt that is under way was asked for with the count of what has arrived. -/
theorem asked_after (h : InOrder source sid x)
    (passes : x.stream.carrier.PassesOn happening stream.carrier actions)
    (resuming : stream.carrier.isResuming = true) :
    x.askedAfter actions = some stream.carrier.session.received := by
  have received := passes.received
  rcases passes.asks with ⟨silent, before⟩ | ⟨asks, nothing⟩
  · obtain ⟨before, nothing⟩ := before resuming
    simpa [askedAfter, silent, received, nothing] using h.asked before
  · simp [askedAfter, asks, received, nothing]

/-- Everything that happens to the carrier keeps the bytes in order. -/
theorem happens (h : InOrder source sid x) (fits : x.fits happening = true)
    (moves : x.stream.Moves settings happening stream actions) :
    InOrder source sid (x.after happening stream actions) := by
  have passes := moves.carrier.passesOn
  obtain ⟨next, most⟩ := h.brings fits (live_of_brought moves.carrier)
  exact {
    named := passes.sid.trans h.named
    counted := by
      show stream.carrier.session.received = UInt64.ofNat (x.taken + happening.brought.length)
      rw [passes.received, h.counted, UInt64.ofNat_add]
    passed := fun opened => by
      have before : x.stream.readerOpen = true := moves.readerOpen ▸ opened
      calc x.read ++ stream.inbound.flatten ++ stream.carrier.pending.getD []
          = x.read ++ x.stream.inbound.flatten ++
              ((actions.filterMap Action.delivery?).flatten ++
                stream.carrier.pending.getD []) := by
            rw [moves.inbound, List.flatten_append]
            simp only [List.append_assoc]
        _ = x.passed ++ happening.brought := by
            rw [passes.bytes (moves.room_ne_false before), Feed.passed]
            simp only [List.append_assoc]
        _ = source.take (x.taken + happening.brought.length) := by
            rw [h.passed before, next]
    read := h.read
    within := h.within
    taken := most
    position := h.position
    asked := h.asked_after passes
    live := fun live => by
      show source.take (x.taken + happening.brought.length) ++
        (x.unreadAfter happening).flatMap Wire.payload = source.take x.position
      rw [next, List.append_assoc, brought_append fits]
      exact h.live (live_of_after fits passes live) }

/-! ## What the relay and the halves do -/

/-- The relay sends the next bytes. -/
theorem sends {message : Bytes} (h : InOrder source sid x)
    (next : Wire.payload message <+: source.drop x.position) :
    InOrder source sid
      { x with
        unread := x.unread ++ [message]
        position := x.position + (Wire.payload message).length
        most := max x.most (x.position + (Wire.payload message).length) } where
  named := h.named
  counted := h.counted
  passed := h.passed
  read := h.read
  within := by
    have length := next.length_le
    have within := h.within
    have position := h.position
    rw [List.length_drop] at length
    exact Nat.max_le.mpr ⟨within, by omega⟩
  taken := Nat.le_trans h.taken (Nat.le_max_left ..)
  position := Nat.le_max_right ..
  asked := h.asked
  live live := by
    rw [List.flatMap_append, ← List.append_assoc, h.live live, List.take_add,
      ← List.prefix_iff_eq_take.mp next]
    simp

/-- The relay takes the session up again where the carrier has asked it to. -/
theorem grants {count : UInt64} (h : InOrder source sid x) (asked : x.asked = some count)
    (resuming : x.stream.carrier.isResuming = true) (near : x.most < x.taken + UInt64.size) :
    InOrder source sid { x with unread := [], position := x.offset count, granted := true } := by
  have offset : x.offset count = x.taken := by
    obtain rfl := Option.some.inj (asked.symm.trans (h.asked resuming))
    exact h.offset_received near
  exact { h with
    position := by rw [offset]; exact h.taken
    live := fun _ => by simp [offset] }

/-- The reader gets what comes next. -/
theorem reads {result : ReadResult} (h : InOrder source sid x)
    (opened : x.stream.readerOpen = true)
    (takes : x.stream.takeChunk? = some (result, stream)) :
    InOrder source sid { x with stream, read := x.read ++ result.payload } := by
  obtain ⟨carrier, _, same⟩ := Stream.takeChunk?_spec takes
  have passed :
      x.read ++ result.payload ++ stream.inbound.flatten ++ stream.carrier.pending.getD [] =
        source.take x.taken := by
    rw [← h.passed opened, Feed.passed, ← same, carrier]
    simp only [List.append_assoc]
  exact {
    named := by rw [carrier]; exact h.named
    counted := by rw [carrier]; exact h.counted
    passed := fun _ => passed
    read := by
      refine .trans ⟨stream.inbound.flatten ++ stream.carrier.pending.getD [], ?_⟩
        (List.take_prefix x.taken source)
      rw [← passed]
      simp only [List.append_assoc]
    within := h.within
    taken := h.taken
    position := h.position
    asked := by rw [carrier]; exact h.asked
    live := fun live => h.live (by simpa only [isLive, carrier] using live) }

theorem uses (h : InOrder source sid x) (how : Stream.Use) :
    InOrder source sid { x with stream := x.stream.use how } := by
  have spares := x.stream.use_spares how
  exact {
    named := by rw [spares.session]; exact h.named
    counted := by rw [spares.session]; exact h.counted
    passed := fun opened => by
      obtain ⟨before, inbound⟩ := spares.inbound opened
      simp only [Feed.passed, inbound, spares.pending]
      exact h.passed before
    read := h.read
    within := h.within
    taken := h.taken
    position := h.position
    asked := by
      simp only [spares.session, Carrier.isResuming, spares.phase]
      exact h.asked
    live := fun live => h.live (by
      simpa only [isLive, Carrier.isEstablished, spares.phase] using live) }

/-! ## Runs -/

theorem step {event : Event} (h : InOrder source sid x)
    (steps : x.step? source settings event = some y) : InOrder source sid y := by
  cases event with
  | happens happening =>
    simp only [step?] at steps
    split at steps
    · rename_i fits
      obtain ⟨⟨stream, actions⟩, moved, rfl⟩ := Option.map_eq_some_iff.mp steps
      exact h.happens fits (Stream.moves_of_step? moved)
    · cases steps
  | sends message =>
    simp only [step?] at steps
    split at steps <;> cases steps
    rename_i next
    exact h.sends next
  | grants =>
    simp only [step?] at steps
    split at steps
    · rename_i asked
      split at steps <;> cases steps
      rename_i guard
      exact h.grants asked guard.1 guard.2
    · cases steps
  | reads size =>
    simp only [step?] at steps
    split at steps
    · rename_i allowed
      obtain ⟨⟨result, stream⟩, takes, rfl⟩ := Option.map_eq_some_iff.mp steps
      exact h.reads allowed.1 takes
    · cases steps
  | uses how =>
    cases steps
    exact h.uses how

theorem run {events : List Event} (h : InOrder source sid x)
    (runs : x.run? source settings events = some y) : InOrder source sid y := by
  induction events generalizing x with
  | nil =>
    cases runs
    exact h
  | cons event events ih =>
    obtain ⟨next, steps, runs⟩ := Option.bind_eq_some_iff.mp runs
    exact ih (h.step steps) runs

end InOrder

/-- At every moment of every feed the bytes that the reader has got, those in its queue and
    those without room there are the first ones of what the relay sends, as many as the
    session counts modulo 2^64; what was read is a front of it even after the reader has
    gone; and every request to take the session up again carries its name and that count. -/
theorem reader_gets_front (source : Bytes) (settings : RelaySettings) (sid : String)
    (events : List Event) (x : Feed)
    (run : (start sid).run? source settings events = some x) :
    x.read <+: source ∧
      ∃ n ≤ source.length,
        x.stream.carrier.session.received.toNat = n % UInt64.size ∧
        (x.stream.readerOpen = true →
          x.read ++ x.stream.inbound.flatten ++ x.stream.carrier.pending.getD [] =
            source.take n) ∧
        ∀ happening stream actions,
          x.stream.step? settings happening = some (stream, actions) →
            ∀ request ∈ actions.filterMap Action.request?,
              request.1 = sid ∧ request.2.toNat = n % UInt64.size := by
  have inOrder : InOrder source sid x := (InOrder.start source sid).run run
  refine ⟨inOrder.read, x.taken, Nat.le_trans inOrder.taken inOrder.within,
    inOrder.received_toNat, inOrder.passed, ?_⟩
  intro happening stream actions moved request member
  rcases (Stream.moves_of_step? moved).carrier.passesOn.asks with ⟨silent, _⟩ | ⟨asks, _⟩
  · rw [silent] at member
    cases member
  · rw [asks, List.mem_singleton] at member
    rw [member]
    exact ⟨inOrder.named, inOrder.received_toNat⟩

/-- A payload that is read, one that is lost with its connection, and on the next connection
    an unknown message and the lost byte in another payload. -/
theorem reader_gets_front_lost_payload :
    ∃ x,
      (start "s").run? [1, 2, 3, 4] {}
          [.sends [0, 4, 0, 0, 0, 2, 1, 2],
            .happens (.arrival (.message [0, 4, 0, 0, 0, 2, 1, 2])), .happens (.room true),
            .reads 16384, .sends [0, 4, 0, 0, 0, 1, 3], .happens (.arrival .ended), .grants,
            .sends [0, 9], .sends [0, 4, 0, 0, 0, 2, 3, 4], .happens (.resumed 0),
            .happens (.arrival (.message [0, 9])),
            .happens (.arrival (.message [0, 4, 0, 0, 0, 2, 3, 4]))] = some x ∧
        x.read = [1, 2] ∧ x.passed = [1, 2, 3, 4] := by
  have ran : ((start "s").run? [1, 2, 3, 4] {}
      [.sends [0, 4, 0, 0, 0, 2, 1, 2],
        .happens (.arrival (.message [0, 4, 0, 0, 0, 2, 1, 2])), .happens (.room true),
        .reads 16384, .sends [0, 4, 0, 0, 0, 1, 3], .happens (.arrival .ended), .grants,
        .sends [0, 9], .sends [0, 4, 0, 0, 0, 2, 3, 4], .happens (.resumed 0),
        .happens (.arrival (.message [0, 9])),
        .happens (.arrival (.message [0, 4, 0, 0, 0, 2, 3, 4]))]).map
        (fun x => (x.read, x.stream.readerOpen, x.stream.carrier.session.received)) =
      some ([1, 2], true, 4) := by
    decide +kernel
  obtain ⟨x, run, last⟩ := Option.map_eq_some_iff.mp ran
  obtain ⟨read, opened, received⟩ : x.read = [1, 2] ∧ x.stream.readerOpen = true ∧
      x.stream.carrier.session.received = 4 := by simpa using last
  obtain ⟨n, few, counted, passed, _⟩ := (reader_gets_front [1, 2, 3, 4] {} "s" _ x run).2
  rw [received] at counted
  have all : n = 4 := by
    have few : n ≤ 4 := few
    have counted : 4 = n % 18446744073709551616 := counted
    omega
  refine ⟨x, run, read, ?_⟩
  rw [all] at passed
  exact passed opened

end Feed

end RelayTunnel
