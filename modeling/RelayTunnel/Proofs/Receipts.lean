import RelayTunnel.Proofs.Session
import RelayTunnel.Proofs.Stream
import RelayTunnel.Proofs.Wire

/-!
# What a carrier acknowledges

A carrier counts data when they arrive, but acknowledges them only when they have been handed
over, and not each time: an acknowledgement is due once enough bytes were handed over since
the last one. `Receipts` is what can be noted of this from outside. Between two steps fewer
bytes than that are not covered by an acknowledgement (`Carrier.Attested`), and from there one
payload can not go far beyond.

An acknowledgement that is not sent is not lost either: the request to take the session up
again has the same count.
-/

namespace RelayTunnel

/-- From how many bytes on an acknowledgement is due. -/
def RelaySettings.due (settings : RelaySettings) : Nat := (max settings.ackThreshold 1).toNat

theorem RelaySettings.due_pos (settings : RelaySettings) : 0 < settings.due := by
  have le : (1 : UInt64) ≤ max settings.ackThreshold 1 := by
    simp only [Max.max]
    split
    · exact UInt64.le_refl 1
    · rename_i above
      exact UInt64.le_of_lt (UInt64.not_le.mp above)
  exact UInt64.le_iff_toNat_le.mp le

/-! ## What can be noted -/

/-- What can be noted of the data that a carrier has passed on, from its actions alone. -/
structure Receipts where
  /-- The bytes put into the reader's queue, or let go of without a reader. -/
  handed : Nat := 0
  /-- How many of them there were when the last acknowledgement was taken. -/
  covered : Nat := 0
  /-- The count in that acknowledgement. -/
  stated : UInt64 := 0
  /-- This count, as long as nothing was sent and no request was made since. -/
  unsent : Option UInt64 := none
  deriving DecidableEq, Repr

namespace Receipts

/-- Note an action. -/
def note (r : Receipts) : Action → Receipts
  | .deliver payload | .discard payload => { r with handed := r.handed + payload.length }
  | .send (.ack count) => { r with covered := r.handed, stated := count, unsent := some count }
  | .count .frameSent | .resume _ _ => { r with unsent := none }
  | _ => r

/-- What is noted of all that was done. -/
def ofActions (did : List Action) : Receipts := did.foldl note {}

/-- What must hold of an action after what was noted before: an acknowledgement states what
    was handed over, which is enough and at most one payload more; a request has the count of
    an acknowledgement that was lost. -/
def Allows (due : Nat) (r : Receipts) : Action → Prop
  | .send (.ack count) =>
    count = UInt64.ofNat r.handed ∧
      r.covered + due ≤ r.handed ∧ r.handed < r.covered + due + maxPayload ∧
      (count - r.stated).toNat = r.handed - r.covered
  | .resume _ count => ∀ lost ∈ r.unsent, count = lost
  | _ => True

/-- Every action is allowed by what was noted before it. -/
def Sound (due : Nat) : Receipts → List Action → Prop
  | _, [] => True
  | r, action :: actions => r.Allows due action ∧ (r.note action).Sound due actions

variable {due : Nat} {r : Receipts} {action : Action} {actions did : List Action}

theorem ofActions_append (did actions : List Action) :
    ofActions (did ++ actions) = actions.foldl note (ofActions did) :=
  List.foldl_append

theorem sound_append :
    r.Sound due (did ++ actions) ↔ r.Sound due did ∧ (did.foldl note r).Sound due actions := by
  induction did generalizing r with
  | nil => simp [Sound]
  | cons action did ih => simp only [List.cons_append, Sound, List.foldl_cons, ih, and_assoc]

/-- Whether an action hands data over or acknowledges them. -/
def isReceipt : Action → Bool
  | .deliver _ | .discard _ | .send (.ack _) => true
  | _ => false

/-- After an action that is no receipt at most no acknowledgement is on its way any more. -/
theorem note_of_not_isReceipt (other : isReceipt action = false) :
    r.note action = r ∨ r.note action = { r with unsent := none } := by
  cases action with
  | deliver | discard => cases other
  | send frame =>
    cases frame with
    | ack => cases other
    | connectSuccess | reconnectSuccess | data | close => exact .inl rfl
  | count entry => cases entry <;> first | exact .inl rfl | exact .inr rfl
  | resume => exact .inr rfl
  | publish | close | pause | install | accept | refuse | stop => exact .inl rfl

theorem foldl_note_of_not_isReceipt (others : ∀ action ∈ actions, isReceipt action = false) :
    actions.foldl note r = r ∨ actions.foldl note r = { r with unsent := none } := by
  induction actions generalizing r with
  | nil => exact .inl rfl
  | cons action actions ih =>
    obtain ⟨other, others⟩ := List.forall_mem_cons.mp others
    rw [List.foldl_cons]
    rcases note_of_not_isReceipt other with same | cleared
    · rw [same]
      exact ih others
    · rw [cleared]
      rcases ih (r := { r with unsent := none }) others with rest | rest
      · exact .inr rest
      · exact .inr rest

/-- Something sent, or a request, clears what was unsent. -/
theorem unsent_foldl_note (others : ∀ action ∈ actions, isReceipt action = false)
    (clears : .count .frameSent ∈ actions ∨ ∃ sid count, .resume sid count ∈ actions) :
    (actions.foldl note r).unsent = none := by
  have stays {r : Receipts} {rest : List Action}
      (others : ∀ action ∈ rest, isReceipt action = false) (none : r.unsent = none) :
      (rest.foldl note r).unsent = Option.none := by
    rcases foldl_note_of_not_isReceipt (r := r) others with same | same <;> simp [same, none]
  have cleared {action : Action} (member : action ∈ actions)
      (once : ∀ r : Receipts, (r.note action).unsent = none) :
      (actions.foldl note r).unsent = none := by
    obtain ⟨front, back, rfl⟩ := List.append_of_mem member
    rw [List.foldl_append, List.foldl_cons]
    exact stays (fun action member => others action (by simp [member])) (once _)
  rcases clears with member | ⟨sid, count, member⟩
  · exact cleared member fun _ => rfl
  · exact cleared member fun _ => rfl

theorem sound_of_not_isReceipt (others : ∀ action ∈ actions, isReceipt action = false)
    (asks : ∀ sid count, .resume sid count ∈ actions → ∀ lost ∈ r.unsent, count = lost) :
    r.Sound due actions := by
  induction actions generalizing r with
  | nil => trivial
  | cons action actions ih =>
    obtain ⟨other, others⟩ := List.forall_mem_cons.mp others
    refine ⟨?_, ih others ?_⟩
    · cases action with
      | send frame =>
        cases frame with
        | ack => cases other
        | connectSuccess | reconnectSuccess | data | close => trivial
      | resume sid count => exact asks sid count (List.mem_cons_self ..)
      | _ => trivial
    · intro sid count member lost unsent
      refine asks sid count (List.mem_cons_of_mem _ member) lost ?_
      rcases note_of_not_isReceipt (r := r) other with same | cleared
      · rwa [same] at unsent
      · rw [cleared] at unsent
        cases unsent

/-- What is allowed of all actions is allowed of each. -/
theorem Sound.allows {before after : List Action}
    (h : Sound due {} (before ++ action :: after)) : (ofActions before).Allows due action :=
  (sound_append.mp h).2.1

/-- Data that are handed over are noted as such, with or without a reader. -/
theorem note_hand (r : Receipts) (reader : Bool) (payload : Bytes) :
    r.note (.hand reader payload) = { r with handed := r.handed + payload.length } := by
  cases reader <;> rfl

theorem allows_hand (due : Nat) (r : Receipts) (reader : Bool) (payload : Bytes) :
    r.Allows due (.hand reader payload) := by
  cases reader <;> trivial

theorem isReceipt_of_isAside (aside : action.isAside = true) : isReceipt action = false := by
  cases action with
  | send | deliver | discard => cases aside
  | _ => rfl

end Receipts

/-! ## What a step preserves -/

namespace Carrier

open Receipts

variable {settings : RelaySettings} {c c' : Carrier} {happening : Happening}
  {did actions : List Action}

/-- Whether nothing can arrive before the carrier has sent an acknowledgement or asked to take
    its session up again. -/
def IsStranded (c : Carrier) : Prop :=
  c.phase = .sending .ack ∨ c.isEstablished = false ∧ c.isResuming = false

theorem not_isStranded_of_waiting (waits : c.phase = .waiting) : ¬ c.IsStranded := by
  simp [IsStranded, isEstablished, waits]

theorem not_isStranded_of_sending {errand : Errand} (sends : c.phase = .sending errand)
    (other : errand ≠ .ack) : ¬ c.IsStranded := by
  simp [IsStranded, isEstablished, sends, other]

theorem not_isStranded_of_resuming {recovery : Recovery}
    (attempts : c.phase = .resuming recovery) : ¬ c.IsStranded := by
  simp [IsStranded, isResuming, attempts]

/-- The books of a carrier agree with what can be noted from outside, and between two steps
    fewer bytes were handed over than would make another acknowledgement due. -/
structure Attested (settings : RelaySettings) (c : Carrier) (did : List Action) : Prop where
  received : c.session.received =
    UInt64.ofNat ((ofActions did).handed + (c.pending.getD []).length)
  reported : c.session.reported = UInt64.ofNat (ofActions did).covered
  stated : (ofActions did).stated = c.session.reported
  small : ∀ payload ∈ c.pending, payload.length ≤ maxPayload
  covered : (ofActions did).covered ≤ (ofActions did).handed
  few : (ofActions did).handed < (ofActions did).covered + settings.due
  unsent : ∀ count ∈ (ofActions did).unsent, count = c.session.received ∧ c.IsStranded
  sound : Sound settings.due {} did

namespace Attested

theorem start (settings : RelaySettings) (sid : String) :
    (Carrier.start sid).Attested settings [] where
  received := rfl
  reported := rfl
  stated := rfl
  small payload held := by cases held
  covered := Nat.le_refl 0
  few := Nat.lt_of_lt_of_le settings.due_pos (Nat.le_add_left ..)
  unsent count unsent := by cases unsent
  sound := trivial

theorem unsent_eq_none (h : c.Attested settings did) (free : ¬ c.IsStranded) :
    (ofActions did).unsent = none :=
  Option.eq_none_iff_forall_not_mem.mpr fun count unsent => free (h.unsent count unsent).2

/-- Nothing is handed over or acknowledged. -/
theorem rest (h : c.Attested settings did) (received : c'.session.received = c.session.received)
    (reported : c'.session.reported = c.session.reported) (pending : c'.pending = c.pending)
    (others : ∀ action ∈ actions, isReceipt action = false)
    (asks : ∀ sid count, .resume sid count ∈ actions → count = c.session.received)
    (stays : c.IsStranded → c'.IsStranded ∨ .count .frameSent ∈ actions ∨
      ∃ sid count, .resume sid count ∈ actions) :
    c'.Attested settings (did ++ actions) := by
  have sound : Sound settings.due {} (did ++ actions) :=
    sound_append.mpr ⟨h.sound, sound_of_not_isReceipt others fun sid count member lost unsent => by
      rw [asks sid count member, (h.unsent lost unsent).1]⟩
  have unsent : ∀ count ∈ (ofActions (did ++ actions)).unsent,
      count = c'.session.received ∧ c'.IsStranded := by
    intro count unsent
    rw [ofActions_append] at unsent
    have before : count ∈ (ofActions did).unsent := by
      rcases foldl_note_of_not_isReceipt (r := ofActions did) others with same | cleared
      · rwa [same] at unsent
      · rw [cleared] at unsent
        cases unsent
    obtain ⟨same, stranded⟩ := h.unsent count before
    rcases stays stranded with still | clears
    · exact ⟨same.trans received.symm, still⟩
    · rw [unsent_foldl_note others clears] at unsent
      cases unsent
  have same : ∃ unsent, ofActions (did ++ actions) = { ofActions did with unsent } := by
    rw [ofActions_append]
    rcases foldl_note_of_not_isReceipt (r := ofActions did) others with same | same
    · exact ⟨_, same⟩
    · exact ⟨none, same⟩
  obtain ⟨_, same⟩ := same
  refine ⟨?_, ?_, ?_, ?_, ?_, ?_, unsent, sound⟩
  · rw [same, received, pending]
    exact h.received
  · rw [same, reported]
    exact h.reported
  · rw [same, reported]
    exact h.stated
  · rw [pending]
    exact h.small
  · rw [same]
    exact h.covered
  · rw [same]
    exact h.few

/-- An acknowledgement of the relay changes nothing of this. -/
theorem acknowledge {session : Session} {number : UInt64} (h : c.Attested settings did)
    (taken : c.session.acknowledge number = .ok session) :
    { c with session }.Attested settings did := by
  have received := Session.acknowledge_received taken
  have reported : session.reported = c.session.reported := by
    rw [(Session.acknowledge_eq_ok taken).2]
  have after : { c with session }.Attested settings (did ++ []) :=
    h.rest received reported rfl (by simp) (by simp) .inl
  rwa [List.append_nil] at after

/-- Letting the connection go changes nothing of this. -/
theorem leaves {write : Option Nat} {move : Move} (h : c.Attested settings did)
    (leaves : c.Leaves write move) :
    move.1.Attested settings (did ++ move.2) := by
  refine h.rest (by rw [leaves.session]) (by rw [leaves.session]) leaves.pending
    (fun action member => isReceipt_of_isAside (leaves.aside action member)) ?_ ?_
  · intro sid count member
    have asked : (sid, count) ∈ move.2.filterMap Action.request? :=
      List.mem_filterMap.mpr ⟨_, member, rfl⟩
    rw [leaves.asks] at asked
    split at asked
    · simp only [List.mem_singleton, Prod.mk.injEq] at asked
      exact asked.2
    · cases asked
  · intro _
    cases resuming : move.1.isResuming with
    | false => exact .inl (.inr ⟨leaves.away, resuming⟩)
    | true =>
      have asked : (c.session.sid, c.session.received) ∈ move.2.filterMap Action.request? := by
        rw [leaves.asks, resuming]
        exact List.mem_singleton_self _
      obtain ⟨action, member, asks⟩ := List.mem_filterMap.mp asked
      cases action <;> cases asks
      exact .inr (.inr ⟨_, _, member⟩)

/-- Nor does anything else that is neither a receipt nor a request. -/
theorem beside {action : Action} (h : c.Attested settings did)
    (other : isReceipt action = false) (silent : action.request? = none) :
    c.Attested settings (did ++ [action]) := by
  refine h.rest rfl rfl rfl (by simpa using other) ?_ .inl
  intro sid count member
  rw [← List.mem_singleton.mp member] at silent
  cases silent

section

variable (h : c.Attested settings did) (room : settings.due + maxPayload ≤ UInt64.size)
include h room

/-- What is not acknowledged when data are handed over is what was handed over since the last
    acknowledgement, together with these data. -/
theorem unreported_eq {payload : Bytes} (held : c.pending = some payload) :
    c.session.unreported.toNat =
      (ofActions did).handed + payload.length - (ofActions did).covered := by
  have few := h.few
  have covered := h.covered
  have small := h.small payload held
  rw [Session.unreported, h.received, h.reported, held, Option.getD_some]
  simp only [UInt64.size] at room
  simp only [UInt64.toNat_sub, UInt64.toNat_ofNat']
  omega

/-- Data are handed over, and no acknowledgement is due yet. -/
theorem handed {payload : Bytes} (reader : Bool) (waits : c.phase = .waiting)
    (held : c.pending = some payload)
    (early : c.session.unreported < max settings.ackThreshold 1) :
    { c with pending := none }.Attested settings (did ++ [Action.hand reader payload]) := by
  have unsent := h.unsent_eq_none (not_isStranded_of_waiting waits)
  have few : (ofActions did).handed + payload.length < (ofActions did).covered + settings.due := by
    have below := UInt64.lt_iff_toNat_lt.mp early
    rw [h.unreported_eq room held] at below
    have due : (max settings.ackThreshold 1).toNat = settings.due := rfl
    omega
  have received := h.received
  rw [held, Option.getD_some] at received
  have noted : ofActions (did ++ [Action.hand reader payload]) =
      { ofActions did with handed := (ofActions did).handed + payload.length } := by
    rw [ofActions_append]
    exact note_hand ..
  refine ⟨?_, ?_, ?_, ?_, ?_, ?_, ?_, ?_⟩
  · rw [noted]
    exact received
  · rw [noted]
    exact h.reported
  · rw [noted]
    exact h.stated
  · intro payload held
    cases held
  · rw [noted]
    exact Nat.le_add_right_of_le h.covered
  · rw [noted]
    exact few
  · intro count waiting
    rw [noted, unsent] at waiting
    cases waiting
  · exact sound_append.mpr ⟨h.sound, allows_hand .., trivial⟩

/-- Data are handed over, and everything that was is acknowledged. -/
theorem reports {payload : Bytes} (reader : Bool) (held : c.pending = some payload)
    (late : ¬ c.session.unreported < max settings.ackThreshold 1) :
    { c with
      pending := none
      session := c.session.takeAck
      phase := .sending .ack }.Attested settings
        (did ++ [Action.hand reader payload, .send (.ack c.session.received)]) := by
  have received := h.received
  rw [held, Option.getD_some] at received
  have small := h.small payload held
  have few := h.few
  have covered := h.covered
  have enough : (ofActions did).covered + settings.due ≤
      (ofActions did).handed + payload.length := by
    have above := UInt64.le_iff_toNat_le.mp (UInt64.not_lt.mp late)
    rw [h.unreported_eq room held] at above
    have due : (max settings.ackThreshold 1).toNat = settings.due := rfl
    have positive := settings.due_pos
    omega
  have within : (ofActions did).handed + payload.length <
      (ofActions did).covered + settings.due + maxPayload := by
    omega
  have advance : (c.session.received - (ofActions did).stated).toNat =
      (ofActions did).handed + payload.length - (ofActions did).covered := by
    rw [h.stated]
    exact h.unreported_eq room held
  have noted : ofActions (did ++ [Action.hand reader payload, .send (.ack c.session.received)]) =
      { handed := (ofActions did).handed + payload.length
        covered := (ofActions did).handed + payload.length
        stated := c.session.received
        unsent := some c.session.received } := by
    rw [ofActions_append, List.foldl_cons, note_hand]
    rfl
  refine ⟨?_, ?_, ?_, ?_, ?_, ?_, ?_, ?_⟩
  · rw [noted]
    exact received
  · rw [noted]
    exact received
  · rw [noted]
    rfl
  · intro payload held
    cases held
  · exact Nat.le_of_eq (by rw [noted])
  · rw [noted]
    exact Nat.lt_add_of_pos_right settings.due_pos
  · intro count waiting
    rw [noted] at waiting
    cases waiting
    exact ⟨rfl, .inl rfl⟩
  · refine sound_append.mpr ⟨h.sound, allows_hand .., ?_, trivial⟩
    rw [note_hand]
    exact ⟨received, enough, within, advance⟩

end

/-- Data arrive. -/
theorem receives {payload : Bytes} (h : c.Attested settings did) (waits : c.phase = .waiting)
    (free : c.pending = none) (small : payload.length ≤ maxPayload) :
    { c with
      session := c.session.recordReceived payload.length
      pending := some payload }.Attested settings did := by
  have received := h.received
  rw [free] at received
  refine ⟨?_, h.reported, h.stated, ?_, h.covered, h.few, ?_, h.sound⟩
  · rw [Option.getD_some, UInt64.ofNat_add]
    exact congrArg (· + UInt64.ofNat payload.length) received
  · intro other held
    cases held
    exact small
  · intro count unsent
    rw [h.unsent_eq_none (not_isStranded_of_waiting waits)] at unsent
    cases unsent

/-- The session goes on, and everything has been sent again. -/
theorem recovered (h : c.Attested settings did) (flow : FlowSettings) (recovery : Recovery)
    (free : ¬ c.IsStranded) :
    (c.recovered flow recovery).1.Attested settings (did ++ (c.recovered flow recovery).2) := by
  refine h.rest (by simp) (by simp) (by simp)
    (fun action member => isReceipt_of_isAside (recovered_aside recovery action member)) ?_
    (fun stranded => absurd stranded free)
  intro sid count member
  have asked : (sid, count) ∈ (c.recovered flow recovery).2.filterMap Action.request? :=
    List.mem_filterMap.mpr ⟨_, member, rfl⟩
  rw [recovered_request] at asked
  cases asked

/-- What one step preserves. -/
theorem step (h : c.Attested settings did) (room : settings.due + maxPayload ≤ UInt64.size)
    (step : c.Step settings happening c' actions) : c'.Attested settings (did ++ actions) := by
  cases step with
  | told => exact h.rest rfl rfl rfl (by simp) (by simp) .inl
  | writesOver => exact h.rest rfl rfl rfl (by simp) (by simp) .inl
  | skipped => exact h.beside rfl rfl
  | @received message payload opened free means nonempty =>
    have small := encode_data_eq_ok (Wire.decode_eq_some_iff.mp means)
    have first : c.Attested settings (did ++ [.count .frameReceived]) := h.beside rfl rfl
    have noted : c.Attested settings
        (did ++ [.count .frameReceived] ++ [.count (.dataReceived payload.length)]) :=
      first.beside rfl rfl
    rw [List.append_cons]
    exact noted.receives (phase_of_isOpen opened) free small
  | acknowledged opened free means taken =>
    have free := not_isStranded_of_waiting (phase_of_isOpen opened)
    exact (h.acknowledge taken).rest (by simp) (by simp) (by simp) (by simp [isReceipt]) (by simp)
      (fun stranded => absurd stranded free)
  | breached opened free means refused leaves =>
    rw [List.append_cons]
    exact (h.beside rfl rfl).leaves leaves
  | handed opened held few => exact h.handed room _ (phase_of_isOpen opened) held few
  | reported opened held enough => exact h.reports room _ held enough
  | took opened =>
    have free := not_isStranded_of_waiting (phase_of_isOpen opened)
    exact h.rest rfl rfl rfl (by simp [isReceipt]) (by simp) (fun stranded => absurd stranded free)
  | wrote sends =>
    exact h.rest (by simp) (by simp) (by simp) (by simp [isReceipt]) (by simp)
      (fun _ => .inr (.inl (by simp)))
  | hasReported sends =>
    exact h.rest rfl rfl rfl (by simp [isReceipt]) (by simp) (fun _ => .inr (.inl (by simp)))
  | resent sends =>
    exact h.rest rfl rfl rfl (by simp [isReceipt]) (by simp) (fun _ => .inr (.inl (by simp)))
  | recovered sends =>
    rw [List.append_cons]
    exact (h.beside rfl rfl).recovered settings.flow _
      (not_isStranded_of_sending sends (by simp))
  | resumed attempts taken kept =>
    have free := not_isStranded_of_resuming attempts
    exact (h.acknowledge taken).rest rfl rfl rfl (by simp [isReceipt]) (by simp)
      (fun stranded => absurd stranded free)
  | resumedWhole attempts taken kept =>
    rw [List.append_cons]
    exact ((h.beside rfl rfl).acknowledge taken).recovered settings.flow _
      (not_isStranded_of_resuming attempts)
  | turnedAway attempts refused leaves =>
    rw [List.append_cons]
    exact (h.beside rfl rfl).leaves leaves
  | unsendable attempts taken leaves =>
    rw [List.append_cons]
    exact ((h.beside rfl rfl).acknowledge taken).leaves leaves
  | left other leaves => exact h.leaves leaves

/-- Only the books of the session and the data without room matter. -/
theorem congr (h : c.Attested settings did) (session : c'.session = c.session)
    (pending : c'.pending = c.pending) (phase : c'.phase = c.phase) :
    c'.Attested settings did := by
  have stays (stranded : c.IsStranded) : c'.IsStranded := by
    simpa only [IsStranded, isEstablished, isResuming, phase] using stranded
  have after : c'.Attested settings (did ++ []) :=
    h.rest (by rw [session]) (by rw [session]) pending (by simp) (by simp)
      (fun stranded => .inl (stays stranded))
  rwa [List.append_nil] at after

end Attested

end Carrier

/-! ## Runs -/

namespace Stream

open Receipts

variable {settings : RelaySettings} {s : Stream} {log : List (Happening × List Action)}

/-- What every run preserves. -/
theorem attested_of_run? {sid : String} {events : List Event}
    (room : settings.due + maxPayload ≤ UInt64.size)
    (run : (start sid).run? settings events = some (s, log)) :
    s.carrier.Attested settings (log.flatMap Prod.snd) := by
  let Inv (s : Stream) (did : List Action) : Prop := s.carrier.Attested settings did
  have after : Inv s (log.foldl (fun did entry => did ++ entry.2) []) :=
    run?_invariant (fun _ _ _ _ _ before moves => before.step room moves.carrier)
      (fun _ _ _ before => before)
      (fun s _ how before =>
        have spares := s.use_spares how
        before.congr spares.session spares.pending spares.phase)
      run (.start settings sid)
  rwa [← List.flatMap_eq_foldl] at after

/-- Whatever the relay and the halves do, every acknowledgement states the number of bytes that
    were handed over before it, which are enough and at most a payload more since the last
    one; as long as the carrier waits with nothing on hand, no further one is due; and the
    request after an acknowledgement that was not sent has its count. -/
theorem acks_cover_handed (settings : RelaySettings) (sid : String) (events : List Event)
    (room : settings.due + maxPayload ≤ UInt64.size)
    (run : (start sid).run? settings events = some (s, log)) :
    let did := log.flatMap Prod.snd
    (∀ before count after, did = before ++ .send (.ack count) :: after →
        let r := ofActions before
        count = UInt64.ofNat r.handed ∧
          r.covered + settings.due ≤ r.handed ∧
          r.handed < r.covered + settings.due + maxPayload ∧
          (count - r.stated).toNat = r.handed - r.covered) ∧
      s.carrier.session.received =
        UInt64.ofNat ((ofActions did).handed + (s.carrier.pending.getD []).length) ∧
      (s.carrier.phase = .waiting → s.carrier.pending = none →
        (ofActions did).handed < (ofActions did).covered + settings.due) ∧
      ∀ before sid count after, did = before ++ .resume sid count :: after →
        ∀ lost ∈ (ofActions before).unsent, count = lost := by
  intro did
  have attested : s.carrier.Attested settings did := attested_of_run? room run
  have allowed (before after : List Action) (action : Action)
      (same : did = before ++ action :: after) :
      (ofActions before).Allows settings.due action :=
    Sound.allows (same ▸ attested.sound)
  refine ⟨?_, attested.received, fun _ _ => attested.few, ?_⟩
  · intro before count after same
    exact allowed before after _ same
  · intro before sid count after same
    exact allowed before after _ same

/-- Two payloads are handed over before an acknowledgement is due, which can not be sent; the
    request that follows has the same count. -/
theorem acks_cover_handed_lost_ack :
    let settings : RelaySettings := { ackThreshold := 3 }
    let before : List Action :=
      [.count .frameReceived, .count (.dataReceived 2), .deliver [1, 2],
        .count .frameReceived, .count (.dataReceived 2), .deliver [3, 4]]
    settings.due + maxPayload ≤ UInt64.size ∧
      ∃ s log,
        (start "s").run? settings
            [.happens (.arrival (.message [0, 4, 0, 0, 0, 2, 1, 2])), .happens (.room true),
              .happens (.arrival (.message [0, 4, 0, 0, 0, 2, 3, 4])), .happens (.room true),
              .happens (.sendFailed (.transport "reset"))] = some (s, log) ∧
          log.flatMap Prod.snd =
            before ++ [.send (.ack 4), .publish .reconnecting, .resume "s" 4] ∧
          4 = UInt64.ofNat (ofActions before).handed ∧
          (ofActions before).covered + 3 ≤ (ofActions before).handed ∧
          ∀ lost ∈ (ofActions (before ++ [.send (.ack 4), .publish .reconnecting])).unsent,
            4 = lost := by
  intro settings before
  have room : settings.due + maxPayload ≤ UInt64.size := by decide
  have ran : ((start "s").run? settings
      [.happens (.arrival (.message [0, 4, 0, 0, 0, 2, 1, 2])), .happens (.room true),
        .happens (.arrival (.message [0, 4, 0, 0, 0, 2, 3, 4])), .happens (.room true),
        .happens (.sendFailed (.transport "reset"))]).map (fun r => r.2.flatMap Prod.snd) =
      some (before ++ [.send (.ack 4), .publish .reconnecting, .resume "s" 4]) := by
    decide +kernel
  obtain ⟨⟨s, log⟩, run, did⟩ := Option.map_eq_some_iff.mp ran
  obtain ⟨acks, -, -, requests⟩ := acks_cover_handed settings "s" _ room run
  obtain ⟨counted, enough, -, -⟩ := acks before 4 _ did
  exact ⟨room, s, log, run, did, counted, enough,
    requests (before ++ [.send (.ack 4), .publish .reconnecting]) "s" 4 [] did⟩

end Stream

end RelayTunnel
