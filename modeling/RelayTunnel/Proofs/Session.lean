import RelayTunnel.Session

/-!
# The books of a session

A session counts modulo 2^64 and keeps what the relay may still ask for. Behind
both stands one ledger without bounds: everything that was ever written, and how
much of it the relay has acknowledged. `Session.Balanced` says that a session and a
ledger agree; every entry preserves it, and whatever a session answers can be read
off the ledger as long as fewer than 2^64 bytes await an acknowledgement.
-/

namespace RelayTunnel

namespace Session

/-! ## Releasing acknowledged bytes -/

@[simp] theorem release_zero (payloads : List Bytes) : release 0 payloads = payloads := by
  simp [release]

/-- Releasing drops exactly that many bytes, wherever the payloads are cut. -/
theorem flatten_release (count : Nat) (payloads : List Bytes) :
    (release count payloads).flatten = payloads.flatten.drop count := by
  induction payloads generalizing count with
  | nil => cases count <;> simp [release]
  | cons payload payloads ih =>
    cases count with
    | zero => simp
    | succ count =>
      rw [release, List.flatten_cons, List.drop_append]
      split
      · rename_i whole
        rw [ih, List.drop_eq_nil_of_le whole, List.nil_append]
      · rename_i cut
        rw [List.flatten_cons, Nat.sub_eq_zero_of_le (by omega), List.drop_zero]

/-- What is left after a release is the rest of a payload that was there before. -/
theorem suffix_of_mem_release {count : Nat} {payloads : List Bytes} {payload : Bytes}
    (left : payload ∈ release count payloads) : ∃ whole ∈ payloads, payload <:+ whole := by
  induction payloads generalizing count with
  | nil => cases count <;> cases left
  | cons first payloads ih =>
    cases count with
    | zero => exact ⟨payload, left, List.suffix_rfl⟩
    | succ count =>
      rw [release] at left
      split at left
      · obtain ⟨whole, member, rest⟩ := ih left
        exact ⟨whole, List.mem_cons_of_mem _ member, rest⟩
      · rcases List.mem_cons.mp left with rfl | member
        · exact ⟨first, List.mem_cons_self, List.drop_suffix ..⟩
        · exact ⟨payload, List.mem_cons_of_mem _ member, List.suffix_rfl⟩

/-- Releasing as `release` does, but not past the end of the buffer: `none` where the
    buffer is empty while bytes remain to be released. -/
def releaseWithin? : Nat → List Bytes → Option (List Bytes)
  | 0, payloads => some payloads
  | _ + 1, [] => none
  | count + 1, payload :: payloads =>
    if payload.length ≤ count + 1 then
      releaseWithin? (count + 1 - payload.length) payloads
    else
      some (payload.drop (count + 1) :: payloads)

/-- A buffer that holds enough bytes does not run empty. -/
theorem releaseWithin?_eq_some {count : Nat} {payloads : List Bytes}
    (enough : count ≤ payloads.flatten.length) :
    releaseWithin? count payloads = some (release count payloads) := by
  induction payloads generalizing count with
  | nil =>
    obtain rfl : count = 0 := by simpa using enough
    simp [releaseWithin?]
  | cons payload payloads ih =>
    cases count with
    | zero => simp [releaseWithin?]
    | succ count =>
      rw [List.flatten_cons, List.length_append] at enough
      rw [releaseWithin?, release]
      split
      · exact ih (by omega)
      · rfl

/-! ## The ledger -/

/-- The session agrees with a ledger of the bytes written in it, of which the relay has
    acknowledged so many. -/
structure Balanced (s : Session) (written : Bytes) (acknowledged : Nat) : Prop where
  le : acknowledged ≤ written.length
  sent : s.sent = UInt64.ofNat written.length
  acked : s.acked = UInt64.ofNat acknowledged
  replay : s.replay.flatten = written.drop acknowledged

namespace Balanced

variable {s s' : Session} {written : Bytes} {acknowledged : Nat}

theorem start (sid : String) : Balanced { sid } [] 0 where
  le := Nat.le_refl 0
  sent := rfl
  acked := rfl
  replay := rfl

/-- The replay buffer holds what is written and not acknowledged. -/
theorem replaySize (h : s.Balanced written acknowledged) :
    s.replaySize = written.length - acknowledged := by
  rw [Session.replaySize, h.replay, List.length_drop]

theorem outstanding (h : s.Balanced written acknowledged) :
    s.outstanding.toNat = (written.length - acknowledged) % UInt64.size := by
  have le := h.le
  rw [Session.outstanding, h.sent, h.acked]
  simp only [UInt64.toNat_sub, UInt64.toNat_ofNat']
  simp only [UInt64.size]
  omega

/-- Only the counters and the buffer of sent bytes matter. -/
theorem congr (h : s.Balanced written acknowledged) (sent : s'.sent = s.sent)
    (acked : s'.acked = s.acked) (replay : s'.replay = s.replay) :
    s'.Balanced written acknowledged where
  le := h.le
  sent := sent.trans h.sent
  acked := acked.trans h.acked
  replay := replay ▸ h.replay

theorem recordReceived (h : s.Balanced written acknowledged) (count : Nat) :
    (s.recordReceived count).Balanced written acknowledged :=
  h.congr rfl rfl rfl

theorem takeAck (h : s.Balanced written acknowledged) :
    s.takeAck.Balanced written acknowledged :=
  h.congr rfl rfl rfl

theorem recordSent (h : s.Balanced written acknowledged) (payload : Bytes) :
    (s.recordSent payload).Balanced (written ++ payload) acknowledged where
  le := by
    have le := h.le
    rw [List.length_append]
    omega
  sent := by
    simp only [Session.recordSent, h.sent, List.length_append, UInt64.ofNat_add]
  acked := h.acked
  replay := by
    simp only [Session.recordSent, List.flatten_append, h.replay,
      List.drop_append_of_le_length h.le, List.flatten_cons, List.flatten_nil, List.append_nil]

end Balanced

/-! ## Acknowledgements -/

theorem acknowledge_eq_ok {s s' : Session} {count : UInt64} (h : s.acknowledge count = .ok s') :
    count - s.acked ≤ s.outstanding ∧
      s' = { s with acked := count, replay := release (count - s.acked).toNat s.replay } := by
  simp only [acknowledge] at h
  split at h
  · cases h
  · rename_i within
    exact ⟨UInt64.not_lt.mp within, (Except.ok.inj h).symm⟩

theorem acknowledge_of_le {s : Session} {count : UInt64}
    (within : count - s.acked ≤ s.outstanding) :
    s.acknowledge count =
      .ok { s with acked := count, replay := release (count - s.acked).toNat s.replay } := by
  simp only [acknowledge]
  exact if_neg (UInt64.not_lt.mpr within)

theorem acknowledge_sid {s s' : Session} {count : UInt64} (h : s.acknowledge count = .ok s') :
    s'.sid = s.sid := by
  rw [(acknowledge_eq_ok h).2]

theorem acknowledge_received {s s' : Session} {count : UInt64}
    (h : s.acknowledge count = .ok s') : s'.received = s.received := by
  rw [(acknowledge_eq_ok h).2]

/-- Acknowledging does not lengthen a payload. -/
theorem acknowledge_length {s s' : Session} {count : UInt64} {limit : Nat}
    (taken : s.acknowledge count = .ok s') (short : ∀ payload ∈ s.replay, payload.length ≤ limit) :
    ∀ payload ∈ s'.replay, payload.length ≤ limit := by
  intro payload left
  rw [(acknowledge_eq_ok taken).2] at left
  obtain ⟨whole, member, rest⟩ := suffix_of_mem_release left
  exact Nat.le_trans rest.length_le (short whole member)

namespace Balanced

variable {s s' : Session} {written : Bytes} {acknowledged : Nat} {count : UInt64}

/-- An acknowledgement that is taken does not go beyond what is in the buffer. -/
theorem advance_le (h : s.Balanced written acknowledged) (taken : s.acknowledge count = .ok s') :
    acknowledged + (count - s.acked).toNat ≤ written.length := by
  have within := UInt64.le_iff_toNat_le.mp (acknowledge_eq_ok taken).1
  have le := h.le
  have mod := Nat.mod_le (written.length - acknowledged) UInt64.size
  rw [h.outstanding] at within
  omega

/-- An acknowledgement that is taken moves the ledger by its distance from the one
    before. -/
theorem acknowledge (h : s.Balanced written acknowledged) (taken : s.acknowledge count = .ok s') :
    s'.Balanced written (acknowledged + (count - s.acked).toNat) where
  le := h.advance_le taken
  sent := by rw [(acknowledge_eq_ok taken).2, h.sent]
  acked := by
    rw [(acknowledge_eq_ok taken).2, UInt64.ofNat_add, ← h.acked, UInt64.ofNat_toNat,
      UInt64.add_comm, UInt64.sub_add_cancel]
  replay := by
    rw [(acknowledge_eq_ok taken).2, flatten_release, h.replay, List.drop_drop]

/-- Releasing for an acknowledgement that is taken never finds the buffer empty too
    early. -/
theorem releaseWithin? (h : s.Balanced written acknowledged)
    (taken : s.acknowledge count = .ok s') :
    Session.releaseWithin? (count - s.acked).toNat s.replay = some s'.replay := by
  have advance := h.advance_le taken
  rw [releaseWithin?_eq_some (by rw [h.replay, List.length_drop]; omega),
    (acknowledge_eq_ok taken).2]

section

variable (h : s.Balanced written acknowledged)
  (bounded : written.length < acknowledged + UInt64.size)
include h bounded

/-- With fewer than 2^64 bytes unacknowledged the count of them is exact. -/
theorem outstanding_eq : s.outstanding.toNat = written.length - acknowledged := by
  have le := h.le
  rw [h.outstanding, Nat.mod_eq_of_lt (by omega)]

/-- Then exactly the acknowledgements up to the bytes written are taken. -/
theorem acknowledge_isOk_iff :
    (∃ s', s.acknowledge count = .ok s') ↔
      (count - s.acked).toNat ≤ written.length - acknowledged := by
  rw [← h.outstanding_eq bounded, ← UInt64.le_iff_toNat_le]
  constructor
  · rintro ⟨s', taken⟩
    exact (acknowledge_eq_ok taken).1
  · intro within
    exact ⟨_, acknowledge_of_le within⟩

/-- The count of a number of bytes between the acknowledged and the written ones is taken,
    and means that number. -/
theorem acknowledge_ofNat {number : Nat} (least : acknowledged ≤ number)
    (most : number ≤ written.length) :
    ∃ s', s.acknowledge (UInt64.ofNat number) = .ok s' ∧ s'.Balanced written number := by
  have advance : (UInt64.ofNat number - s.acked).toNat = number - acknowledged := by
    rw [h.acked]
    simp only [UInt64.size] at bounded
    simp only [UInt64.toNat_sub, UInt64.toNat_ofNat']
    omega
  obtain ⟨s', taken⟩ := (h.acknowledge_isOk_iff bounded).mpr
    (show (UInt64.ofNat number - s.acked).toNat ≤ _ by omega)
  have after := h.acknowledge taken
  rw [advance, Nat.add_sub_cancel' least] at after
  exact ⟨s', taken, after⟩

end

end Balanced

/-! ## Any sequence of entries -/

/-- Something that is entered into the books of a session. -/
inductive Entry where
  | sent (payload : Bytes)
  | acknowledged (count : UInt64)
  | received (count : Nat)
  | ackTaken
  deriving DecidableEq, Repr

/-- The session after an entry. An acknowledgement outside the window is refused and
    changes nothing. -/
def enter (s : Session) : Entry → Session
  | .sent payload => s.recordSent payload
  | .acknowledged count =>
    match s.acknowledge count with
    | .ok s' => s'
    | .error _ => s
  | .received count => s.recordReceived count
  | .ackTaken => s.takeAck

/-- The bytes that an entry adds to what was written. -/
def Entry.payload : Entry → Bytes
  | .sent payload => payload
  | _ => []

/-- By how much an entry moves the acknowledged count. -/
def advance (s : Session) : Entry → Nat
  | .acknowledged count =>
    match s.acknowledge count with
    | .ok _ => (count - s.acked).toNat
    | .error _ => 0
  | _ => 0

/-- Everything written by a sequence of entries. -/
def written (entries : List Entry) : Bytes := entries.flatMap Entry.payload

/-- The total advance of the acknowledgements that are taken on the way. -/
def advanced (s : Session) : List Entry → Nat
  | [] => 0
  | entry :: entries => s.advance entry + (s.enter entry).advanced entries

/-- One entry keeps session and ledger in agreement. -/
theorem Balanced.enter {s : Session} {written : Bytes} {acknowledged : Nat}
    (h : s.Balanced written acknowledged) (entry : Entry) :
    (s.enter entry).Balanced (written ++ entry.payload) (acknowledged + s.advance entry) := by
  cases entry with
  | sent payload => exact h.recordSent payload
  | acknowledged count =>
    simp only [Session.enter, Entry.payload, advance, List.append_nil]
    cases taken : s.acknowledge count with
    | ok s' => exact h.acknowledge taken
    | error violation => exact h
  | received count =>
    simpa [Session.enter, Entry.payload, advance] using h.recordReceived count
  | ackTaken =>
    simpa [Session.enter, Entry.payload, advance] using h.takeAck

/-- So does any sequence of them. -/
theorem Balanced.enterAll {s : Session} {before : Bytes} {acknowledged : Nat}
    (h : s.Balanced before acknowledged) (entries : List Entry) :
    (entries.foldl Session.enter s).Balanced (before ++ written entries)
      (acknowledged + s.advanced entries) := by
  induction entries generalizing s before acknowledged with
  | nil => simpa [written, advanced] using h
  | cons entry entries ih =>
    have after := ih (h.enter entry)
    rw [List.append_assoc, Nat.add_assoc] at after
    exact after

/-- The books of a new session always balance: after any sequence of entries, with fewer
    than 2^64 bytes unacknowledged, the counters and the buffer are those of the bytes
    written and of the total advance of the acknowledgements taken; the next
    acknowledgement is taken exactly if it does not go beyond what was written, and
    releasing what it covers never runs out of payloads. -/
theorem books_balance (sid : String) (entries : List Entry)
    (bounded : (written entries).length < advanced { sid } entries + UInt64.size) :
    let s : Session := entries.foldl enter { sid }
    let w := written entries
    let a := advanced { sid } entries
    a ≤ w.length ∧
      s.sent.toNat = w.length % UInt64.size ∧
      s.acked.toNat = a % UInt64.size ∧
      s.outstanding.toNat = w.length - a ∧
      s.replay.flatten = w.drop a ∧
      s.replaySize = s.outstanding.toNat ∧
      (∀ count, (∃ s', s.acknowledge count = .ok s') ↔ (count - s.acked).toNat ≤ w.length - a) ∧
      ∀ count s', s.acknowledge count = .ok s' →
        releaseWithin? (count - s.acked).toNat s.replay = some s'.replay := by
  intro s w a
  have balanced : s.Balanced w a := by
    simpa using (Balanced.start sid).enterAll entries
  refine ⟨balanced.le, ?_, ?_, balanced.outstanding_eq bounded, balanced.replay, ?_, ?_, ?_⟩
  · rw [balanced.sent, UInt64.toNat_ofNat']
  · rw [balanced.acked, UInt64.toNat_ofNat']
  · rw [balanced.replaySize, balanced.outstanding_eq bounded]
  · intro count
    exact balanced.acknowledge_isOk_iff bounded
  · intro count s' taken
    exact balanced.releaseWithin? taken

/-- A run with an empty payload, a payload cut by an acknowledgement, and acknowledgements
    refused on both sides of the window. -/
theorem books_balance_cut_payload :
    let entries : List Entry :=
      [.sent [1, 2, 3], .sent [], .acknowledged 2, .received 7, .acknowledged 1, .sent [4, 5],
        .acknowledged 6, .ackTaken, .acknowledged 4]
    (written entries).length < advanced { sid := "s" } entries + UInt64.size ∧
      advanced { sid := "s" } entries = 4 ∧
      (entries.foldl enter { sid := "s" }).replay.flatten = (written entries).drop 4 :=
  ⟨by decide, by decide, (books_balance "s" _ (by decide)).2.2.2.2.1⟩

end Session

end RelayTunnel
