import RelayTunnel.Frame.Wire

/-!
# One message for each frame

Reading undoes writing and accepts nothing else: a message is read as a frame exactly if it
is what writing that frame gives. Every layout has its own lemma, which says which bodies
are read as what; the frames follow by their tags. A message with a tag of its own is
skipped and any other one is a breach of the protocol.
-/

namespace RelayTunnel

/-! ## Numbers in big-endian order -/

namespace BigEndian

theorem decode_concat (bytes : Bytes) (byte : UInt8) :
    decode (bytes ++ [byte]) = decode bytes * 256 + byte.toNat := by
  simp [decode, List.foldl_append]

/-- The digits of a number that fits denote it. -/
theorem decode_encode {width n : Nat} (fits : n < Nat.pow 256 width) :
    decode (encode width n) = n := by
  induction width generalizing n with
  | zero =>
    obtain rfl : n = 0 := Nat.lt_one_iff.mp fits
    rfl
  | succ width ih =>
    have front : n / 256 < Nat.pow 256 width :=
      Nat.div_lt_of_lt_mul (Nat.mul_comm _ 256 ▸ fits)
    rw [encode, decode_concat, ih front, UInt8.toNat_ofNat']
    omega

/-- As many digits as there are bytes give the bytes back. -/
theorem encode_decode {width : Nat} {bytes : Bytes} (length : bytes.length = width) :
    encode width (decode bytes) = bytes := by
  induction width generalizing bytes with
  | zero =>
    obtain rfl := List.eq_nil_of_length_eq_zero length
    rfl
  | succ width ih =>
    obtain rfl | ⟨front, byte, rfl⟩ := List.eq_nil_or_concat bytes
    · cases length
    · have front_length : front.length = width := by simpa using length
      have below := byte.toNat_lt
      have quotient : (decode front * 256 + byte.toNat) / 256 = decode front := by omega
      have last : UInt8.ofNat (decode front * 256 + byte.toNat) = byte := by
        apply UInt8.toNat_inj.mp
        rw [UInt8.toNat_ofNat']
        omega
      rw [List.concat_eq_append, encode, decode_concat, quotient, ih front_length, last]

/-- So many bytes denote a number below that power of 256. -/
theorem decode_lt {width : Nat} {bytes : Bytes} (length : bytes.length = width) :
    decode bytes < Nat.pow 256 width := by
  induction width generalizing bytes with
  | zero =>
    obtain rfl := List.eq_nil_of_length_eq_zero length
    exact Nat.one_pos
  | succ width ih =>
    obtain rfl | ⟨front, byte, rfl⟩ := List.eq_nil_or_concat bytes
    · cases length
    · have before : decode front < Nat.pow 256 width := ih (by simpa using length)
      have below := byte.toNat_lt
      have power : Nat.pow 256 (width + 1) = Nat.pow 256 width * 256 := rfl
      rw [List.concat_eq_append, decode_concat, power]
      omega

end BigEndian

/-! ## Tags -/

namespace FrameKind

theorem ofTag?_eq_some {tag : Nat} {kind : FrameKind} :
    ofTag? tag = some kind ↔ kind.tag = some tag := by
  unfold ofTag?
  cases kind <;> simp only [FrameKind.tag] <;> grind

theorem ofTag?_eq_none {tag : Nat} :
    ofTag? tag = none ↔ tag ∉ [0x0001, 0x0002, 0x0004, 0x0007] := by
  unfold ofTag?
  grind

end FrameKind

namespace Wire

variable {kind : FrameKind} {limit : Nat} {body payload m : Bytes} {frame : Frame}

/-! ## Bodies -/

theorem take_append_encode (width n : Nat) (rest : Bytes) :
    (BigEndian.encode width n ++ rest).take width = BigEndian.encode width n :=
  List.take_left' (BigEndian.length_encode width n)

theorem drop_append_encode (width n : Nat) (rest : Bytes) :
    (BigEndian.encode width n ++ rest).drop width = rest :=
  List.drop_left' (BigEndian.length_encode width n)

/-- A body with its length in front is read exactly if the length is that of the rest and
    within the limit. -/
theorem readPrefixed_eq_ok (narrow : limit < Nat.pow 256 4) :
    readPrefixed kind limit body = .ok payload ↔
      payload.length ≤ limit ∧ body = prefixed payload := by
  constructor
  · intro read
    unfold readPrefixed at read
    split at read
    · cases read
    · rename_i enough
      dsimp only at read
      split at read
      · cases read
      · rename_i within
        split at read <;> cases read
        rename_i same
        have carried : (body.drop 4).length = BigEndian.decode (body.take 4) :=
          Decidable.not_not.mp same
        have four : (body.take 4).length = 4 := List.length_take_of_le (by omega)
        refine ⟨by omega, ?_⟩
        rw [prefixed, carried, BigEndian.encode_decode four, List.take_append_drop]
  · rintro ⟨within, rfl⟩
    have declared : BigEndian.decode ((prefixed payload).take 4) = payload.length := by
      rw [prefixed, take_append_encode, BigEndian.decode_encode (by omega)]
    have carried : (prefixed payload).drop 4 = payload := drop_append_encode ..
    have enough : ¬ (prefixed payload).length < 4 := by simp [prefixed]
    simp only [readPrefixed, if_neg enough, declared, carried]
    rw [if_neg (by omega), if_neg (by simp)]

/-- A count is read from its eight digits and nothing else. -/
theorem readCount_eq_ok {count : UInt64} :
    readCount kind body = .ok count ↔ body = BigEndian.encode 8 count.toNat := by
  constructor
  · intro read
    unfold readCount at read
    split at read <;> cases read
    rename_i same
    have eight : body.length = 8 := Decidable.not_not.mp same
    have below : BigEndian.decode body < UInt64.size := BigEndian.decode_lt eight
    rw [UInt64.toNat_ofNat_of_lt' below, BigEndian.encode_decode eight]
  · rintro rfl
    have fits : count.toNat < Nat.pow 256 8 := count.toNat_lt
    simp [readCount, BigEndian.decode_encode fits]

/-- The name of a session is read from its bytes in UTF-8. -/
theorem readSid_eq_ok {sid : String} :
    readSid body = .ok sid ↔
      (Utf8.encode sid).length ≤ maxSid ∧ body = prefixed (Utf8.encode sid) := by
  have name_iff (name : Bytes) : readPrefixed .connectSuccess maxSid body = .ok name ↔
      name.length ≤ maxSid ∧ body = prefixed name := readPrefixed_eq_ok (by decide)
  rw [← name_iff]
  unfold readSid
  cases read : readPrefixed .connectSuccess maxSid body with
  | error violation => simp [bind, Except.bind]
  | ok name =>
    simp only [bind, Except.bind, Except.ok.injEq]
    rw [eq_comm (a := name), ← Utf8.decode?_eq_some_iff]
    cases Utf8.decode? name <;> simp

/-! ## Messages -/

/-- A message of two bytes or more is that of its tag around the bytes behind it. -/
theorem message_decode (high low : UInt8) (body : Bytes) :
    message (BigEndian.decode [high, low]) body = high :: low :: body := by
  have digits : BigEndian.encode 2 (BigEndian.decode [high, low]) = [high, low] :=
    BigEndian.encode_decode rfl
  rw [message, digits]
  rfl

/-- A body that has to be read first is read as a frame exactly if it can be read. -/
theorem read_eq_ok {α : Type} {reading : Except Violation α} {make : α → Frame} :
    (do return some (make (← reading)) : Except Violation (Option Frame)) = .ok (some frame) ↔
      ∃ content, reading = .ok content ∧ make content = frame := by
  cases reading <;> simp [bind, Except.bind, pure, Except.pure]

theorem encode_of_decode (read : decode m = .ok (some frame)) : encode frame = .ok m := by
  unfold decode at read
  split at read
  · rename_i high low body
    rw [← message_decode high low body]
    cases announced : FrameKind.ofTag? (BigEndian.decode [high, low]) with
    | none =>
      rw [announced] at read
      cases read
    | some kind =>
      have tag := FrameKind.ofTag?_eq_some.mp announced
      rw [announced] at read
      cases kind with
      | connectSuccess =>
        obtain ⟨sid, named, rfl⟩ := read_eq_ok.mp read
        obtain ⟨short, rfl⟩ := readSid_eq_ok.mp named
        rw [← Option.some.inj tag, encode, if_neg (by omega)]
      | reconnectSuccess =>
        obtain ⟨count, counted, rfl⟩ := read_eq_ok.mp read
        rw [← Option.some.inj tag, readCount_eq_ok.mp counted, encode]
      | data =>
        obtain ⟨payload, carried, rfl⟩ := read_eq_ok.mp read
        obtain ⟨small, rfl⟩ := (readPrefixed_eq_ok (by decide)).mp carried
        rw [← Option.some.inj tag, encode, if_neg (by omega)]
      | ack =>
        obtain ⟨count, counted, rfl⟩ := read_eq_ok.mp read
        rw [← Option.some.inj tag, readCount_eq_ok.mp counted, encode]
      | close => cases tag
  · cases read

/-- The message of a kind starts with the two bytes that announce it. -/
theorem message_announces (kind : FrameKind) {tag : Nat} (tagged : kind.tag = some tag) (body : Bytes) :
    ∃ high low, message tag body = high :: low :: body ∧
      FrameKind.ofTag? (BigEndian.decode [high, low]) = some kind := by
  cases kind <;> cases tagged <;> exact ⟨_, _, rfl, by decide⟩

theorem decode_of_encode (written : encode frame = .ok m) : decode m = .ok (some frame) := by
  unfold encode at written
  split at written
  · rename_i sid
    dsimp only at written
    split at written <;> cases written
    obtain ⟨high, low, bytes, announced⟩ :=
      message_announces .connectSuccess rfl (prefixed (Utf8.encode sid))
    rw [bytes, decode, announced]
    exact read_eq_ok.mpr ⟨sid, readSid_eq_ok.mpr ⟨by omega, rfl⟩, rfl⟩
  · rename_i count
    cases written
    obtain ⟨high, low, bytes, announced⟩ :=
      message_announces .reconnectSuccess rfl (BigEndian.encode 8 count.toNat)
    rw [bytes, decode, announced]
    exact read_eq_ok.mpr ⟨count, readCount_eq_ok.mpr rfl, rfl⟩
  · rename_i payload
    split at written <;> cases written
    obtain ⟨high, low, bytes, announced⟩ :=
      message_announces .data rfl (prefixed payload)
    rw [bytes, decode, announced]
    exact read_eq_ok.mpr ⟨payload, (readPrefixed_eq_ok (by decide)).mpr ⟨by omega, rfl⟩, rfl⟩
  · rename_i count
    cases written
    obtain ⟨high, low, bytes, announced⟩ :=
      message_announces .ack rfl (BigEndian.encode 8 count.toNat)
    rw [bytes, decode, announced]
    exact read_eq_ok.mpr ⟨count, readCount_eq_ok.mpr rfl, rfl⟩
  · cases written

/-- Reading undoes writing and accepts nothing else. -/
theorem decode_eq_some_iff : decode m = .ok (some frame) ↔ encode frame = .ok m :=
  ⟨encode_of_decode, decode_of_encode⟩

/-- Skipped are the messages with a tag that announces nothing. -/
theorem decode_eq_none_iff :
    decode m = .ok none ↔
      2 ≤ m.length ∧ BigEndian.decode (m.take 2) ∉ [0x0001, 0x0002, 0x0004, 0x0007] := by
  rw [← FrameKind.ofTag?_eq_none]
  rcases m with _ | ⟨high, _ | ⟨low, body⟩⟩
  · simp [decode]
  · simp [decode]
  · have long : 2 ≤ (high :: low :: body).length := by simp
    simp only [decode, long, true_and, List.take_succ_cons, List.take_zero]
    cases announced : FrameKind.ofTag? (BigEndian.decode [high, low]) with
    | none => simp [pure, Except.pure]
    | some kind =>
      have read_ne_none {α : Type} {reading : Except Violation α} {make : α → Frame} :
          (do return some (make (← reading)) : Except Violation (Option Frame)) ≠ .ok none := by
        cases reading <;> simp [bind, Except.bind, pure, Except.pure]
      cases kind with
      | connectSuccess => exact iff_of_false read_ne_none (by simp)
      | reconnectSuccess => exact iff_of_false read_ne_none (by simp)
      | data => exact iff_of_false read_ne_none (by simp)
      | ack => exact iff_of_false read_ne_none (by simp)
      | close => cases FrameKind.ofTag?_eq_some.mp announced

/-! ## Frames without a message -/

/-- Not every frame has a form on the wire: names and payloads have a limit, and a close is
    carried otherwise. -/
theorem encode_eq_error_iff :
    (∃ error, encode frame = .error error) ↔
      (∃ sid, frame = .connectSuccess sid ∧ 1024 < (Utf8.encode sid).length) ∨
        (∃ payload, frame = .data payload ∧ 16384 < payload.length) ∨
        ∃ code reason, frame = .close code reason := by
  cases frame with
  | connectSuccess sid =>
    simp only [encode]
    split <;> simp_all [maxSid]
  | reconnectSuccess count => simp [encode]
  | data payload =>
    simp only [encode]
    split <;> simp_all [maxPayload]
  | ack count => simp [encode]
  | close code reason => simp [encode]

/-- Messages and frames correspond: a message is read as a frame if and only if that frame is
    written as the message. Of the other messages those with a tag of their own are skipped,
    and all others are breaches of the protocol. A frame has no message exactly if its name
    or payload is too long or if it is a close. -/
theorem decode_encode_correspond :
    (∀ m frame, decode m = .ok (some frame) ↔ encode frame = .ok m) ∧
      (∀ m, decode m = .ok none ↔
        2 ≤ m.length ∧ BigEndian.decode (m.take 2) ∉ [0x0001, 0x0002, 0x0004, 0x0007]) ∧
      (∀ m, (∃ violation, decode m = .error violation) ↔
        (∀ frame, encode frame ≠ .ok m) ∧
          ¬ (2 ≤ m.length ∧ BigEndian.decode (m.take 2) ∉ [0x0001, 0x0002, 0x0004, 0x0007])) ∧
      ∀ frame, (∃ error, encode frame = .error error) ↔
        (∃ sid, frame = .connectSuccess sid ∧ 1024 < (Utf8.encode sid).length) ∨
          (∃ payload, frame = .data payload ∧ 16384 < payload.length) ∨
          ∃ code reason, frame = .close code reason := by
  refine ⟨fun m frame => decode_eq_some_iff, fun m => decode_eq_none_iff, fun m => ?_,
    fun frame => encode_eq_error_iff⟩
  rw [← decode_eq_none_iff]
  simp only [ne_eq, ← decode_eq_some_iff]
  rcases decode m with violation | _ | frame <;> simp

end Wire

end RelayTunnel
