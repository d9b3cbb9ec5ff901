import RelayTunnel.Proofs.Session

/-!
# One acknowledgement after the other

An acknowledgement is cumulative: what it releases depends on its count and not on the ones
before it. That is clear of the bytes, but the buffer holds them in payloads, some of them
empty, and a payload may have been cut before. `release_release` says that the payloads are
the same as well.

A session is acknowledged where it stands, counter by counter and payload by payload
(`Session.acknowledging`). A refusal could leave it somewhere in between; it does not.
-/

namespace RelayTunnel

namespace Session

variable {s s' : Session} {a b count : UInt64}

/-! ## Releasing in parts -/

@[simp] theorem release_nil (count : Nat) : release count [] = [] := by
  cases count <;> rfl

theorem release_cons_of_le {count : Nat} {payload : Bytes} (payloads : List Bytes)
    (some : 0 < count) (whole : payload.length ≤ count) :
    release count (payload :: payloads) = release (count - payload.length) payloads := by
  obtain ⟨count, rfl⟩ := Nat.exists_eq_succ_of_ne_zero (Nat.ne_of_gt some)
  rw [release, if_pos whole]

theorem release_cons_of_lt {count : Nat} {payload : Bytes} (payloads : List Bytes)
    (some : 0 < count) (cut : count < payload.length) :
    release count (payload :: payloads) = payload.drop count :: payloads := by
  obtain ⟨count, rfl⟩ := Nat.exists_eq_succ_of_ne_zero (Nat.ne_of_gt some)
  rw [release, if_neg (Nat.not_le.mpr cut)]

/-- Releasing in two parts leaves the same payloads as releasing at once. -/
theorem release_release (first second : Nat) (payloads : List Bytes) :
    release second (release first payloads) = release (first + second) payloads := by
  induction payloads generalizing first with
  | nil => simp
  | cons payload payloads ih =>
    rcases Nat.eq_zero_or_pos first with rfl | some
    · simp
    · rcases Nat.eq_zero_or_pos second with rfl | more
      · simp
      · rcases Nat.lt_or_ge first payload.length with cut | whole
        · rw [release_cons_of_lt payloads some cut]
          have left : (payload.drop first).length = payload.length - first := List.length_drop ..
          -- the second part takes up the payload that the first one has cut
          rcases Nat.lt_or_ge (first + second) payload.length with inside | beyond
          · rw [release_cons_of_lt payloads more (by omega),
              release_cons_of_lt payloads (by omega) inside, List.drop_drop]
          · rw [release_cons_of_le payloads more (by omega),
              release_cons_of_le payloads (by omega) beyond, left]
            congr 1
            omega
        · rw [release_cons_of_le payloads some whole, ih,
            release_cons_of_le payloads (by omega) (by omega)]
          congr 1
          omega

/-! ## Acknowledging in place -/

/-- What is done about the payload in front: it is dropped or cut, and the bytes that remain to
    be dropped get fewer. -/
def releaseFront (payload : Bytes) (remaining : Nat) :
    EStateM Violation Session (ForInStep Nat) := do
  if remaining = 0 then
    return .done remaining
  else if payload.length ≤ remaining then
    modify fun s => { s with replay := s.replay.tail }
    return .yield (remaining - payload.length)
  else
    modify fun s => { s with replay := payload.drop remaining :: s.replay.tail }
    return .yield 0

/-- Drop bytes from the front of the buffer where it stands, payload by payload. -/
def releasing (count : Nat) : EStateM Violation Session Unit := do
  let s ← get
  let _remaining ← forIn s.replay count releaseFront

/-- Acknowledge a session where it stands. What a refusal leaves of it is the state in which
    the refusal was thrown. -/
def acknowledging (count : UInt64) : EStateM Violation Session Unit := do
  let s ← get
  if s.outstanding < count - s.acked then
    throw (.ackOutsideWindow count s.acked s.sent)
  releasing (count - s.acked).toNat
  modify fun s => { s with acked := count }

/-- With nothing left to be dropped the buffer stays as it is. -/
theorem forIn_releaseFront_zero (s : Session) (payloads : List Bytes) :
    forIn payloads 0 releaseFront s = .ok 0 s := by
  cases payloads with
  | nil => rfl
  | cons payload payloads => rw [List.forIn_cons]; rfl

/-- The rounds over a buffer leave what is to be left of it. -/
theorem forIn_releaseFront (s : Session) (count : Nat) (payloads : List Bytes) :
    ∃ remaining, forIn payloads count releaseFront { s with replay := payloads } =
      .ok remaining { s with replay := release count payloads } := by
  induction payloads generalizing count with
  | nil => exact ⟨count, by rw [release_nil]; rfl⟩
  | cons payload payloads ih =>
    rcases Nat.eq_zero_or_pos count with rfl | some
    · exact ⟨0, by rw [release_zero, forIn_releaseFront_zero]⟩
    · have other : count ≠ 0 := Nat.ne_of_gt some
      rw [List.forIn_cons]
      rcases Nat.lt_or_ge count payload.length with cut | whole
      · have rest := forIn_releaseFront_zero
          { s with replay := payload.drop count :: payloads } payloads
        rw [release_cons_of_lt payloads some cut]
        refine ⟨0, ?_⟩
        rw [← rest]
        simp only [bind, EStateM.bind, releaseFront, other, if_false, Nat.not_le.mpr cut]
        rfl
      · obtain ⟨remaining, rest⟩ := ih (count - payload.length)
        rw [release_cons_of_le payloads some whole]
        refine ⟨remaining, ?_⟩
        rw [← rest]
        simp only [bind, EStateM.bind, releaseFront, other, if_false, whole, if_true]
        rfl

theorem run_get_bind (next : Session → EStateM Violation Session Unit) (s : Session) :
    (get >>= next).run s = (next s).run s :=
  rfl

theorem run_releasing (s : Session) (count : Nat) :
    (releasing count).run s = .ok () { s with replay := release count s.replay } := by
  obtain ⟨remaining, rounds⟩ := forIn_releaseFront s count s.replay
  have start : forIn s.replay count releaseFront s =
      .ok remaining { s with replay := release count s.replay } := rounds
  rw [releasing, run_get_bind]
  simp only [EStateM.run, bind, EStateM.bind, start]
  rfl

/-- In place a session comes to what `acknowledge` says, and a refusal leaves it as it was. -/
theorem run_acknowledging (s : Session) (count : UInt64) :
    (acknowledging count).run s =
      match s.acknowledge count with
      | .ok s' => .ok () s'
      | .error violation => .error violation s := by
  by_cases outside : s.outstanding < count - s.acked
  · rw [acknowledging, run_get_bind]
    simp only [acknowledge, outside, if_true]
    rfl
  · have released := run_releasing s (count - s.acked).toNat
    rw [acknowledging, run_get_bind]
    simp only [EStateM.run] at released
    simp only [acknowledge, outside, if_false, EStateM.run, bind, EStateM.bind, released]
    rfl

/-! ## By way of another count -/

/-- From one count on, a later one is as far as both are from the count before. -/
theorem toNat_sub_of_le {acked : UInt64} (rising : a - acked ≤ b - acked) :
    (b - a).toNat = (b - acked).toNat - (a - acked).toNat := by
  rw [UInt64.le_iff_toNat_le] at rising
  simp only [UInt64.toNat_sub] at rising ⊢
  have := a.toNat_lt
  have := b.toNat_lt
  have := acked.toNat_lt
  omega

/-- After an acknowledgement a later one in the window is taken, with the result that it has
    without the first. -/
theorem acknowledge_of_rising (rising : a - s.acked ≤ b - s.acked)
    (within : b - s.acked ≤ s.outstanding) (first : s.acknowledge a = .ok s') :
    b - s'.acked ≤ s'.outstanding ∧ s'.acknowledge b = s.acknowledge b := by
  obtain ⟨inside, rfl⟩ := acknowledge_eq_ok first
  have distance := toNat_sub_of_le rising
  have room := toNat_sub_of_le (b := s.sent) inside
  have further : b - a ≤ s.sent - a := by
    rw [UInt64.le_iff_toNat_le] at rising within ⊢
    rw [distance, room]
    exact Nat.sub_le_sub_right within _
  have parts : (a - s.acked).toNat + (b - a).toNat = (b - s.acked).toNat := by
    rw [UInt64.le_iff_toNat_le] at rising
    omega
  let taken : Session :=
    { s with acked := a, replay := release (a - s.acked).toNat s.replay }
  have second : taken.acknowledge b =
      .ok { taken with acked := b, replay := release (b - a).toNat taken.replay } :=
    acknowledge_of_le (s := taken) further
  refine ⟨further, second.trans ?_⟩
  rw [acknowledge_of_le within]
  simp only [taken, release_release, parts]

/-- Nor do several of them matter that rise up to the last one. -/
theorem foldlM_acknowledge (way : List UInt64) (last : UInt64)
    (rising : ((way ++ [last]).map (· - s.acked)).Pairwise (· ≤ ·))
    (within : last - s.acked ≤ s.outstanding) :
    (way ++ [last]).foldlM acknowledge s = s.acknowledge last := by
  induction way generalizing s with
  | nil =>
    rw [List.nil_append, List.foldlM_cons]
    simp only [List.foldlM_nil, bind_pure]
  | cons count way ih =>
    rw [List.cons_append, List.map_cons, List.pairwise_cons, List.forall_mem_map] at rising
    obtain ⟨least, rising⟩ := rising
    have least_last : count - s.acked ≤ last - s.acked := least last (by simp)
    have first := acknowledge_of_le (UInt64.le_trans least_last within)
    obtain ⟨further, same⟩ := acknowledge_of_rising least_last within first
    rw [List.cons_append, List.foldlM_cons, first]
    refine (ih ?_ further).trans same
    -- distances from the first count rise as those from the count before it
    rw [List.pairwise_map] at rising ⊢
    refine rising.imp_of_mem fun {x y} left right le => ?_
    rw [UInt64.le_iff_toNat_le] at le ⊢
    rw [toNat_sub_of_le (least x left), toNat_sub_of_le (least y right)]
    exact Nat.sub_le_sub_right le _

/-- Wherever the counters of a session stand and however its buffer is cut into payloads: it is
    acknowledged in place as `acknowledge` says, and a refusal leaves it as it was; two counts
    that rise within the window are both taken and leave the session in the state, payload by
    payload, in which the second one alone leaves it; the same holds of any number of counts on
    the way; and a count that was taken is taken once more and changes nothing. -/
theorem acknowledge_by_way (s : Session) :
    (∀ count s', (acknowledging count).run s = .ok () s' ↔ s.acknowledge count = .ok s') ∧
    (∀ count violation s', (acknowledging count).run s = .error violation s' ↔
      s.acknowledge count = .error violation ∧ s' = s) ∧
    (∀ a b, a - s.acked ≤ b - s.acked → b - s.acked ≤ s.outstanding →
      ∃ s₁ s₂, s.acknowledge a = .ok s₁ ∧ s₁.acknowledge b = .ok s₂ ∧
        s.acknowledge b = .ok s₂) ∧
    (∀ way b, ((way ++ [b]).map (· - s.acked)).Pairwise (· ≤ ·) → b - s.acked ≤ s.outstanding →
      (way ++ [b]).foldlM acknowledge s = s.acknowledge b) ∧
    ∀ a s', s.acknowledge a = .ok s' → s'.acknowledge a = .ok s' := by
  refine ⟨fun count s' => ?_, fun count violation s' => ?_, fun a b rising within => ?_,
    fun way b rising within => foldlM_acknowledge way b rising within, fun a s' taken => ?_⟩
  · rw [run_acknowledging]
    cases s.acknowledge count <;> simp
  · rw [run_acknowledging]
    cases s.acknowledge count <;> simp [eq_comm]
  · have first := acknowledge_of_le (UInt64.le_trans rising within)
    have second := acknowledge_of_le within
    obtain ⟨-, same⟩ := acknowledge_of_rising rising within first
    exact ⟨_, _, first, same.trans second, second⟩
  · obtain ⟨inside, -⟩ := acknowledge_eq_ok taken
    exact (acknowledge_of_rising (UInt64.le_refl _) inside taken).2.trans taken

/-- The counters have wrapped, the buffer begins and ends with an empty payload, and the first
    count cuts a payload whose rest the second one drops. -/
theorem acknowledge_by_way_wrapped :
    let s : Session :=
      { sid := "s", sent := 3, acked := UInt64.ofNat (UInt64.size - 3),
        replay := [[], [1, 2], [3, 4], [], [5, 6], []] }
    UInt64.ofNat (UInt64.size - 2) - s.acked ≤ 1 - s.acked ∧ 1 - s.acked ≤ s.outstanding ∧
      ∃ s₁ s₂, s.acknowledge (UInt64.ofNat (UInt64.size - 2)) = .ok s₁ ∧
        s₁.acknowledge 1 = .ok s₂ ∧ s.acknowledge 1 = .ok s₂ ∧
        s₁.replay = [[2], [3, 4], [], [5, 6], []] ∧ s₂.replay = [[], [5, 6], []] := by
  intro s
  have rising : UInt64.ofNat (UInt64.size - 2) - s.acked ≤ 1 - s.acked := by decide
  have within : 1 - s.acked ≤ s.outstanding := by decide
  obtain ⟨s₁, s₂, first, second, direct⟩ := (acknowledge_by_way s).2.2.1 _ _ rising within
  refine ⟨rising, within, s₁, s₂, first, second, direct, ?_, ?_⟩
  · rw [(acknowledge_eq_ok first).2]
    decide
  · rw [(acknowledge_eq_ok direct).2]
    decide

end Session

end RelayTunnel
