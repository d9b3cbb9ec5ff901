import RelayTunnel.Proofs.Feed
import RelayTunnel.Relaying

/-!
# What a relaying can do in one step

Nobody tells the tunnel to stop, and the client neither ends its side nor is lost. While
both loops are copying, `Relaying.Copies` says what can happen, with one constructor for
each way in which one of the loops goes on or ends; afterwards only the end of the stream
is waited for.
-/

namespace RelayTunnel

/-! ## Happenings and actions -/

namespace RelayingHappening

/-- The bytes of the stream that a happening brings. -/
def brought : RelayingHappening → Bytes
  | .carrier happening => happening.brought
  | _ => []

/-- Whether a happening is that the tunnel is told to stop, or that the client ends its side or
    is lost. -/
def isDisturbance : RelayingHappening → Bool
  | .cancel | .carrier .cancel | .clientEnded | .clientLost _ => true
  | _ => false

/-- Whether a happening takes the client further through what the stream has brought, or the
    relaying to its end. -/
def isProgress : RelayingHappening → Bool
  | .goOnDown | .clientTook _ | .streamEnded => true
  | _ => false

/-- Unless it is disturbed, the carrier is not told to end. -/
theorem ne_cancel {happening : Happening}
    (undisturbed : isDisturbance (.carrier happening) = false) : happening ≠ .cancel := by
  rintro rfl
  cases undisturbed

end RelayingHappening

/-- The bytes that an action brings to the client. -/
def RelayingAction.bytes : RelayingAction → Bytes
  | .toClient bytes => bytes
  | .carrier _ | .shutClient => []

namespace Inbound

/-- What the client has not taken of a piece. -/
def rest : Inbound → Bytes
  | .stream => []
  | .client rest _ => rest

/-- How much the client has taken of a piece, which does not count before all of it is. -/
def taken : Inbound → Nat
  | .stream => 0
  | .client rest size => size - rest.length

end Inbound

/-! ## While both loops are copying -/

namespace Relaying

variable {settings : RelaySettings} {r r' : Relaying} {s : Stream} {up : Outbound}
  {down : Inbound} {happening : RelayingHappening} {actions : List RelayingAction}

/-- What a relaying that nobody disturbs can do while both loops are copying. -/
inductive Copies (settings : RelaySettings) (r : Relaying) (s : Stream) :
    Outbound → Inbound → RelayingHappening → Relaying → List RelayingAction → Prop
  | carried {up : Outbound} {down : Inbound} {happening : Happening} {s' : Stream}
      {actions : List Action} (moved : s.step? settings happening = some (s', actions)) :
      Copies settings r s up down (.carrier happening) (r.withStream s') (actions.map .carrier)
  | sent {down : Inbound} {bytes : Bytes} :
      Copies settings r s .client down (.clientSent bytes)
        { r with
          traffic := r.traffic.recordReceived bytes.length
          stream := some (s.beginWrite bytes)
          phase := .copying .stream down } []
  | wrote {down : Inbound} (up : Outbound) :
      Copies settings r s .stream down .goOnUp
        { r with stream := some s.goOnWriting.1, phase := .copying up down } []
  | refused {down : Inbound} {error : RelayError}
      (answer : s.goOnWriting.2 = some (.error error)) :
      Copies settings r s .stream down .goOnUp
        ((r.withStream s.goOnWriting.1).finish (.error (.relay error))).1 []
  | read {up : Outbound} {payload : Bytes} {s' : Stream}
      (found : s.takeChunk? = some (.data payload, s')) :
      Copies settings r s up .stream .goOnDown
        { r with stream := some s', phase := .copying up (.client payload payload.length) } []
  | finished {up : Outbound} {result : ReadResult} {s' : Stream} {verdict : Except SessionError Unit}
      (found : s.takeChunk? = some (result, s')) (nothing : ∀ payload, result ≠ .data payload)
      (ends : result = .endOfFile → verdict = .ok ()) :
      Copies settings r s up .stream .goOnDown ((r.withStream s').finish verdict).1 []
  | tookPart {up : Outbound} {rest : Bytes} {size count : Nat} (positive : 0 < count)
      (part : count < rest.length) :
      Copies settings r s up (.client rest size) (.clientTook count)
        { r with phase := .copying up (.client (rest.drop count) size) }
        [.toClient (rest.take count)]
  | tookAll {up : Outbound} {rest : Bytes} {size : Nat} :
      Copies settings r s up (.client rest size) (.clientTook rest.length)
        { r with traffic := r.traffic.recordSent size, phase := .copying up .stream }
        [.toClient rest]

theorem goOnUp_copies (r : Relaying) (s : Stream) (down : Inbound)
    (copying : r.phase = .copying .stream down) :
    Copies settings r s .stream down .goOnUp (r.goOnUp down s).1 (r.goOnUp down s).2 := by
  unfold goOnUp
  split
  next s' went =>
    obtain rfl : s.goOnWriting.1 = s' := congrArg Prod.fst went
    have waits : Copies settings r s .stream down .goOnUp _ _ := .wrote .stream
    rwa [← copying] at waits
  next s' went =>
    obtain rfl : s.goOnWriting.1 = s' := congrArg Prod.fst went
    exact .wrote .client
  next s' error went =>
    obtain rfl : s.goOnWriting.1 = s' := congrArg Prod.fst went
    exact .refused (congrArg Prod.snd went)

theorem goOnDown_copies {move : Move} (h : r.goOnDown up s = some move) :
    Copies settings r s up .stream .goOnDown move.1 move.2 := by
  obtain ⟨⟨result, s'⟩, found, rfl⟩ := Option.map_eq_some_iff.mp h
  cases result with
  | data payload => exact .read found
  | endOfFile => exact .finished found (by simp) (fun _ => rfl)
  | failed error => exact .finished found (by simp) (by simp)

theorem clientTook_copies {rest : Bytes} {size count : Nat} (positive : 0 < count)
    (within : count ≤ rest.length) :
    Copies settings r s up (.client rest size) (.clientTook count)
      (r.clientTook up rest size count).1 (r.clientTook up rest size count).2 := by
  unfold clientTook
  rcases Nat.lt_or_eq_of_le within with part | rfl
  · have left : (rest.drop count).isEmpty = false := by
      simpa using part
    simp only [left, Bool.false_eq_true, if_false]
    exact .tookPart positive part
  · simp only [List.drop_length, List.isEmpty_nil, if_true, List.take_length]
    exact .tookAll

/-- While both loops are copying, nothing else can happen. -/
theorem copies_of_step? (copying : r.phase = .copying up down) (stream : r.stream = some s)
    (untold : r.cancelled = false) (undisturbed : happening.isDisturbance = false)
    (h : r.step? settings happening = some (r', actions)) :
    r.Copies settings s up down happening r' actions := by
  cases happening with
  | cancel | clientEnded | clientLost => cases undisturbed
  | notice => simp [step?, copying, untold] at h
  | opened | openFailed | streamEnded => simp [step?, copying] at h
  | carrier happening =>
    simp only [step?, copying, stream, Option.map_eq_some_iff, Prod.exists] at h
    obtain ⟨s', did, moved, same⟩ := h
    cases same
    exact .carried moved
  | clientSent bytes =>
    cases up with
    | stream => simp [step?, copying] at h
    | client =>
      simp only [step?, copying, stream] at h
      split at h <;> cases h
      exact .sent
  | goOnUp =>
    cases up with
    | client => simp [step?, copying] at h
    | stream =>
      simp only [step?, copying, stream, Option.some.injEq] at h
      have went : Copies settings r s .stream down .goOnUp _ _ := goOnUp_copies r s down copying
      rwa [h] at went
  | goOnDown =>
    cases down with
    | client => simp [step?, copying] at h
    | stream =>
      simp only [step?, copying, stream] at h
      exact goOnDown_copies h
  | clientTook count =>
    cases down with
    | stream => simp [step?, copying] at h
    | client rest size =>
      simp only [step?, copying, stream] at h
      split at h
      · cases h
      · rename_i within
        simp only [Bool.or_eq_true, decide_eq_true_eq, not_or] at within
        cases h
        exact clientTook_copies (by omega) (by omega)

/-! ## When a loop has ended -/

/-- While the stream is being closed, something may happen to its carrier, and its end is
    noticed. -/
theorem closing_of_step? {result : Except SessionError Unit} (closing : r.phase = .closing result)
    (stream : r.stream = some s) (undisturbed : happening.isDisturbance = false)
    (h : r.step? settings happening = some (r', actions)) :
    (∃ happening' s' did, happening = .carrier happening' ∧
        s.step? settings happening' = some (s', did) ∧ r' = r.withStream s' ∧
        actions = did.map .carrier) ∨
      happening = .streamEnded ∧ r' = { r with phase := .ended (verdict r.traffic result) } ∧
        actions = [.shutClient] := by
  cases happening with
  | cancel => cases undisturbed
  | carrier happening =>
    simp only [step?, closing, stream, Option.map_eq_some_iff, Prod.exists] at h
    obtain ⟨s', did, moved, same⟩ := h
    cases same
    exact .inl ⟨happening, s', did, rfl, moved, rfl, rfl⟩
  | streamEnded =>
    simp only [step?, closing, stream, Option.ite_none_right_eq_some, Option.some.injEq] at h
    obtain ⟨-, same⟩ := h
    cases same
    exact .inr ⟨rfl, rfl, rfl⟩
  | _ => simp [step?, closing] at h

/-- Nothing happens to a relaying that has ended. -/
theorem step?_ended {result : Except SessionError ClientTraffic} (ended : r.phase = .ended result)
    (undisturbed : happening.isDisturbance = false) : r.step? settings happening = none := by
  cases happening with
  | cancel => cases undisturbed
  | _ => simp [step?, ended]

end Relaying

end RelayTunnel
