import RelayTunnel.Proofs.LifeCycle
import RelayTunnel.Relaying

/-!
# Relayings that end because the tunnel is told to stop

Being told to stop reaches a relaying in several places: while its stream is being opened,
in its loops, and through its stream, which ends when its carrier takes notice. As long as
nothing else ends the relaying or its stream, `Relaying.Unhindered` says what has come of it
in each of its phases. All of these ends are orderly ones but two: a stream that is still being
opened is given up with an error, and so is a write that the stream no longer takes.
-/

namespace RelayTunnel

/-! ## The stream of such a relaying -/

namespace Stream

variable {settings : RelaySettings} {s s' : Stream} {happening : Happening}
  {actions : List Action} {told : Bool}

/-- Nothing but being told has ended the stream, if it has ended. -/
structure Unbroken (s : Stream) (told : Bool) : Prop where
  opened : s.closedLocally = false
  cancelled : s.carrier.cancelled = true → told = true
  lived : ∃ did, s.carrier.Lived did
  ends : s.carrier.phase.stage.isLive = true ∨ told = true ∧ s.carrier.Settled .closed

namespace Unbroken

theorem start (sid : String) (told : Bool) : (Stream.start sid).Unbroken told where
  opened := rfl
  cancelled cancelled := by cases cancelled
  lived := ⟨[], .start sid⟩
  ends := .inl rfl

theorem cancel (h : s.Unbroken told) : s.cancel.Unbroken true where
  opened := h.opened
  cancelled _ := rfl
  lived := by
    obtain ⟨did, lived⟩ := h.lived
    exact ⟨did, lived.congr rfl rfl⟩
  ends := by
    rcases h.ends with live | ⟨-, settled⟩
    · exact .inl live
    · exact .inr ⟨rfl, settled⟩

/-- What the halves do makes no difference unless they close the stream. -/
theorem congr (h : s.Unbroken told) (carrier : s'.carrier = s.carrier)
    (closed : s'.closedLocally = s.closedLocally) : s'.Unbroken told := by
  obtain ⟨opened, cancelled, lived, ends⟩ := h
  rw [← carrier] at cancelled lived ends
  rw [← closed] at opened
  exact ⟨opened, cancelled, lived, ends⟩

theorem goOnWriting (h : s.Unbroken told) : s.goOnWriting.1.Unbroken told :=
  h.congr (by rw [goOnWriting_frame]) (by rw [goOnWriting_frame])

/-- In a terminal state the stream is closed, because it was told to end. -/
theorem closed_of_isTerminal (h : s.Unbroken told) (terminal : s.carrier.state.isTerminal = true) :
    told = true ∧ s.carrier.state = .closed := by
  obtain ⟨did, lived⟩ := h.lived
  rcases h.ends with live | ⟨told, closes | ⟨-, state⟩⟩
  · rw [lived.running_of_isLive live] at terminal
    cases terminal
  · have poised := lived.poised
    rw [Carrier.Poised, closes] at poised
    rw [poised.1] at terminal
    cases terminal
  · exact ⟨told, state⟩

/-- A read that finds no data finds an orderly end. -/
theorem endOfFile (h : s.Unbroken told) {result : ReadResult}
    (taken : s.takeChunk? = some (result, s')) (nothing : ∀ payload, result ≠ .data payload) :
    told = true ∧ result = .endOfFile := by
  obtain ⟨did, lived⟩ := h.lived
  have terminal : s.carrier.state.isTerminal = true := by
    have poised := lived.poised
    rwa [Carrier.Poised, isStopped_iff.mp (isStopped_of_takeChunk? taken nothing)] at poised
  obtain ⟨told, closed⟩ := h.closed_of_isTerminal terminal
  rw [(takeChunk?_end taken nothing).2, endOfStream, h.opened, closed]
  exact ⟨told, rfl⟩

/-- A write that fails finds the stream closed. -/
theorem refusal (h : s.Unbroken told) {error : RelayError}
    (answer : s.goOnWriting.2 = some (.error error)) : told = true ∧ error = .streamClosed := by
  have unhurried : s.Unhurried := fun closed => by
    rw [h.opened] at closed
    cases closed
  rcases unhurried.error answer with (failed | ⟨closed, rfl⟩) | ⟨closed, -⟩
  · have closed := (h.closed_of_isTerminal (by rw [failed]; rfl)).2
    rw [failed] at closed
    cases closed
  · exact ⟨(h.closed_of_isTerminal (by rw [closed]; rfl)).1, rfl⟩
  · rw [h.opened] at closed
    cases closed

/-- A step that does not end the stream, unless it was told to, leaves it so. -/
theorem step (h : s.Unbroken told) (stepped : s.step? settings happening = some (s', actions))
    (other : happening ≠ .cancel)
    (lives : happening ≠ .notice → s.carrier.phase.stage.isLive = true →
      s'.carrier.phase.stage.isLive = true) : s'.Unbroken told := by
  have moves := moves_of_step? stepped
  have turn := turn_of_step? stepped
  obtain ⟨did, lived⟩ := h.lived
  refine
    { opened := moves.closedLocally.trans h.opened
      cancelled := fun cancelled => h.cancelled ((moves.carrier.cancelled_eq other) ▸ cancelled)
      lived := ⟨_, lived.turn turn⟩
      ends := ?_ }
  rcases h.ends with live | ⟨told, settled⟩
  · by_cases notice : happening = .notice
    · subst notice
      rcases turn.settles live with live | ⟨result, ends, settled⟩
      · exact .inl live
      · -- the only end that there is on taking notice is the one that it was told to make
        cases ends with
        | told cancelled => exact .inr ⟨h.cancelled cancelled, settled⟩
        | exhausted fails => cases fails
    · exact .inl (lives notice live)
  · exact .inr ⟨told, settled.turn turn⟩

end Unbroken

end Stream

/-- Whether it is the relaying or its stream that is told to end. -/
def RelayingHappening.isTelling : RelayingHappening → Bool
  | .cancel | .carrier .cancel => true
  | _ => false

namespace Relaying

variable {settings : RelaySettings} {r r' : Relaying} {happening : RelayingHappening}
  {actions : List RelayingAction} {refused : Bool}

/-- The relaying is told to stop. -/
def tell (r : Relaying) : Relaying :=
  { r with cancelled := true, stream := r.stream.map Stream.cancel }

/-! ## Being told -/

theorem goOnUp_cancelled (r : Relaying) (down : Inbound) (s : Stream) :
    (r.goOnUp down s).1.cancelled = r.cancelled := by
  unfold goOnUp
  split <;> rfl

theorem goOnDown_cancelled {up : Outbound} {s : Stream} {move : Move}
    (went : r.goOnDown up s = some move) : move.1.cancelled = r.cancelled := by
  obtain ⟨⟨found, s'⟩, -, rfl⟩ := Option.map_eq_some_iff.mp went
  cases found <;> rfl

theorem clientTook_cancelled (up : Outbound) (rest : Bytes) (size count : Nat) (r : Relaying) :
    (r.clientTook up rest size count).1.cancelled = r.cancelled := by
  unfold clientTook
  dsimp only
  split <;> rfl

/-- Nothing but being told to stop changes whether a relaying was. -/
theorem step?_cancelled (stepped : r.step? settings happening = some (r', actions))
    (other : happening.isTelling = false) : r'.cancelled = r.cancelled := by
  -- one case for each branch of the step, in its order
  unfold step? at stepped
  split at stepped
  case h_1 => cases other
  case h_6 | h_7 =>
    obtain ⟨move, -, same⟩ := Option.map_eq_some_iff.mp stepped
    cases same
    rfl
  case h_11 down s _ _ =>
    have went : r.goOnUp down s = (r', actions) := Option.some.inj stepped
    rw [← goOnUp_cancelled r down s, went]
  case h_12 => exact goOnDown_cancelled stepped
  case h_13 count up rest size _ =>
    have took : r.clientTook up rest size count = (r', actions) :=
      Option.some.inj (Option.ite_none_left_eq_some.mp stepped).2
    rw [← clientTook_cancelled up rest size count r, took]
  all_goals try split at stepped
  all_goals cases stepped
  all_goals rfl

/-! ## What else can end a relaying -/

/-- Whether something other than the stop of the tunnel ends the relaying, or the stream under
    it. -/
def isBrokenBy (settings : RelaySettings) (r : Relaying) (happening : RelayingHappening) : Bool :=
  match happening, r.phase, r.stream with
  | .openFailed _, _, _ | .clientEnded, _, _ | .clientLost _, _, _ => true
  | .carrier happening, .copying _ _, some s =>
    happening ≠ .notice && s.carrier.phase.stage.isLive &&
      (s.step? settings happening).any fun move => !move.1.carrier.phase.stage.isLive
  | _, _, _ => false

/-- Whether a write to the stream is answered with an error. -/
def isRefusedBy (r : Relaying) (happening : RelayingHappening) : Bool :=
  match happening, r.phase, r.stream with
  | .goOnUp, .copying _ _, some s => s.goOnWriting.2.any fun answer => !answer.toBool
  | _, _, _ => false

/-- What has come of a relaying that nothing but the stop of the tunnel has ended, `refused`
    telling whether a write to its stream was. -/
def Unhindered (r : Relaying) (refused : Bool) : Prop :=
  match r.phase with
  | .opening => refused = false ∧ r.stream = none
  | .copying _ _ => refused = false ∧ ∃ s, r.stream = some s ∧ s.Unbroken r.cancelled
  | .closing result =>
    r.cancelled = true ∧ r.stream ≠ none ∧
      if refused then result = .error (.relay .streamClosed)
      else result = .ok () ∨ result = .error .cancelled
  | .ended result =>
    r.cancelled = true ∧
      if r.stream = none ∨ refused = true then result = .error (.relay .streamClosed)
      else result = .ok r.traffic

namespace Unhindered

theorem start (told : Bool) : ({ cancelled := told } : Relaying).Unhindered false := ⟨rfl, rfl⟩

theorem copying {up : Outbound} {down : Inbound} {s : Stream} (phase : r.phase = .copying up down)
    (stream : r.stream = some s) (unbroken : s.Unbroken r.cancelled) : r.Unhindered false := by
  rw [Unhindered, phase]
  exact ⟨rfl, s, stream, unbroken⟩

/-- A loop ends, in an orderly way or because a write was refused. -/
theorem finish {s : Stream} {result : Except SessionError Unit} (told : r.cancelled = true)
    (stream : r.stream = some s)
    (ends : if refused then result = .error (.relay .streamClosed)
      else result = .ok () ∨ result = .error .cancelled) :
    (r.finish result).1.Unhindered refused :=
  ⟨told, by simp [Relaying.finish, stream], ends⟩

/-- Telling a relaying to stop ends nothing by itself. -/
theorem tell (h : r.Unhindered refused) : r.tell.Unhindered refused := by
  unfold Unhindered at h ⊢
  dsimp only [Relaying.tell]
  cases phase : r.phase with
  | opening =>
    rw [phase] at h
    exact ⟨h.1, by rw [h.2]; rfl⟩
  | copying up down =>
    rw [phase] at h
    obtain ⟨taken, s, stream, unbroken⟩ := h
    exact ⟨taken, s.cancel, by rw [stream]; rfl, unbroken.cancel⟩
  | closing result =>
    rw [phase] at h
    exact ⟨rfl, by simpa using h.2.1, h.2.2⟩
  | ended result =>
    rw [phase] at h
    exact ⟨rfl, by simpa using h.2⟩

/-- Before the stream is open. -/
theorem step_opening (h : r.Unhindered refused) (phase : r.phase = .opening)
    (stepped : r.step? settings happening = some (r', actions))
    (other : happening.isTelling = false) (unbroken : r.isBrokenBy settings happening = false) :
    r'.Unhindered refused := by
  rw [Unhindered, phase] at h
  obtain ⟨rfl, unopened⟩ := h
  cases happening with
  | cancel => cases other
  | notice =>
    simp only [step?, phase, Option.ite_none_right_eq_some, Option.some.injEq] at stepped
    obtain ⟨told, same⟩ := stepped
    cases same
    refine ⟨told, ?_⟩
    rw [if_pos (.inl unopened)]
  | opened sid =>
    simp only [step?, phase, Option.some.injEq] at stepped
    cases stepped
    refine copying rfl rfl ?_
    cases told : r.cancelled with
    | true => exact (Stream.Unbroken.start sid true).cancel
    | false => exact Stream.Unbroken.start sid false
  | openFailed error => simp [isBrokenBy] at unbroken
  | _ => simp [step?, phase, unopened] at stepped

/-- While both loops are copying. -/
theorem step_copying {up : Outbound} {down : Inbound} (h : r.Unhindered refused)
    (phase : r.phase = .copying up down)
    (stepped : r.step? settings happening = some (r', actions))
    (other : happening.isTelling = false) (unbroken : r.isBrokenBy settings happening = false) :
    r'.Unhindered (refused || r.isRefusedBy happening) := by
  rw [Unhindered, phase] at h
  obtain ⟨rfl, s, stream, fair⟩ := h
  cases happening with
  | cancel => cases other
  | openFailed | clientEnded | clientLost => simp [isBrokenBy] at unbroken
  | opened | streamEnded => simp [step?, phase] at stepped
  | notice =>
    simp only [step?, phase, Option.ite_none_right_eq_some, Option.some.injEq] at stepped
    obtain ⟨told, same⟩ := stepped
    cases same
    exact finish told stream (.inr rfl)
  | carrier happening =>
    simp only [step?, phase, stream, Option.map_eq_some_iff, Prod.exists] at stepped
    obtain ⟨s', did, moved, same⟩ := stepped
    cases same
    refine copying phase rfl (fair.step moved ?_ ?_)
    · rintro rfl
      cases other
    · intro loud live
      simpa [isBrokenBy, phase, stream, loud, live, moved] using unbroken
  | clientSent bytes =>
    cases up with
    | stream => simp [step?, phase] at stepped
    | client =>
      simp only [step?, phase, stream] at stepped
      split at stepped <;> cases stepped
      exact copying rfl rfl (fair.congr rfl rfl)
  | goOnUp =>
    cases up with
    | client => simp [step?, phase] at stepped
    | stream =>
      simp only [step?, phase, stream, Option.some.injEq] at stepped
      rcases went : s.goOnWriting with ⟨s', answer⟩
      have kept : s'.Unbroken r.cancelled := by simpa [went] using fair.goOnWriting
      have refuses : r.isRefusedBy .goOnUp = answer.any fun answer => !answer.toBool := by
        simp only [isRefusedBy, phase, stream, went]
      simp only [goOnUp, went] at stepped
      cases answer with
      | none =>
        cases stepped
        rw [refuses]
        exact copying phase rfl kept
      | some answer =>
        cases answer with
        | ok =>
          cases stepped
          rw [refuses]
          exact copying rfl rfl kept
        | error error =>
          have answered : s.goOnWriting.2 = some (.error error) := by rw [went]
          obtain ⟨told, rfl⟩ := fair.refusal answered
          cases stepped
          rw [refuses]
          exact finish told rfl rfl
  | goOnDown =>
    cases down with
    | client => simp [step?, phase] at stepped
    | stream =>
      simp only [step?, phase, stream, goOnDown, Option.map_eq_some_iff, Prod.exists] at stepped
      obtain ⟨result, s', taken, same⟩ := stepped
      have kept : s'.Unbroken r.cancelled := by
        rw [Stream.takeChunk?_frame taken]
        exact fair.congr rfl rfl
      cases result with
      | data payload =>
        cases same
        exact copying rfl rfl kept
      | endOfFile =>
        cases same
        exact finish (fair.endOfFile taken (by simp)).1 rfl (.inl rfl)
      | failed error => cases (fair.endOfFile taken (by simp)).2
  | clientTook count =>
    cases down with
    | stream => simp [step?, phase] at stepped
    | client rest size =>
      simp only [step?, phase, clientTook] at stepped
      split at stepped
      · cases stepped
      · cases stepped
        split
        · exact copying rfl stream fair
        · exact copying rfl stream fair

/-- Once the stream is being closed, nothing but its end is waited for. -/
theorem step_closing {result : Except SessionError Unit} (h : r.Unhindered refused)
    (phase : r.phase = .closing result)
    (stepped : r.step? settings happening = some (r', actions))
    (other : happening.isTelling = false) : r'.Unhindered refused := by
  rw [Unhindered, phase] at h
  obtain ⟨told, stream, ends⟩ := h
  obtain ⟨s, stream⟩ := Option.ne_none_iff_exists'.mp stream
  cases happening with
  | cancel => cases other
  | carrier happening =>
    simp only [step?, phase, stream, Option.map_eq_some_iff, Prod.exists] at stepped
    obtain ⟨s', did, moved, same⟩ := stepped
    cases same
    rw [Unhindered, show (r.withStream s').phase = .closing result from phase]
    exact ⟨told, Option.some_ne_none _, ends⟩
  | streamEnded =>
    simp only [step?, phase, stream, Option.ite_none_right_eq_some, Option.some.injEq] at stepped
    obtain ⟨-, same⟩ := stepped
    cases same
    refine ⟨told, ?_⟩
    cases refused with
    | true =>
      rw [if_pos rfl] at ends
      rw [if_pos (.inr rfl), ends]
      rfl
    | false =>
      rw [if_neg (by simp)] at ends
      rw [if_neg (by simp [stream])]
      rcases ends with rfl | rfl
      · rfl
      · rfl
  | _ => simp [step?, phase] at stepped

/-- What one step preserves. -/
theorem step (h : r.Unhindered refused) (stepped : r.step? settings happening = some (r', actions))
    (other : happening.isTelling = false) (unbroken : r.isBrokenBy settings happening = false) :
    r'.Unhindered (refused || r.isRefusedBy happening) := by
  have quiet (away : ∀ up down, r.phase ≠ .copying up down) : r.isRefusedBy happening = false := by
    unfold isRefusedBy
    split
    · rename_i phase _
      exact absurd phase (away _ _)
    · rfl
  cases phase : r.phase with
  | opening =>
    rw [quiet (by simp [phase]), Bool.or_false]
    exact h.step_opening phase stepped other unbroken
  | copying up down => exact h.step_copying phase stepped other unbroken
  | closing result =>
    rw [quiet (by simp [phase]), Bool.or_false]
    exact h.step_closing phase stepped other
  | ended result =>
    cases happening with
    | cancel => cases other
    | _ => simp [step?, phase] at stepped

end Unhindered

end Relaying

end RelayTunnel
