import RelayTunnel.Proofs.LifeCycle

/-!
# What a carrier owes

A carrier that has a write in hand owes it an answer: it takes the write or refuses it. At the
end it may owe the relay a close message, which depends on the last state and on whether the
stream was told to end (`StreamState.parting?`). No step forgets such a debt or pays it twice:
`Carrier.Pays` is the account of one move, and every step of a carrier that serves its stream
keeps it.
-/

namespace RelayTunnel

/-! ## Answers and close messages -/

namespace Action

/-- The write that an action answers. -/
def answer? : Action → Option Nat
  | .accept number | .refuse number => some number
  | _ => none

/-- The code and the reason of the close message that an action sends. -/
def parting? : Action → Option (UInt16 × String)
  | .close code reason => some (code, reason)
  | _ => none

@[simp] theorem answer?_hand (reader : Bool) (payload : Bytes) :
    (hand reader payload).answer? = none := by
  cases reader <;> rfl

@[simp] theorem parting?_hand (reader : Bool) (payload : Bytes) :
    (hand reader payload).parting? = none := by
  cases reader <;> rfl

end Action

namespace Carrier

/-- The close message that goes with the end of a carrier, `none` before that. -/
def parting? (c : Carrier) : Option (UInt16 × String) :=
  match c.phase with
  | .closing last => last.parting? c.cancelled
  | .ended => c.state.parting? c.cancelled
  | _ => none

/-- The account of a move, where `write` was in hand: it is answered or still in hand, and if
    the carrier is at its end, the close message was sent that goes with it. -/
structure Pays (write : Option Nat) (move : Move) : Prop where
  answers : move.2.filterMap Action.answer? ++ move.1.phase.write?.toList = write.toList
  partings : move.2.filterMap Action.parting? = move.1.parting?.toList

variable {settings : RelaySettings} {c c' : Carrier} {write : Option Nat} {move : Move}
  {happening : Happening} {actions : List Action} {last : StreamState}

/-- Doing something else before makes no difference. -/
theorem Pays.cons {action : Action} (h : Pays write move) (answers : action.answer? = none)
    (parts : action.parting? = none) : Pays write (move.1, action :: move.2) where
  answers := by
    rw [List.filterMap_cons_none answers]
    exact h.answers
  partings := by
    rw [List.filterMap_cons_none parts]
    exact h.partings

theorem parting?_of_isLive (live : c.phase.stage.isLive = true) : c.parting? = none := by
  unfold parting?
  split
  · rename_i last closes
    rw [closes] at live
    cases live
  · rename_i ended
    rw [ended] at live
    cases live
  · rfl

/-- Whoever still serves the stream owes no close message. -/
theorem Pays.of_isLive (live : c'.phase.stage.isLive = true)
    (answers : actions.filterMap Action.answer? ++ c'.phase.write?.toList = write.toList)
    (silent : actions.filterMap Action.parting? = []) : Pays write (c', actions) where
  answers := answers
  partings := by
    rw [parting?_of_isLive live]
    exact silent

theorem recovered_pays (flow : FlowSettings) (recovery : Recovery) (c : Carrier) :
    Pays recovery.write (c.recovered flow recovery) := by
  unfold recovered
  cases recovery.write with
  | none => exact ⟨rfl, rfl⟩
  | some number => exact ⟨rfl, rfl⟩

/-- A carrier that lets its connection go while it serves its stream refuses the write in hand or
    keeps it, and sends the close message that goes with its end. -/
theorem Leaves.pays (leaves : c.Leaves write move) (live : c.phase.stage.isLive = true) :
    Pays write move := by
  -- a refusal answers the write in hand and is no close message
  have refused (others : List Action) (silent : others.filterMap Action.answer? = []) :
      ((write.map Action.refuse).toList ++ others).filterMap Action.answer? = write.toList ∧
        ((write.map Action.refuse).toList ++ others).filterMap Action.parting? =
          others.filterMap Action.parting? := by
    cases write with
    | none => exact ⟨silent, rfl⟩
    | some number => exact ⟨congrArg (number :: ·) silent, rfl⟩
  induction leaves with
  | @parts c last code reason owed =>
    obtain ⟨answers, partings⟩ := refused [.close code reason] rfl
    exact ⟨by simp [answers, Phase.write?], by simp [partings, Action.parting?, parting?, owed]⟩
  | @stops c last silent =>
    obtain ⟨answers, partings⟩ := refused [.publish last, .stop] rfl
    exact ⟨by simp [answers, Phase.write?], by simp [partings, Action.parting?, parting?, silent]⟩
  | pauses delay holds | attempts holds => exact holds ▸ ⟨rfl, rfl⟩
  | loses goesOn ih => exact (ih live).cons rfl rfl
  | hasClosed closes =>
    rw [closes] at live
    cases live

/-- Every step of a carrier that serves its stream keeps the account. -/
theorem Step.pays (step : c.Step settings happening c' actions)
    (live : c.phase.stage.isLive = true) : Pays (happening.inHand c.phase) (c', actions) := by
  have hand {phase : Phase} (same : c.phase = phase) : c.phase.write? = phase.write? :=
    congrArg Phase.write? same
  cases step with
  | told | writesOver | skipped | received => exact .of_isLive live rfl rfl
  | @acknowledged message number session opened =>
    have same : ({ c with session }.updateThrottle settings.flow).phase = c.phase :=
      updateThrottle_phase
    refine .of_isLive ?_ ?_ rfl
    · rwa [same]
    · rw [same]
      rfl
  | @breached message move opened free means refused leaves =>
    rw [show Happening.inHand (.arrival (.message message)) c.phase = none from
      hand (phase_of_isOpen opened)]
    exact (leaves.pays live).cons rfl rfl
  | handed => exact .of_isLive live (by simp [Happening.inHand]) (by simp)
  | reported opened =>
    have idle := hand (phase_of_isOpen opened)
    refine .of_isLive rfl ?_ ?_
    · rw [List.filterMap_cons_none (Action.answer?_hand ..)]
      exact congrArg Option.toList idle.symm
    · rw [List.filterMap_cons_none (Action.parting?_hand ..)]
      rfl
  | took => exact .of_isLive rfl rfl rfl
  | wrote sends | hasReported sends | resent sends =>
    exact .of_isLive rfl (congrArg Option.toList (hand sends).symm) rfl
  | @recovered recovery sends =>
    rw [show Happening.inHand .sent c.phase = recovery.write from hand sends]
    exact (recovered_pays ..).cons rfl rfl
  | resumed attempts => exact .of_isLive rfl (congrArg Option.toList (hand attempts).symm) rfl
  | @resumedWhole number session recovery attempts =>
    rw [show Happening.inHand (.resumed number) c.phase = recovery.write from hand attempts]
    exact (recovered_pays ..).cons rfl rfl
  | @turnedAway number violation recovery move attempts refused leaves =>
    rw [show Happening.inHand (.resumed number) c.phase = recovery.write from hand attempts]
    exact (leaves.pays live).cons rfl rfl
  | @unsendable number session recovery move attempts taken leaves =>
    rw [show Happening.inHand (.resumed number) c.phase = recovery.write from hand attempts]
    exact (leaves.pays live).cons rfl rfl
  | left other leaves held => exact held ▸ leaves.pays live

/-! ## After the end -/

theorem phase_of_closing (closes : c.phase.stage = .closing last) : c.phase = .closing last := by
  unfold Phase.stage at closes
  split at closes <;> simp_all

theorem phase_of_ended (ended : c.phase.stage = .ended) : c.phase = .ended := by
  unfold Phase.stage at ended
  split at ended <;> simp_all

/-- Once the last state is settled, a carrier can only be told to end, and end. -/
theorem Settled.step? {move : Move} (h : c.Settled last)
    (stepped : c.step? settings happening = some move) :
    happening = .cancel ∧ move = ({ c with cancelled := true }, []) ∨
      happening = .closeOver ∧ c.phase = .closing last ∧ move = c.stopIn last := by
  rcases h with closes | ⟨ended, -⟩
  · have phase := phase_of_closing closes
    have shut : c.isOpen = false := by simp [isOpen, phase]
    cases happening with
    | cancel => exact .inl ⟨rfl, (Option.some.inj stepped).symm⟩
    | arrival => simp [Carrier.step?, takes, phase] at stepped
    | closeOver =>
      simp only [Carrier.step?, phase] at stepped
      exact .inr ⟨rfl, phase, (Option.some.inj stepped).symm⟩
    | notice => simp [Carrier.step?, noticed, phase] at stepped
    | write | writesOver => simp [Carrier.step?, shut] at stepped
    | room =>
      simp only [Carrier.step?, shut] at stepped
      split at stepped <;> cases stepped
    | sent | sendFailed | sendStalled | pauseOver | resumed | resumeFailed =>
      simp only [Carrier.step?, phase] at stepped
      cases stepped
  · by_cases told : happening = .cancel
    · subst told
      exact .inl ⟨rfl, (Option.some.inj stepped).symm⟩
    · rw [step?_ended (phase_of_ended ended) told] at stepped
      cases stepped

theorem exists_settled (gone : c.phase.stage.isLive = false) : ∃ last, c.Settled last := by
  cases stage : c.phase.stage with
  | established | recovering =>
    rw [stage] at gone
    cases gone
  | closing last => exact ⟨last, .inl stage⟩
  | ended => exact ⟨c.state, .inr ⟨stage, rfl⟩⟩

/-- No step forgets the write in hand or answers it twice. -/
theorem answers_of_step? (h : c.step? settings happening = some move) :
    move.2.filterMap Action.answer? ++ move.1.phase.write?.toList =
      (happening.inHand c.phase).toList := by
  cases live : c.phase.stage.isLive with
  | true => exact ((step_of_step? h).pays live).answers
  | false =>
    obtain ⟨last, settled⟩ := exists_settled live
    rcases settled.step? h with ⟨rfl, rfl⟩ | ⟨rfl, closes, rfl⟩
    · rfl
    · rw [closes]
      rfl

end Carrier

end RelayTunnel
