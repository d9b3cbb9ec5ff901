import RelayTunnel.Proofs.Carrier

/-!
# How far a carrier has come

A carrier is established, takes its session up again, sends a last close message, or has
ended. `Carrier.Turn` has one constructor for each way from one of these stages to the next
one and says which state is published on it. What a carrier ends for is told by
`Carrier.Ends`, and after which failures it makes another attempt by `Carrier.Fails`, both in
terms of what has happened and not of what the carrier does about it.
-/

namespace RelayTunnel

/-- A stage in the life of a carrier. -/
inductive Stage where
  /-- The session goes on on a connection. -/
  | established
  /-- The session is being taken up again; this is over when everything that the relay does
      not hold has been sent again. -/
  | recovering
  /-- A close message is being sent, and the stream will end in the given state. -/
  | closing (last : StreamState)
  | ended
  deriving DecidableEq, Repr

/-- Whether a carrier in this stage still serves its stream. -/
def Stage.isLive : Stage → Bool
  | .established | .recovering => true
  | .closing _ | .ended => false

theorem Stage.isLive_of_established {stage : Stage} (h : stage = .established) :
    stage.isLive = true := by
  rw [h]
  rfl

theorem Stage.isLive_of_recovering {stage : Stage} (h : stage = .recovering) :
    stage.isLive = true := by
  rw [h]
  rfl

/-- The stage to which a phase belongs. -/
def Phase.stage : Phase → Stage
  | .sending (.replay _ _) | .pausing _ | .resuming _ => .recovering
  | .waiting | .sending _ => .established
  | .closing last => .closing last
  | .ended => .ended

/-- The state in which a stream ends with a result, `none` for an orderly end. -/
def StreamState.ofResult : Option RelayError → StreamState
  | none | some .streamClosed => .closed
  | some error => .failed error

namespace StreamState

theorem ofResult_eq_closed {result : Option RelayError} :
    ofResult result = .closed ↔ result = none ∨ result = some .streamClosed := by
  unfold ofResult
  split <;> simp_all

theorem ofResult_eq_failed {result : Option RelayError} {error : RelayError} :
    ofResult result = .failed error ↔ result = some error ∧ error ≠ .streamClosed := by
  unfold ofResult
  split
  · simp
  · constructor
    · rintro ⟨⟩
    · rintro ⟨same, other⟩
      exact absurd (Option.some.inj same).symm other
  · rename_i known other
    constructor
    · rintro ⟨⟩
      exact ⟨rfl, other⟩
    · rintro ⟨same, -⟩
      exact congrArg failed (Option.some.inj same)

@[simp] theorem isTerminal_ofResult (result : Option RelayError) :
    (ofResult result).isTerminal = true := by
  unfold ofResult
  split <;> rfl

end StreamState

namespace Action

/-- Whether an action tells how far the stream has come. -/
def isSignal : Action → Bool
  | .publish _ | .count .reconnected | .stop => true
  | _ => false

/-- The state that an action publishes. -/
def published? : Action → Option StreamState
  | .publish state => some state
  | _ => none

theorem published?_eq_none {action : Action} (other : action.isSignal = false) :
    action.published? = none := by
  cases action <;> first | rfl | cases other

end Action

/-- The actions that tell how far the stream has come. -/
def signals (actions : List Action) : List Action := actions.filter Action.isSignal

@[simp] theorem signals_nil : signals [] = [] := rfl

@[simp] theorem signals_append (first second : List Action) :
    signals (first ++ second) = signals first ++ signals second :=
  List.filter_append first second

theorem signals_cons_of_not {action : Action} (actions : List Action)
    (other : action.isSignal = false) : signals (action :: actions) = signals actions :=
  List.filter_cons_of_neg (by simp [other])

theorem signals_cons_of_isSignal {action : Action} (actions : List Action)
    (signal : action.isSignal = true) : signals (action :: actions) = action :: signals actions :=
  List.filter_cons_of_pos signal

@[simp] theorem signals_hand (reader : Bool) (payload : Bytes) (actions : List Action) :
    signals (.hand reader payload :: actions) = signals actions := by
  cases reader <;> exact signals_cons_of_not actions rfl

/-- Refusing a write is no signal. -/
@[simp] theorem signals_refusal (write : Option Nat) (actions : List Action) :
    signals ((write.map Action.refuse).toList ++ actions) = signals actions := by
  cases write with
  | none => rfl
  | some number => exact signals_cons_of_not actions rfl

/-- What comes of the series of attempts when the sending for an errand fails: a new one begins
    unless the sending was part of one. -/
def Errand.recovery (settings : ReconnectSettings) (reason : String) : Errand → Recovery
  | .write number => { backoff := .start settings, lastFailure := reason, write := some number }
  | .ack => { backoff := .start settings, lastFailure := reason, write := none }
  | .replay recovery _ => { recovery with lastFailure := reason }

namespace Carrier

variable {settings : RelaySettings} {c c' : Carrier} {happening : Happening}
  {actions : List Action} {result : Option RelayError} {recovery : Recovery}

theorem stage_of_waiting (waits : c.phase = .waiting) : c.phase.stage = .established := by
  rw [waits]
  rfl

theorem stage_of_resuming (attempts : c.phase = .resuming recovery) :
    c.phase.stage = .recovering := by
  rw [attempts]
  rfl

/-! ## What ends a carrier -/

/-- A failure after which the session is to be taken up again: the connection is lost, or an
    attempt has failed. The series says which attempts there have been and what went wrong
    last. -/
inductive Fails (settings : RelaySettings) (c : Carrier) : Happening → Recovery → Prop
  | closed {code : UInt16} {reason : String}
      (means : CloseDisposition.ofCode code = .reconnect) :
      Fails settings c (.arrival (.close code reason))
        { backoff := .start settings.reconnect
          lastFailure := s!"relay closed connection with code {code}"
          write := none }
  | lost :
      Fails settings c (.arrival .ended)
        { backoff := .start settings.reconnect
          lastFailure := "relay connection ended"
          write := none }
  | broken {error : RelayError} :
      Fails settings c (.arrival (.failed error))
        { backoff := .start settings.reconnect
          lastFailure := error.message
          write := none }
  | unsent {errand : Errand} {error : RelayError} (sends : c.phase = .sending errand)
      (other : error ≠ .streamClosed) :
      Fails settings c (.sendFailed error) (errand.recovery settings.reconnect error.message)
  | stalled {errand : Errand} (sends : c.phase = .sending errand) :
      Fails settings c .sendStalled
        (errand.recovery settings.reconnect
          (RelayError.transport s!"send stalled for {settings.connectTimeout.text}").message)
  | unresumed {recovery : Recovery} {error : RelayError} (attempts : c.phase = .resuming recovery)
      (retryable : error.isRetryable = true) :
      Fails settings c (.resumeFailed error) { recovery with lastFailure := error.message }
  /-- What is to be sent again does not fit into frames. -/
  | unsendable {recovery : Recovery} {number : UInt64} {session : Session} {error : RelayError}
      (attempts : c.phase = .resuming recovery)
      (taken : c.session.acknowledge number = .ok session)
      (unfit : unsendable? session.replay = some error) :
      Fails settings c (.resumed number) { recovery with lastFailure := error.message }

/-- A message that breaks the protocol on an established session: it has no meaning,
    acknowledges what it cannot, or is a frame that has no place there. -/
inductive Breaks (c : Carrier) (message : Bytes) : Violation → Prop
  | malformed {violation : Violation} (means : Wire.decode message = .error violation) :
      Breaks c message violation
  | outside {number : UInt64} {violation : Violation}
      (means : Wire.decode message = .ok (some (.ack number)))
      (refused : c.session.acknowledge number = .error violation) :
      Breaks c message violation
  | displaced {frame : Frame} (means : Wire.decode message = .ok (some frame))
      (other : ∀ payload, frame ≠ .data payload) (noAck : ∀ number, frame ≠ .ack number) :
      Breaks c message (.unexpected frame.kind)

/-- What ends a carrier, and with which result, `none` for an orderly end. -/
inductive Ends (settings : RelaySettings) (c : Carrier) : Happening → Option RelayError → Prop
  /-- The stream was told to end. -/
  | told (cancelled : c.cancelled = true) : Ends settings c .notice none
  /-- The relay closes the stream in an orderly way. -/
  | closed {code : UInt16} {reason : String} (means : CloseDisposition.ofCode code = .orderly) :
      Ends settings c (.arrival (.close code reason)) none
  /-- The relay closes the stream for good. -/
  | dismissed {code : UInt16} {reason : String} {error : RelayError}
      (means : (CloseDisposition.ofCode code).error? code reason = some error) :
      Ends settings c (.arrival (.close code reason)) (some error)
  | breached {message : Bytes} {violation : Violation} (breaks : c.Breaks message violation) :
      Ends settings c (.arrival (.message message)) (some (.protocolViolation violation))
  /-- A write does not fit into a frame. -/
  | oversized {number : Nat} {payload : Bytes} {error : RelayError}
      (unfit : Wire.encode (.data payload) = .error error) :
      Ends settings c (.write number payload) (some error)
  /-- The connection says of itself that the stream is closed. -/
  | shut : Ends settings c (.sendFailed .streamClosed) (some .streamClosed)
  /-- The relay resumes with a count outside the window. -/
  | turnedAway {number : UInt64} {violation : Violation}
      (refused : c.session.acknowledge number = .error violation) :
      Ends settings c (.resumed number) (some (.protocolViolation violation))
  /-- An attempt fails in a way that rules out another one. -/
  | hopeless {error : RelayError} (final : error.isRetryable = false)
      (other : ∀ attempts reason, error ≠ .reconnectExhausted attempts reason) :
      Ends settings c (.resumeFailed error) (some error)
  /-- The relay has lost the session. -/
  | forgotten {recovery : Recovery} {attempts : Nat} {reason : String}
      (attempting : c.phase = .resuming recovery) :
      Ends settings c (.resumeFailed (.reconnectExhausted attempts reason))
        (some (.reconnectExhausted recovery.backoff.attempt reason))
  /-- No attempt is left. -/
  | exhausted {happening : Happening} {recovery : Recovery}
      (fails : c.Fails settings happening recovery) (spent : recovery.backoff.next = none) :
      Ends settings c happening
        (some (.reconnectExhausted recovery.backoff.attempt recovery.lastFailure))

/-- A failure begins or goes on with one series of attempts. -/
theorem Fails.unique {other : Recovery} (first : c.Fails settings happening recovery)
    (second : c.Fails settings happening other) : recovery = other := by
  cases first <;> cases second <;> simp_all

theorem Breaks.unique {message : Bytes} {violation other : Violation}
    (first : c.Breaks message violation) (second : c.Breaks message other) :
    violation = other := by
  cases first with
  | displaced _ _ noAck => cases second <;> simp_all [eq_comm]
  | malformed | outside => cases second <;> simp_all

/-- A failure ends a carrier only if no attempt is left. -/
theorem Fails.result_eq (fails : c.Fails settings happening recovery)
    (ends : c.Ends settings happening result) :
    result = some (.reconnectExhausted recovery.backoff.attempt recovery.lastFailure) := by
  cases ends with
  | exhausted others spent => rw [fails.unique others]
  | _ => cases fails <;> simp_all [RelayError.isRetryable, CloseDisposition.error?]

/-- What ends a carrier ends it with one result. -/
theorem Ends.unique {other : Option RelayError} (first : c.Ends settings happening result)
    (second : c.Ends settings happening other) : result = other := by
  cases second with
  | exhausted fails spent => exact fails.result_eq first
  | breached breaks =>
    cases first with
    | breached others => rw [breaks.unique others]
    | exhausted fails spent => cases fails
  | _ =>
    cases first with
    | exhausted fails spent =>
      cases fails <;> simp_all [RelayError.isRetryable, CloseDisposition.error?]
    | _ => simp_all [CloseDisposition.error?]

/-- An orderly end is one that the stream was told to make, or that the relay makes. -/
theorem ends_none :
    c.Ends settings happening none ↔
      (happening = .notice ∧ c.cancelled = true) ∨
        ∃ code reason, happening = .arrival (.close code reason) ∧
          CloseDisposition.ofCode code = .orderly := by
  constructor
  · intro ends
    cases ends with
    | told cancelled => exact .inl ⟨rfl, cancelled⟩
    | closed means => exact .inr ⟨_, _, rfl, means⟩
  · rintro (⟨rfl, cancelled⟩ | ⟨code, reason, rfl, means⟩)
    · exact .told cancelled
    · exact .closed means

/-! ## From stage to stage -/

/-- The ways of a carrier from stage to stage. -/
inductive Turn (settings : RelaySettings) (c : Carrier) (happening : Happening) :
    Carrier → List Action → Prop
  | stays {c' : Carrier} {actions : List Action} (stage : c'.phase.stage = c.phase.stage)
      (state : c'.state = c.state) (silent : signals actions = []) :
      Turn settings c happening c' actions
  | lost {c' : Carrier} {actions : List Action} {recovery : Recovery}
      (before : c.phase.stage = .established) (fails : c.Fails settings happening recovery)
      (after : c'.phase.stage = .recovering) (state : c'.state = .reconnecting)
      (tells : signals actions = [.publish .reconnecting]) :
      Turn settings c happening c' actions
  | recovered {c' : Carrier} {actions : List Action} (before : c.phase.stage = .recovering)
      (after : c'.phase.stage = .established) (state : c'.state = .connected)
      (tells : signals actions = [.count .reconnected, .publish .connected]) :
      Turn settings c happening c' actions
  /-- A last close message is sent. -/
  | parts {c' : Carrier} {actions : List Action} {result : Option RelayError}
      (before : c.phase.stage.isLive = true)
      (ends : c.Ends settings happening result)
      (after : c'.phase.stage = .closing (.ofResult result)) (state : c'.state = c.state)
      (silent : signals actions = []) :
      Turn settings c happening c' actions
  | stops {c' : Carrier} {actions : List Action} {result : Option RelayError}
      (before : c.phase.stage.isLive = true)
      (ends : c.Ends settings happening result) (after : c'.phase.stage = .ended)
      (state : c'.state = .ofResult result)
      (tells : signals actions = [.publish (.ofResult result), .stop]) :
      Turn settings c happening c' actions
  /-- The connection is lost and there is no attempt to take the session up again. -/
  | givesUp {c' : Carrier} {actions : List Action} {result : Option RelayError}
      (before : c.phase.stage = .established) (ends : c.Ends settings happening result)
      (after : c'.phase.stage = .ended) (state : c'.state = .ofResult result)
      (tells : signals actions =
        [.publish .reconnecting, .publish (.ofResult result), .stop]) :
      Turn settings c happening c' actions
  | hasClosed {c' : Carrier} {actions : List Action} {last : StreamState}
      (before : c.phase.stage = .closing last) (after : c'.phase.stage = .ended)
      (state : c'.state = last) (tells : signals actions = [.publish last, .stop]) :
      Turn settings c happening c' actions

namespace Turn

/-- Doing something else before or after makes no difference. -/
theorem congr {others : List Action} (turn : c.Turn settings happening c' actions)
    (same : signals others = signals actions) : c.Turn settings happening c' others := by
  cases turn with
  | stays stage state silent => exact .stays stage state (same.trans silent)
  | lost before fails after state tells => exact .lost before fails after state (same.trans tells)
  | recovered before after state tells => exact .recovered before after state (same.trans tells)
  | parts before ends after state silent =>
    exact .parts before ends after state (same.trans silent)
  | stops before ends after state tells => exact .stops before ends after state (same.trans tells)
  | givesUp before ends after state tells =>
    exact .givesUp before ends after state (same.trans tells)
  | hasClosed before after state tells => exact .hasClosed before after state (same.trans tells)

theorem cons {action : Action} (turn : c.Turn settings happening c' actions)
    (other : action.isSignal = false) : c.Turn settings happening c' (action :: actions) :=
  turn.congr (signals_cons_of_not actions other)

end Turn

/-! ## Ending -/

/-- To end with a result is to send a close message first or not. -/
theorem finish_cases (result : Option RelayError) (c : Carrier) :
    (∃ code reason, c.finish result = c.closeIn (.ofResult result) code reason) ∨
      c.finish result = c.stopIn (.ofResult result) := by
  unfold finish
  split
  · split
    · exact .inl ⟨_, _, rfl⟩
    · exact .inr rfl
  · split
    · exact .inl ⟨_, _, rfl⟩
    · exact .inr rfl
  · exact .inl ⟨_, _, rfl⟩
  · rename_i error other _
    have failed : StreamState.ofResult (some error) = .failed error :=
      StreamState.ofResult_eq_failed.mpr ⟨rfl, other⟩
    exact .inr (by rw [failed])

/-- A carrier ends; `d` is what has become of it meanwhile. -/
theorem abandon_turn {d : Carrier} (write : Option Nat)
    (before : c.phase.stage.isLive = true)
    (state : d.state = c.state) (ends : c.Ends settings happening result) :
    c.Turn settings happening (d.abandon write result).1 (d.abandon write result).2 := by
  have finished : c.Turn settings happening (d.finish result).1 (d.finish result).2 := by
    rcases finish_cases result d with ⟨code, reason, closes⟩ | stops
    · rw [closes]
      exact .parts before ends rfl state rfl
    · rw [stops]
      exact .stops before ends rfl rfl rfl
  exact finished.congr (signals_refusal ..)

theorem finish_turn (before : c.phase.stage.isLive = true)
    (ends : c.Ends settings happening result) :
    c.Turn settings happening (c.finish result).1 (c.finish result).2 :=
  abandon_turn none before rfl ends

/-! ## Taking the session up again -/

/-- With an attempt left the carrier goes on, otherwise it ends. -/
theorem nextAttempt_cases (recovery : Recovery) (c : Carrier) :
    (recovery.backoff.next ≠ none ∧ (c.nextAttempt recovery).1.phase.stage = .recovering ∧
        (c.nextAttempt recovery).1.state = c.state ∧
        signals (c.nextAttempt recovery).2 = []) ∨
      recovery.backoff.next = none ∧
        c.nextAttempt recovery = c.abandon recovery.write
          (some (.reconnectExhausted recovery.backoff.attempt recovery.lastFailure)) := by
  unfold nextAttempt
  split
  · rename_i spent
    exact .inr ⟨spent, rfl⟩
  · rename_i left
    refine .inl ⟨by simp [left], ?_⟩
    dsimp only
    split
    · exact ⟨rfl, rfl, rfl⟩
    · exact ⟨rfl, rfl, rfl⟩

/-- The next attempt of a series, or its end. -/
theorem nextAttempt_turn {d : Carrier} (before : c.phase.stage = .recovering)
    (state : d.state = c.state) (fails : c.Fails settings happening recovery) :
    c.Turn settings happening (d.nextAttempt recovery).1 (d.nextAttempt recovery).2 := by
  rcases nextAttempt_cases recovery d with ⟨-, stage, same, silent⟩ | ⟨spent, ended⟩
  · exact .stays (stage.trans before.symm) (same.trans state) silent
  · rw [ended]
    have live := Stage.isLive_of_recovering before
    exact abandon_turn recovery.write live state (.exhausted fails spent)

/-- The first attempt of a series, or its end without one. -/
theorem recover_turn {write : Option Nat} {reason : String}
    (before : c.phase.stage = .established)
    (fails : c.Fails settings happening
      { backoff := .start settings.reconnect, lastFailure := reason, write }) :
    c.Turn settings happening (c.recover settings.reconnect write reason).1
      (c.recover settings.reconnect write reason).2 := by
  let recovery : Recovery := { backoff := .start settings.reconnect, lastFailure := reason, write }
  let d : Carrier := { c with state := .reconnecting }
  have first : signals (c.recover settings.reconnect write reason).2 =
      .publish .reconnecting :: signals (d.nextAttempt recovery).2 :=
    signals_cons_of_isSignal _ rfl
  have same : (c.recover settings.reconnect write reason).1 = (d.nextAttempt recovery).1 := rfl
  rcases nextAttempt_cases recovery d with ⟨-, stage, state, silent⟩ | ⟨spent, ended⟩
  · rw [silent] at first
    exact .lost before fails (same ▸ stage) (same ▸ state) first
  · have stops : signals (d.nextAttempt recovery).2 =
        [.publish (.failed (.reconnectExhausted recovery.backoff.attempt reason)), .stop] := by
      rw [ended]
      exact signals_refusal ..
    rw [stops] at first
    refine .givesUp before (.exhausted fails spent) ?_ ?_ first
    · rw [same, ended]
      rfl
    · rw [same, ended]
      rfl

theorem recovered_signals (flow : FlowSettings) (recovery : Recovery) (c : Carrier) :
    signals (c.recovered flow recovery).2 = [.count .reconnected, .publish .connected] := by
  unfold recovered
  cases recovery.write <;> rfl

theorem recovered_turn {d : Carrier} (before : c.phase.stage = .recovering)
    (recovery : Recovery) :
    c.Turn settings happening (d.recovered settings.flow recovery).1
      (d.recovered settings.flow recovery).2 := by
  refine .recovered before ?_ ?_ (recovered_signals ..)
  · rw [recovered_frame]
    rfl
  · rw [recovered_frame]

/-- Everything that the relay does not hold is sent again, or nothing is. -/
theorem replay_turn {d : Carrier} (before : c.phase.stage = .recovering)
    (state : d.state = c.state) (recovery : Recovery) (payloads : List Bytes) :
    c.Turn settings happening (d.replay settings.flow recovery payloads).1
      (d.replay settings.flow recovery payloads).2 := by
  cases payloads with
  | nil => exact recovered_turn before recovery
  | cons payload rest => exact .stays before.symm state rfl

theorem goOn_turn {number : UInt64} (attempts : c.phase = .resuming recovery) :
    c.Turn settings (.resumed number) (c.goOn settings.flow recovery number).1
      (c.goOn settings.flow recovery number).2 := by
  have before := stage_of_resuming attempts
  have live := Stage.isLive_of_recovering before
  cases taken : c.session.acknowledge number with
  | error violation =>
    simp only [goOn, taken]
    exact (abandon_turn recovery.write live rfl (.turnedAway taken)).cons rfl
  | ok session =>
    simp only [goOn, taken]
    split
    · rename_i error unfit
      refine (nextAttempt_turn before ?_ (.unsendable attempts taken unfit)).cons rfl
      rfl
    · refine (replay_turn before ?_ recovery session.replay).cons rfl
      rfl

theorem attemptFailed_turn {error : RelayError} (attempts : c.phase = .resuming recovery) :
    c.Turn settings (.resumeFailed error) (c.attemptFailed recovery error).1
      (c.attemptFailed recovery error).2 := by
  have before := stage_of_resuming attempts
  have live := Stage.isLive_of_recovering before
  unfold attemptFailed
  split
  · exact abandon_turn recovery.write live rfl (.forgotten attempts)
  · rename_i other
    by_cases retryable : error.isRetryable = true
    · rw [if_pos retryable]
      exact nextAttempt_turn before rfl (.unresumed attempts retryable)
    · rw [if_neg retryable]
      have final : error.isRetryable = false := by simpa using retryable
      exact abandon_turn recovery.write live rfl (.hopeless final other)

/-! ## Sending -/

theorem isLive_of_sending {errand : Errand} (sends : c.phase = .sending errand) :
    c.phase.stage.isLive = true := by
  rw [sends]
  cases errand with
  | write | ack | replay => rfl

theorem messageSent_turn {errand : Errand} (sends : c.phase = .sending errand) :
    c.Turn settings .sent (c.messageSent settings.flow errand).1
      (c.messageSent settings.flow errand).2 := by
  cases errand with
  | write number =>
    have state : (c.updateThrottle settings.flow).state = c.state := by rw [updateThrottle_frame]
    refine .stays ?_ state rfl
    rw [sends]
    rfl
  | ack =>
    refine .stays ?_ rfl rfl
    rw [sends]
    rfl
  | replay recovery rest =>
    have before : c.phase.stage = .recovering := by rw [sends]; rfl
    exact (replay_turn before rfl recovery rest).cons rfl

/-- A message was not sent, but not because the stream is closed. -/
theorem messageLost_turn {errand : Errand} {error : RelayError}
    (sends : c.phase = .sending errand) (other : error ≠ .streamClosed)
    (fails : c.Fails settings happening (errand.recovery settings.reconnect error.message)) :
    c.Turn settings happening (c.messageLost settings.reconnect errand error).1
      (c.messageLost settings.reconnect errand error).2 := by
  unfold messageLost
  rw [if_neg other]
  cases errand with
  | write number =>
    have before : c.phase.stage = .established := by rw [sends]; rfl
    exact recover_turn before fails
  | ack =>
    have before : c.phase.stage = .established := by rw [sends]; rfl
    exact recover_turn before fails
  | replay recovery rest =>
    have before : c.phase.stage = .recovering := by rw [sends]; rfl
    exact nextAttempt_turn before rfl fails

/-! ## Arrivals -/

theorem messageArrived_turn (message : Bytes) (waits : c.phase = .waiting) :
    c.Turn settings (.arrival (.message message)) (c.messageArrived settings.flow message).1
      (c.messageArrived settings.flow message).2 := by
  have before := Stage.isLive_of_established (stage_of_waiting waits)
  cases means : Wire.decode message with
  | error violation =>
    simp only [messageArrived, means]
    exact (finish_turn before (.breached (.malformed means))).cons rfl
  | ok decoded =>
    cases decoded with
    | none =>
      simp only [messageArrived, means]
      exact .stays rfl rfl rfl
    | some frame =>
      simp only [messageArrived, means]
      cases frame with
      | data payload =>
        simp only [frameArrived]
        split
        · exact .stays rfl rfl rfl
        · exact .stays rfl rfl rfl
      | ack number =>
        simp only [frameArrived]
        split
        · rename_i violation refused
          exact (finish_turn before (.breached (.outside means refused))).cons rfl
        · rename_i session taken
          have state : ({ c with session }.updateThrottle settings.flow).state = c.state := by
            rw [updateThrottle_frame]
          exact .stays (by rw [updateThrottle_phase]) state rfl
      | connectSuccess _ | reconnectSuccess _ | close _ _ =>
        simp only [frameArrived]
        exact (finish_turn before
          (.breached (.displaced means (by simp) (by simp)))).cons rfl

theorem closeArrived_turn (code : UInt16) (reason : String) (waits : c.phase = .waiting) :
    c.Turn settings (.arrival (.close code reason))
      (c.closeArrived settings.reconnect code reason).1
      (c.closeArrived settings.reconnect code reason).2 := by
  have before := stage_of_waiting waits
  unfold closeArrived
  split
  · rename_i means
    exact finish_turn (Stage.isLive_of_established before) (.closed means)
  · rename_i means
    exact recover_turn before (.closed means)
  · rename_i notOrderly notLost
    have known : ∃ error, (CloseDisposition.ofCode code).error? code reason = some error := by
      cases means : CloseDisposition.ofCode code with
      | orderly => exact absurd means notOrderly
      | reconnect => exact absurd means notLost
      | connectFailed | accessDenied | sessionLost | protocolViolation => exact ⟨_, rfl⟩
    obtain ⟨error, means⟩ := known
    rw [means]
    exact finish_turn (Stage.isLive_of_established before) (.dismissed means)

theorem arrived_turn (arrival : Arrival) (waits : c.phase = .waiting) :
    c.Turn settings (.arrival arrival) (c.arrived settings arrival).1
      (c.arrived settings arrival).2 := by
  have before := stage_of_waiting waits
  cases arrival with
  | message message => exact messageArrived_turn message waits
  | close code reason => exact closeArrived_turn code reason waits
  | ended => exact recover_turn before .lost
  | failed error => exact recover_turn before .broken

/-! ## Every step -/

theorem report_turn {payload : Bytes} (reader : Bool) (waits : c.phase = .waiting) :
    c.Turn settings (.room reader)
      ({ c with pending := none }.report settings.ackThreshold).1
      (.hand reader payload :: ({ c with pending := none }.report settings.ackThreshold).2) := by
  have before := stage_of_waiting waits
  unfold report
  split
  · exact .stays before.symm rfl (signals_hand ..)
  · exact .stays before.symm rfl (signals_hand ..)

theorem takeWrite_turn (number : Nat) (payload : Bytes) (waits : c.phase = .waiting) :
    c.Turn settings (.write number payload) (c.takeWrite number payload).1
      (c.takeWrite number payload).2 := by
  have before := stage_of_waiting waits
  unfold takeWrite
  split
  · rename_i error unfit
    exact abandon_turn (some number) (Stage.isLive_of_established before) rfl (.oversized unfit)
  · exact .stays before.symm rfl rfl

theorem noticed_turn {move : Move} (told : c.cancelled = true) (h : c.noticed = some move) :
    c.Turn settings .notice move.1 move.2 := by
  -- taking notice while something is awaited ends the carrier like a closed stream
  have closed (write : Option Nat)
      (before : c.phase.stage.isLive = true) :
      c.Turn settings .notice (c.abandon write none).1 (c.abandon write none).2 :=
    abandon_turn write before rfl (.told told)
  unfold noticed at h
  split at h <;> cases h
  · rename_i waits
    exact closed none (Stage.isLive_of_established (stage_of_waiting waits))
  · rename_i errand sends
    exact closed errand.write? (isLive_of_sending sends)
  · rename_i recovery pauses
    exact closed recovery.write (by rw [pauses]; rfl)
  · rename_i recovery attempts
    exact closed recovery.write (Stage.isLive_of_recovering (stage_of_resuming attempts))

/-- Every step of a carrier is one of the turns above. -/
theorem turn_of_step? {move : Move} (h : c.step? settings happening = some move) :
    c.Turn settings happening move.1 move.2 := by
  cases happening with
  | cancel =>
    cases h
    exact .stays rfl rfl rfl
  | notice =>
    obtain ⟨told, noticed⟩ := Option.ite_none_right_eq_some.mp h
    exact noticed_turn told noticed
  | arrival arrival =>
    obtain ⟨takes, same⟩ := Option.ite_none_right_eq_some.mp h
    cases same
    exact arrived_turn arrival (waiting_of_takes takes).1
  | room reader =>
    simp only [step?] at h
    split at h
    · split at h <;> cases h
      rename_i opened
      exact report_turn reader (phase_of_isOpen opened)
    · cases h
  | write number payload =>
    simp only [step?] at h
    split at h <;> cases h
    rename_i guard
    simp only [Bool.and_eq_true] at guard
    exact takeWrite_turn number payload (phase_of_isOpen guard.1.1)
  | writesOver =>
    simp only [step?] at h
    split at h <;> cases h
    exact .stays rfl rfl rfl
  | sent =>
    simp only [step?] at h
    split at h <;> cases h
    rename_i errand sends
    exact messageSent_turn sends
  | sendFailed error =>
    simp only [step?] at h
    split at h <;> cases h
    rename_i errand sends
    by_cases shut : error = .streamClosed
    · subst shut
      exact abandon_turn errand.write? (isLive_of_sending sends) rfl .shut
    · exact messageLost_turn sends shut (.unsent sends shut)
  | sendStalled =>
    simp only [step?] at h
    split at h <;> cases h
    rename_i errand sends
    exact messageLost_turn sends (by simp) (.stalled sends)
  | pauseOver =>
    simp only [step?] at h
    split at h <;> cases h
    rename_i recovery pauses
    refine .stays ?_ rfl rfl
    rw [pauses]
    rfl
  | resumed number =>
    simp only [step?] at h
    split at h <;> cases h
    rename_i recovery attempts
    exact goOn_turn attempts
  | resumeFailed error =>
    simp only [step?] at h
    split at h <;> cases h
    rename_i recovery attempts
    exact attemptFailed_turn attempts
  | closeOver =>
    simp only [step?] at h
    split at h <;> cases h
    rename_i last closes
    refine .hasClosed ?_ rfl rfl rfl
    rw [closes]
    rfl

end Carrier

end RelayTunnel
