import RelayTunnel.Carrier

/-!
# What a carrier can do in one step

`Carrier.Step` has one constructor for each way in which a carrier goes on with its
session, and few for all the ways in which it lets its connection go, of which
`Carrier.Leaves` says what they have in common. `Carrier.step_of_step?` says that there
are no others. Everything about runs of a carrier is proved by cases on these.
-/

namespace RelayTunnel

/-! ## Actions -/

namespace Action

/-- Whether an action neither moves bytes of the stream nor puts a connection in place. -/
def isAside : Action → Bool
  | .send _ | .install | .deliver _ | .discard _ => false
  | .count (.dataSent _) | .count (.dataReceived _) => false
  | _ => true

/-- The frame that an action begins to send. -/
def frame? : Action → Option Frame
  | .send frame => some frame
  | _ => none

/-- The data that an action puts into the reader's queue. -/
def delivery? : Action → Option Bytes
  | .deliver payload => some payload
  | _ => none

/-- The session and the count with which an action begins to take it up again. -/
def request? : Action → Option (String × UInt64)
  | .resume sid received => some (sid, received)
  | _ => none

/-- Put received data into the queue of a reader, or let go of them without one. -/
def hand (reader : Bool) (payload : Bytes) : Action :=
  if reader then .deliver payload else .discard payload

theorem frame?_eq_none {action : Action} (aside : action.isAside = true) :
    action.frame? = none := by
  cases action <;> simp_all [isAside, frame?]

theorem delivery?_eq_none {action : Action} (aside : action.isAside = true) :
    action.delivery? = none := by
  cases action <;> simp_all [isAside, delivery?]

@[simp] theorem frame?_hand (reader : Bool) (payload : Bytes) :
    (hand reader payload).frame? = none := by
  cases reader <;> rfl

@[simp] theorem request?_hand (reader : Bool) (payload : Bytes) :
    (hand reader payload).request? = none := by
  cases reader <;> rfl

end Action

/-- The bytes of the stream that a frame carries. -/
def Frame.payload : Frame → Bytes
  | .data payload => payload
  | _ => []

/-- The bytes of the stream that a message carries. -/
def Wire.payload (message : Bytes) : Bytes :=
  match Wire.decode message with
  | .ok (some frame) => frame.payload
  | _ => []

/-- The count in a message that is an acknowledgement. -/
def Wire.ack? (message : Bytes) : Option UInt64 :=
  match Wire.decode message with
  | .ok (some (.ack number)) => some number
  | _ => none

theorem Wire.ack?_eq_some {message : Bytes} {number : UInt64} :
    Wire.ack? message = some number ↔ Wire.decode message = .ok (some (.ack number)) := by
  unfold Wire.ack?
  split
  · rename_i other means
    simp [means]
  · rename_i noAck
    simpa using noAck number

/-- The write that waits for its answer in a phase. -/
def Phase.write? : Phase → Option Nat
  | .sending errand => errand.write?
  | .pausing recovery | .resuming recovery => recovery.write
  | .waiting | .closing _ | .ended => none

namespace Happening

/-- The write that waits for its answer once something has happened. -/
def inHand (happening : Happening) (phase : Phase) : Option Nat :=
  match happening with
  | .write number _ => some number
  | _ => phase.write?

/-- Whether a happening is a message of the relay, or the success of sending one or of an
    attempt. -/
def isNews : Happening → Bool
  | .arrival (.message _) | .sent | .resumed _ => true
  | _ => false

/-- The bytes that a happening asks to be written. -/
def payload : Happening → Bytes
  | .write _ payload => payload
  | _ => []

/-- The count of bytes received that the relay states. -/
def acknowledgement? : Happening → Option UInt64
  | .arrival (.message message) => Wire.ack? message
  | .resumed number => some number
  | _ => none

end Happening

namespace Action

/-- The bytes that an action about a happening records as sent. -/
def recorded (happening : Happening) : Action → Bytes
  | .count (.dataSent _) => happening.payload
  | _ => []

@[simp] theorem recorded_hand (happening : Happening) (reader : Bool) (payload : Bytes) :
    (hand reader payload).recorded happening = [] := by
  cases reader <;> rfl

variable {actions : List Action}

theorem frames_eq_nil (aside : ∀ action ∈ actions, action.isAside = true) :
    actions.filterMap frame? = [] :=
  List.filterMap_eq_nil_iff.mpr fun action member => frame?_eq_none (aside action member)

theorem recorded_eq_nil {happening : Happening}
    (aside : ∀ action ∈ actions, action.isAside = true) :
    actions.flatMap (recorded happening) = [] := by
  rw [List.flatMap_eq_nil_iff]
  intro action member
  have aside := aside action member
  unfold recorded
  split
  · cases aside
  · rfl

end Action

/-- The close message that goes with the end of a stream in this state: the relay is told of its
    breach of the protocol, and of an orderly end if the stream was told to end. -/
def StreamState.parting? (told : Bool) : StreamState → Option (UInt16 × String)
  | .closed => if told then some (closeNormal, "") else none
  | .failed (.protocolViolation _) => some (closeInvalidData, "protocol violation")
  | _ => none

namespace Carrier

variable {settings : RelaySettings} {flow : FlowSettings} {c c' : Carrier} {write : Option Nat}

/-- The carrier of a session that was just opened. -/
def start (sid : String) : Carrier := { session := { sid } }

/-- Whether the carrier has a connection on which its session goes on. -/
def isEstablished (c : Carrier) : Bool :=
  match c.phase with
  | .waiting | .sending _ => true
  | .pausing _ | .resuming _ | .closing _ | .ended => false

/-- Whether an attempt to take the session up again is under way. -/
def isResuming (c : Carrier) : Bool :=
  match c.phase with
  | .resuming _ => true
  | _ => false

theorem away_of_isResuming (attempts : c.isResuming = true) : c.isEstablished = false := by
  unfold isResuming at attempts
  split at attempts
  · rename_i phase
    simp [isEstablished, phase]
  · cases attempts

/-- What is still to be sent again on the current connection, apart from the payload that
    is being sent. -/
def unsent (c : Carrier) : Bytes :=
  match c.phase with
  | .sending (.replay _ rest) => rest.flatten
  | _ => []

/-! ## The window of writes -/

/-- Looking at the marks changes at most whether writes are suspended. -/
theorem updateThrottle_frame (flow : FlowSettings) (c : Carrier) :
    c.updateThrottle flow = { c with throttled := (c.updateThrottle flow).throttled } := by
  simp only [updateThrottle]
  repeat' split
  all_goals rfl

@[simp] theorem updateThrottle_session : (c.updateThrottle flow).session = c.session := by
  rw [updateThrottle_frame]

@[simp] theorem updateThrottle_pending : (c.updateThrottle flow).pending = c.pending := by
  rw [updateThrottle_frame]

@[simp] theorem updateThrottle_phase : (c.updateThrottle flow).phase = c.phase := by
  rw [updateThrottle_frame]

@[simp] theorem updateThrottle_writesOpen :
    (c.updateThrottle flow).writesOpen = c.writesOpen := by
  rw [updateThrottle_frame]

@[simp] theorem updateThrottle_cancelled :
    (c.updateThrottle flow).cancelled = c.cancelled := by
  rw [updateThrottle_frame]

/-! ## The end of taking a session up again -/

/-- A carrier that has taken its session up again is connected and waits. -/
theorem recovered_frame (flow : FlowSettings) (recovery : Recovery) (c : Carrier) :
    (c.recovered flow recovery).1 =
      { c with
        throttled := (c.recovered flow recovery).1.throttled
        state := .connected
        phase := .waiting } := by
  unfold recovered
  cases recovery.write with
  | none => rw [updateThrottle_frame]
  | some number =>
    simp only [acceptWrite]
    rw [updateThrottle_frame, updateThrottle_frame flow c]

@[simp] theorem recovered_session (recovery : Recovery) :
    (c.recovered flow recovery).1.session = c.session := by
  rw [recovered_frame]

@[simp] theorem recovered_pending (recovery : Recovery) :
    (c.recovered flow recovery).1.pending = c.pending := by
  rw [recovered_frame]

@[simp] theorem recovered_phase (recovery : Recovery) :
    (c.recovered flow recovery).1.phase = .waiting := by
  rw [recovered_frame]

@[simp] theorem recovered_writesOpen (recovery : Recovery) :
    (c.recovered flow recovery).1.writesOpen = c.writesOpen := by
  rw [recovered_frame]

@[simp] theorem recovered_cancelled (recovery : Recovery) :
    (c.recovered flow recovery).1.cancelled = c.cancelled := by
  rw [recovered_frame]

theorem recovered_aside (recovery : Recovery) :
    ∀ action ∈ (c.recovered flow recovery).2, action.isAside = true := by
  unfold recovered
  cases recovery.write <;> simp [acceptWrite, Action.isAside]

@[simp] theorem recovered_request (recovery : Recovery) :
    (c.recovered flow recovery).2.filterMap Action.request? = [] := by
  unfold recovered
  cases recovery.write <;> simp [acceptWrite, Action.request?]

/-! ## Letting the connection go -/

/-- The moves by which a carrier lets its connection go or stays without one, where `write` is
    in hand. -/
inductive Leaves (write : Option Nat) : Carrier → Move → Prop
  /-- It ends with a close message; the write is not taken. -/
  | parts {c : Carrier} {last : StreamState} {code : UInt16} {reason : String}
      (owed : last.parting? c.cancelled = some (code, reason)) :
      Leaves write c
        ({ c with phase := .closing last },
          (write.map Action.refuse).toList ++ [.close code reason])
  /-- It ends without one. -/
  | stops {c : Carrier} {last : StreamState} (silent : last.parting? c.cancelled = none) :
      Leaves write c
        ({ c with phase := .ended, state := last },
          (write.map Action.refuse).toList ++ [.publish last, .stop])
  | pauses {c : Carrier} {recovery : Recovery} (delay : Duration)
      (holds : recovery.write = write) :
      Leaves write c ({ c with phase := .pausing recovery }, [.pause delay])
  /-- It begins an attempt with the name of the session and the count of the bytes received in
      it. -/
  | attempts {c : Carrier} {recovery : Recovery} (holds : recovery.write = write) :
      Leaves write c
        ({ c with phase := .resuming recovery }, [.resume c.session.sid c.session.received])
  /-- It has lost its connection and goes on without one. -/
  | loses {c : Carrier} {move : Move}
      (goesOn : Leaves write { c with state := .reconnecting } move) :
      Leaves write c (move.1, .publish .reconnecting :: move.2)
  /-- It has sent its close message. -/
  | hasClosed {c : Carrier} {last : StreamState} (closes : c.phase = .closing last)
      (holds : write = none) :
      Leaves write c ({ c with phase := .ended, state := last }, [.publish last, .stop])

/-! ### What these moves have in common -/

namespace Leaves

variable {move : Move}

theorem session (h : c.Leaves write move) : move.1.session = c.session := by
  induction h with
  | loses goesOn ih => exact ih
  | _ => rfl

theorem pending (h : c.Leaves write move) : move.1.pending = c.pending := by
  induction h with
  | loses goesOn ih => exact ih
  | _ => rfl

theorem throttled (h : c.Leaves write move) : move.1.throttled = c.throttled := by
  induction h with
  | loses goesOn ih => exact ih
  | _ => rfl

theorem writesOpen (h : c.Leaves write move) : move.1.writesOpen = c.writesOpen := by
  induction h with
  | loses goesOn ih => exact ih
  | _ => rfl

theorem cancelled (h : c.Leaves write move) : move.1.cancelled = c.cancelled := by
  induction h with
  | loses goesOn ih => exact ih
  | _ => rfl

theorem away (h : c.Leaves write move) : move.1.isEstablished = false := by
  induction h with
  | loses goesOn ih => exact ih
  | _ => rfl

/-- No byte of the stream moves. -/
theorem aside (h : c.Leaves write move) : ∀ action ∈ move.2, action.isAside = true := by
  induction h with
  | loses goesOn ih => exact List.forall_mem_cons.mpr ⟨rfl, ih⟩
  | parts | stops => cases write <;> simp [Action.isAside]
  | pauses | attempts | hasClosed => simp [Action.isAside]

/-- If an attempt to take the session up again begins, then with its name and the count of the
    bytes received in it. -/
theorem asks (h : c.Leaves write move) :
    move.2.filterMap Action.request? =
      if move.1.isResuming then [(c.session.sid, c.session.received)] else [] := by
  induction h with
  | loses goesOn ih => exact ih
  | parts | stops => cases write <;> rfl
  | pauses | attempts | hasClosed => rfl

/-- No write is taken on the way out. -/
theorem untaken (h : c.Leaves write move) (number : Nat) : .accept number ∉ move.2 := by
  induction h with
  | loses goesOn ih => simpa using ih
  | parts | stops => cases write <;> simp
  | pauses | attempts | hasClosed => simp

end Leaves

/-! ### What makes them -/

theorem abandon_leaves (write : Option Nat) (error : Option RelayError) (c : Carrier) :
    c.Leaves write (c.abandon write error) := by
  show c.Leaves write
    ((c.finish error).1, (write.map Action.refuse).toList ++ (c.finish error).2)
  unfold finish
  split
  · split
    next told => exact .parts (by simp [StreamState.parting?, told])
    next untold => exact .stops (by simp [StreamState.parting?, untold])
  · split
    next told => exact .parts (by simp [StreamState.parting?, told])
    next untold => exact .stops (by simp [StreamState.parting?, untold])
  · exact .parts rfl
  next error _ other =>
    refine .stops ?_
    cases error with
    | protocolViolation violation => exact absurd rfl (other violation)
    | _ => rfl

theorem finish_leaves (error : Option RelayError) (c : Carrier) :
    c.Leaves none (c.finish error) :=
  abandon_leaves none error c

theorem nextAttempt_leaves {recovery : Recovery} (c : Carrier) (holds : recovery.write = write) :
    c.Leaves write (c.nextAttempt recovery) := by
  unfold nextAttempt
  split
  · exact holds ▸ abandon_leaves ..
  · dsimp only
    split
    · exact .attempts holds
    · exact .pauses _ holds

theorem recover_leaves (settings : ReconnectSettings) (write : Option Nat) (reason : String)
    (c : Carrier) : c.Leaves write (c.recover settings write reason) :=
  .loses (nextAttempt_leaves _ rfl)

theorem attemptFailed_leaves (recovery : Recovery) (error : RelayError) (c : Carrier) :
    c.Leaves recovery.write (c.attemptFailed recovery error) := by
  unfold attemptFailed
  split
  · exact abandon_leaves ..
  · split
    · exact nextAttempt_leaves c rfl
    · exact abandon_leaves ..

theorem messageLost_leaves (settings : ReconnectSettings) (errand : Errand) (error : RelayError)
    (c : Carrier) : c.Leaves errand.write? (c.messageLost settings errand error) := by
  unfold messageLost
  split
  · exact abandon_leaves ..
  · cases errand with
    | write number => exact recover_leaves ..
    | ack => exact recover_leaves ..
    | replay recovery rest => exact nextAttempt_leaves c rfl

theorem closeArrived_leaves (settings : ReconnectSettings) (code : UInt16) (reason : String)
    (c : Carrier) : c.Leaves none (c.closeArrived settings code reason) := by
  unfold closeArrived
  split
  · exact finish_leaves ..
  · exact recover_leaves ..
  · exact finish_leaves ..

theorem noticed_leaves {move : Move} (h : c.noticed = some move) :
    c.Leaves c.phase.write? move := by
  unfold noticed at h
  split at h <;> cases h
  next waits => exact waits ▸ finish_leaves ..
  next errand sends => exact sends ▸ abandon_leaves ..
  next recovery pauses => exact pauses ▸ abandon_leaves ..
  next recovery attempts => exact attempts ▸ abandon_leaves ..

/-! ## Steps -/

/-- One step of a carrier. -/
inductive Step (settings : RelaySettings) (c : Carrier) : Happening → Carrier → List Action → Prop
  | told : c.Step settings .cancel { c with cancelled := true } []
  | writesOver (opened : c.isOpen = true) (writes : c.writesOpen = true)
      (unthrottled : c.throttled = false) :
      c.Step settings .writesOver { c with writesOpen := false } []
  /-- An unknown tag, or no data. -/
  | skipped {message : Bytes} (opened : c.isOpen = true) (free : c.pending = none)
      (means : Wire.decode message = .ok none ∨ Wire.decode message = .ok (some (.data []))) :
      c.Step settings (.arrival (.message message)) c [.count .frameReceived]
  | received {message payload : Bytes} (opened : c.isOpen = true) (free : c.pending = none)
      (means : Wire.decode message = .ok (some (.data payload))) (nonempty : payload ≠ []) :
      c.Step settings (.arrival (.message message))
        { c with
          session := c.session.recordReceived payload.length
          pending := some payload }
        [.count .frameReceived, .count (.dataReceived payload.length)]
  | acknowledged {message : Bytes} {number : UInt64} {session : Session}
      (opened : c.isOpen = true) (free : c.pending = none)
      (means : Wire.ack? message = some number)
      (taken : c.session.acknowledge number = .ok session) :
      c.Step settings (.arrival (.message message))
        ({ c with session }.updateThrottle settings.flow) [.count .frameReceived]
  /-- A breach of the protocol, which an acknowledgement is only outside the window. -/
  | breached {message : Bytes} {move : Move} (opened : c.isOpen = true) (free : c.pending = none)
      (means : Wire.payload message = [])
      (refused : ∀ number, Wire.ack? message = some number →
        ∃ violation, c.session.acknowledge number = .error violation)
      (leaves : c.Leaves none move) :
      c.Step settings (.arrival (.message message)) move.1 (.count .frameReceived :: move.2)
  | handed {payload : Bytes} {reader : Bool} (opened : c.isOpen = true)
      (held : c.pending = some payload)
      (few : c.session.unreported < max settings.ackThreshold 1) :
      c.Step settings (.room reader) { c with pending := none } [.hand reader payload]
  | reported {payload : Bytes} {reader : Bool} (opened : c.isOpen = true)
      (held : c.pending = some payload)
      (enough : ¬ c.session.unreported < max settings.ackThreshold 1) :
      c.Step settings (.room reader)
        { c with
          pending := none
          session := c.session.takeAck
          phase := .sending .ack }
        [.hand reader payload, .send (.ack c.session.received)]
  | took {number : Nat} {payload : Bytes} (opened : c.isOpen = true)
      (writes : c.writesOpen = true) (unthrottled : c.throttled = false)
      (fits : payload.length ≤ maxPayload) :
      c.Step settings (.write number payload)
        { c with
          session := c.session.recordSent payload
          phase := .sending (.write number) }
        [.count (.dataSent payload.length), .send (.data payload)]
  | wrote {number : Nat} (sends : c.phase = .sending (.write number)) :
      c.Step settings .sent
        { c.updateThrottle settings.flow with phase := .waiting }
        [.count .frameSent, .accept number]
  | hasReported (sends : c.phase = .sending .ack) :
      c.Step settings .sent { c with phase := .waiting } [.count .frameSent]
  | resent {recovery : Recovery} {payload : Bytes} {rest : List Bytes}
      (sends : c.phase = .sending (.replay recovery (payload :: rest))) :
      c.Step settings .sent { c with phase := .sending (.replay recovery rest) }
        [.count .frameSent, .send (.data payload)]
  | recovered {recovery : Recovery} (sends : c.phase = .sending (.replay recovery [])) :
      c.Step settings .sent (c.recovered settings.flow recovery).1
        (.count .frameSent :: (c.recovered settings.flow recovery).2)
  /-- The session goes on, and what the relay does not hold is sent again. -/
  | resumed {number : UInt64} {session : Session} {recovery : Recovery}
      {payload : Bytes} {rest : List Bytes} (attempts : c.phase = .resuming recovery)
      (taken : c.session.acknowledge number = .ok session)
      (kept : session.replay = payload :: rest) :
      c.Step settings (.resumed number)
        { c with
          session
          phase := .sending (.replay recovery rest) }
        [.install, .send (.data payload)]
  /-- The session goes on, and there is nothing to be sent again. -/
  | resumedWhole {number : UInt64} {session : Session} {recovery : Recovery}
      (attempts : c.phase = .resuming recovery)
      (taken : c.session.acknowledge number = .ok session) (kept : session.replay = []) :
      c.Step settings (.resumed number) ({ c with session }.recovered settings.flow recovery).1
        (.install :: ({ c with session }.recovered settings.flow recovery).2)
  | turnedAway {number : UInt64} {violation : Violation} {recovery : Recovery} {move : Move}
      (attempts : c.phase = .resuming recovery)
      (refused : c.session.acknowledge number = .error violation)
      (leaves : c.Leaves recovery.write move) :
      c.Step settings (.resumed number) move.1 (.install :: move.2)
  /-- The session would go on, but a payload does not fit into a frame. -/
  | unsendable {number : UInt64} {session : Session} {recovery : Recovery} {move : Move}
      (attempts : c.phase = .resuming recovery)
      (taken : c.session.acknowledge number = .ok session)
      (leaves : { c with session }.Leaves recovery.write move) :
      c.Step settings (.resumed number) move.1 (.install :: move.2)
  | left {happening : Happening} {write : Option Nat} {move : Move}
      (other : happening.isNews = false) (leaves : c.Leaves write move)
      (hand : happening.inHand c.phase = write) :
      c.Step settings happening move.1 move.2

theorem phase_of_isOpen (opened : c.isOpen = true) : c.phase = .waiting := by
  simp only [isOpen, Bool.and_eq_true, decide_eq_true_eq] at opened
  exact opened.1

/-- Something arrives while a carrier waits that holds no data. -/
theorem waiting_of_takes {arrival : Arrival} (takes : c.takes arrival = true) :
    c.phase = .waiting ∧ c.pending = none := by
  simp only [Carrier.takes, Bool.and_eq_true, decide_eq_true_eq,
    Option.isNone_iff_eq_none] at takes
  exact takes.1

/-- What is no orderly close is taken only if the stream was not told to end. -/
theorem isOpen_of_takes {arrival : Arrival} (takes : c.takes arrival = true)
    (other : arrival.isOrderlyClose = false) : c.isOpen = true := by
  simp only [Carrier.takes, other, Bool.or_false, Bool.and_eq_true] at takes
  simp [isOpen, takes.1.1, takes.2]

theorem encode_data_eq_ok {payload message : Bytes}
    (h : Wire.encode (.data payload) = .ok message) : payload.length ≤ maxPayload := by
  simp only [Wire.encode] at h
  split at h
  · cases h
  · rename_i fits
    exact Nat.not_lt.mp fits

theorem messageArrived_step (message : Bytes) (opened : c.isOpen = true)
    (free : c.pending = none) :
    c.Step settings (.arrival (.message message)) (c.messageArrived settings.flow message).1
      (c.messageArrived settings.flow message).2 := by
  cases means : Wire.decode message with
  | error violation =>
    simp only [messageArrived, means]
    exact .breached opened free (by simp [Wire.payload, means]) (by simp [Wire.ack?, means])
      (finish_leaves ..)
  | ok decoded =>
    cases decoded with
    | none =>
      simp only [messageArrived, means]
      exact .skipped opened free (.inl means)
    | some frame =>
      simp only [messageArrived, means]
      cases frame with
      | data payload =>
        simp only [frameArrived]
        split
        · rename_i empty
          obtain rfl : payload = [] := by simpa using empty
          exact .skipped opened free (.inr means)
        · rename_i nonempty
          exact .received opened free means (by simpa using nonempty)
      | ack number =>
        simp only [frameArrived]
        split
        · rename_i violation refused
          refine .breached opened free (by simp [Wire.payload, means, Frame.payload]) ?_
            (finish_leaves ..)
          intro other same
          obtain rfl : number = other := by simpa [Wire.ack?, means] using same
          exact ⟨violation, refused⟩
        · rename_i session taken
          exact .acknowledged opened free (Wire.ack?_eq_some.mpr means) taken
      | connectSuccess _ | reconnectSuccess _ | close _ _ =>
        simp only [frameArrived]
        exact .breached opened free (by simp [Wire.payload, means, Frame.payload])
          (by simp [Wire.ack?, means]) (finish_leaves ..)

theorem report_step {payload : Bytes} (reader : Bool) (opened : c.isOpen = true)
    (held : c.pending = some payload) :
    c.Step settings (.room reader)
      ({ c with pending := none }.report settings.ackThreshold).1
      (.hand reader payload :: ({ c with pending := none }.report settings.ackThreshold).2) := by
  simp only [report]
  split
  · rename_i few
    rw [← phase_of_isOpen opened]
    exact .handed opened held few
  · rename_i enough
    exact .reported opened held enough

theorem takeWrite_step (number : Nat) (payload : Bytes) (opened : c.isOpen = true)
    (writes : c.writesOpen = true) (unthrottled : c.throttled = false) :
    c.Step settings (.write number payload) (c.takeWrite number payload).1
      (c.takeWrite number payload).2 := by
  unfold takeWrite
  split
  · exact .left rfl (abandon_leaves ..) rfl
  · rename_i message encoded
    exact .took opened writes unthrottled (encode_data_eq_ok encoded)

theorem messageSent_step {errand : Errand} (sends : c.phase = .sending errand) :
    c.Step settings .sent (c.messageSent settings.flow errand).1
      (c.messageSent settings.flow errand).2 := by
  cases errand with
  | write number => exact .wrote sends
  | ack => exact .hasReported sends
  | replay recovery rest =>
    cases rest with
    | nil => exact .recovered sends
    | cons payload rest => exact .resent sends

theorem goOn_step {recovery : Recovery} (number : UInt64)
    (attempts : c.phase = .resuming recovery) :
    c.Step settings (.resumed number) (c.goOn settings.flow recovery number).1
      (c.goOn settings.flow recovery number).2 := by
  cases taken : c.session.acknowledge number with
  | error violation =>
    simp only [goOn, taken]
    exact .turnedAway attempts taken (abandon_leaves ..)
  | ok session =>
    simp only [goOn, taken]
    split
    · exact .unsendable attempts taken (nextAttempt_leaves _ rfl)
    · cases kept : session.replay with
      | nil => exact .resumedWhole attempts taken kept
      | cons payload rest => exact .resumed attempts taken kept

/-- Every step of a carrier is one of those above. -/
theorem step_of_step? {happening : Happening} {move : Move}
    (h : c.step? settings happening = some move) :
    c.Step settings happening move.1 move.2 := by
  cases happening with
  | cancel =>
    cases h
    exact .told
  | notice =>
    simp only [step?] at h
    split at h
    · exact .left rfl (noticed_leaves h) rfl
    · cases h
  | arrival arrival =>
    simp only [step?] at h
    split at h <;> cases h
    rename_i takes
    cases arrival with
    | message message =>
      exact messageArrived_step message (isOpen_of_takes takes rfl) (waiting_of_takes takes).2
    | close code reason =>
      exact .left rfl (closeArrived_leaves ..) (by rw [(waiting_of_takes takes).1]; rfl)
    | ended => exact .left rfl (recover_leaves ..) (by rw [(waiting_of_takes takes).1]; rfl)
    | failed error =>
      exact .left rfl (recover_leaves ..) (by rw [(waiting_of_takes takes).1]; rfl)
  | room reader =>
    simp only [step?] at h
    split at h
    · rename_i payload held
      split at h <;> cases h
      rename_i opened
      exact report_step reader opened held
    · cases h
  | write number payload =>
    simp only [step?] at h
    split at h <;> cases h
    rename_i guard
    simp only [Bool.and_eq_true, Bool.not_eq_true'] at guard
    exact takeWrite_step number payload guard.1.1 guard.1.2 guard.2
  | writesOver =>
    simp only [step?] at h
    split at h <;> cases h
    rename_i guard
    simp only [Bool.and_eq_true, Bool.not_eq_true'] at guard
    exact .writesOver guard.1.1 guard.1.2 guard.2
  | sent =>
    simp only [step?] at h
    split at h <;> cases h
    rename_i errand sends
    exact messageSent_step sends
  | sendFailed error =>
    simp only [step?] at h
    split at h <;> cases h
    rename_i errand sends
    exact .left rfl (messageLost_leaves ..) (by rw [sends]; rfl)
  | sendStalled =>
    simp only [step?] at h
    split at h <;> cases h
    rename_i errand sends
    exact .left rfl (messageLost_leaves ..) (by rw [sends]; rfl)
  | pauseOver =>
    simp only [step?] at h
    split at h <;> cases h
    rename_i recovery pauses
    exact .left rfl (.attempts rfl) (by rw [pauses]; rfl)
  | resumed number =>
    simp only [step?] at h
    split at h <;> cases h
    rename_i recovery attempts
    exact goOn_step number attempts
  | resumeFailed error =>
    simp only [step?] at h
    split at h <;> cases h
    rename_i recovery attempts
    exact .left rfl (attemptFailed_leaves ..) (by rw [attempts]; rfl)
  | closeOver =>
    simp only [step?] at h
    split at h <;> cases h
    rename_i last closes
    exact .left rfl (.hasClosed closes rfl) (by rw [closes]; rfl)

variable {happening : Happening} {actions : List Action}

/-- Nothing but being told to end changes whether a carrier was. -/
theorem Step.cancelled_eq (step : c.Step settings happening c' actions)
    (other : happening ≠ .cancel) : c'.cancelled = c.cancelled := by
  cases step with
  | told => exact absurd rfl other
  | writesOver | skipped | received | handed | reported | took | hasReported | resent
  | resumed => rfl
  | acknowledged | wrote | recovered | resumedWhole => simp
  | breached opened free means refused leaves | turnedAway attempts refused leaves
  | unsendable attempts taken leaves | left otherwise leaves => exact leaves.cancelled

/-- A carrier that was told to end stays so. -/
theorem Step.cancelled (step : c.Step settings happening c' actions)
    (told : c.cancelled = true) : c'.cancelled = true := by
  by_cases now : happening = .cancel
  · subst now
    cases step with
    | told => rfl
    | left otherwise leaves => rw [leaves.cancelled, told]
  · rw [step.cancelled_eq now, told]

/-- An orderly close ends a carrier that holds no data and was not told to end. -/
theorem step?_close {code : UInt16} {reason : String}
    (orderly : CloseDisposition.ofCode code = .orderly) (untold : c.cancelled = false)
    (h : c.step? settings (.arrival (.close code reason)) = some (c', actions)) :
    c.pending = none ∧ c' = { c with phase := .ended, state := .closed } := by
  obtain ⟨takes, same⟩ := Option.ite_none_right_eq_some.mp h
  have stopped : c.arrived settings (.close code reason) = c.stopIn .closed := by
    simp [arrived, closeArrived, orderly, finish, untold]
  rw [stopped] at same
  cases same
  exact ⟨(waiting_of_takes takes).2, rfl⟩

/-- Nothing happens any more to a carrier that has ended, but it can be told to end. -/
theorem step?_ended (ended : c.phase = .ended) (other : happening ≠ .cancel) :
    c.step? settings happening = none := by
  have shut : c.isOpen = false := by simp [isOpen, ended]
  cases happening with
  | cancel => exact absurd rfl other
  | notice => simp [step?, noticed, ended]
  | arrival => simp [step?, takes, ended]
  | write | writesOver => simp [step?, shut]
  | room =>
    simp only [step?, shut]
    split <;> rfl
  | sent | sendFailed | sendStalled | pauseOver | resumed | resumeFailed | closeOver =>
    simp only [step?, ended]

/-! ## Runs -/

/-- The carrier after a series of happenings, and what it did about each of them; `none`
    if it was not waiting for one. -/
def run? (settings : RelaySettings) (c : Carrier) :
    List Happening → Option (Carrier × List (Happening × List Action))
  | [] => some (c, [])
  | happening :: happenings => do
    let (c', actions) ← c.step? settings happening
    let (last, log) ← c'.run? settings happenings
    return (last, (happening, actions) :: log)

/-- A carrier can be told to end between an orderly close and its end. Then it sends a close
    message to the relay, which it otherwise would not. -/
theorem run?_cancel_close {code : UInt16} (reason : String)
    (orderly : CloseDisposition.ofCode code = .orderly) (waits : c.phase = .waiting)
    (free : c.pending = none) :
    c.run? settings [.cancel, .arrival (.close code reason)] =
      some ({ c with cancelled := true, phase := .closing .closed },
        [(.cancel, []), (.arrival (.close code reason), [.close closeNormal ""])]) := by
  simp [run?, step?, takes, waits, free, Arrival.isOrderlyClose, orderly, arrived, closeArrived,
    finish, closeIn]

/-- What every step preserves of a carrier and a record of its run, every run does. -/
theorem run?_invariant {Record : Type} {follow : Record → Happening × List Action → Record}
    {Inv : Carrier → Record → Prop}
    (step : ∀ c record happening c' actions, Inv c record →
      c.Step settings happening c' actions → Inv c' (follow record (happening, actions)))
    {happenings : List Happening} {log : List (Happening × List Action)} {record : Record}
    (run : c.run? settings happenings = some (c', log)) (before : Inv c record) :
    Inv c' (log.foldl follow record) := by
  induction happenings generalizing c record log with
  | nil =>
    cases run
    exact before
  | cons happening happenings ih =>
    simp only [run?, Option.bind_eq_bind, Option.bind_eq_some_iff] at run
    obtain ⟨⟨next, actions⟩, stepped, ⟨last, rest⟩, run, last_eq⟩ := run
    cases last_eq
    rw [List.foldl_cons]
    exact ih run (step _ _ _ _ _ before (step_of_step? stepped))

end Carrier

end RelayTunnel
