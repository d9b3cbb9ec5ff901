import Mathlib.Control.Monad.Basic
import RelayTunnel.Handshake
import RelayTunnel.Proofs.Wire

/-!
# How a session is opened and taken up again

Both begin with the same handshake: a token is asked for, the connector is called with it, and
the connection that comes of this is listened to until something other than a message with an
unknown tag arrives. `Endpoint.opening` and `Endpoint.resuming` are all of it in a world, for a
connection of which is known what it brings in time. One frame grants what was asked for; `Handshake.Refuses` says what every other
arrival means.

Nothing behind the arrival that decides is looked at: it stays on the connection.
-/

namespace RelayTunnel

/-! ## The whole handshake -/

namespace Endpoint

/-- A call to something outside. -/
inductive Call where
  /-- The credential is asked for a token. -/
  | credential
  | connector (request : Request)
  deriving DecidableEq, Repr

/-- Do something in a world, and note the call. -/
def noted {World α : Type} (call : Call) (act : StateM World α) :
    StateM (World × List Call) α := fun (world, calls) =>
  let (result, world) := act.run world
  (result, (world, calls ++ [call]))

theorem noted_of_run {World α : Type} {call : Call} {act : StateM World α} {world after : World}
    {result : α} (did : act.run world = (result, after)) (calls : List Call) :
    noted call act (world, calls) = (result, after, calls ++ [call]) := by
  rw [noted, did]

section

variable (endpoint : Endpoint) (limit : Duration) {World : Type}
  (token : StateM World (Except RelayError String))
  (connect : Request → StateM World (Except RelayError (List Arrival)))

/-- Listen to a connection of which is known what it brings in time. -/
def hearing {α : Type} (answer : Frame → Except RelayError α) (arrivals : List Arrival) :
    StateM (World × List Call) (Except RelayError (α × List Arrival)) :=
  return Handshake.conclude limit answer arrivals

/-- A connector that notes its calls. -/
def calling (request : Request) : StateM (World × List Call) (Except RelayError (List Arrival)) :=
  noted (.connector request) (connect request)

/-- Open a session in a world, and note the calls. -/
def opening (target : Target) (world : World) :
    Except RelayError (String × List Arrival) × World × List Call :=
  (endpoint.openSession (noted .credential token) (calling connect) (hearing limit) target).run
    (world, [])

/-- Take a session up again in a world, and note the calls. -/
def resuming (target : Target) (sid : String) (received : UInt64) (world : World) :
    Except RelayError (UInt64 × List Arrival) × World × List Call :=
  (endpoint.resumeSession (noted .credential token) (calling connect) (hearing limit) target sid
    received).run (world, [])

end

end Endpoint

/-! ## What arrivals mean -/

/-- A message with a tag that announces nothing. -/
def Arrival.IsSkipped (arrival : Arrival) : Prop :=
  ∃ m, arrival = .message m ∧
    2 ≤ m.length ∧ BigEndian.decode (m.take 2) ∉ [0x0001, 0x0002, 0x0004, 0x0007]

namespace Handshake

/-- What else than the frame that was asked for ends a handshake, and with which error. -/
inductive Refuses (wanted : FrameKind) : Arrival → RelayError → Prop
  | malformed {m : Bytes} {violation : Violation} (means : Wire.decode m = .error violation) :
      Refuses wanted (.message m) (.protocolViolation violation)
  | displaced {m : Bytes} {frame : Frame} (means : Wire.encode frame = .ok m)
      (other : frame.kind ≠ wanted) :
      Refuses wanted (.message m) (.protocolViolation (.expected wanted frame.kind))
  | ended : Refuses wanted .ended (.transport "relay connection ended during handshake")
  | failed {error : RelayError} : Refuses wanted (.failed error) error
  | closed {code : UInt16} {reason : String} {error : RelayError}
      (means : (CloseDisposition.ofCode code).error? code reason = some error) :
      Refuses wanted (.close code reason) error
  /-- On an established session such a close is no error. -/
  | left {code : UInt16} {reason : String}
      (means : CloseDisposition.ofCode code = .orderly ∨
        CloseDisposition.ofCode code = .reconnect) :
      Refuses wanted (.close code reason)
        (.connectFailed s!"relay closed connection with code {code}")

variable {arrival : Arrival} {arrivals skipped rest : List Arrival} {frame : Frame}
  {error : RelayError}

theorem weigh_eq_none : weigh arrival = none ↔ arrival.IsSkipped := by
  cases arrival with
  | message m =>
    simp only [weigh, Arrival.IsSkipped, Arrival.message.injEq, exists_eq_left',
      ← Wire.decode_eq_none_iff]
    split <;> simp_all
  | close code reason => simp [weigh, Arrival.IsSkipped]
  | ended => simp [weigh, Arrival.IsSkipped]
  | failed error => simp [weigh, Arrival.IsSkipped]

theorem weigh_eq_ok :
    weigh arrival = some (.ok frame) ↔ ∃ m, arrival = .message m ∧ Wire.encode frame = .ok m := by
  cases arrival with
  | message m =>
    simp only [weigh, Arrival.message.injEq, exists_eq_left', ← Wire.decode_eq_some_iff]
    split <;> simp_all
  | close code reason => simp [weigh]
  | ended => simp [weigh]
  | failed error => simp [weigh]

/-- Nothing that is skipped matters. -/
theorem firstFrame?_append (unknown : ∀ arrival ∈ skipped, arrival.IsSkipped) :
    firstFrame? (skipped ++ arrivals) = firstFrame? arrivals := by
  induction skipped with
  | nil => rfl
  | cons arrival skipped ih =>
    obtain ⟨first, others⟩ := List.forall_mem_cons.mp unknown
    rw [List.cons_append, firstFrame?, weigh_eq_none.mpr first]
    exact ih others

/-- Either everything that arrives is skipped, or there is a first arrival that is not. -/
theorem skipped_or_decided (arrivals : List Arrival) :
    (∀ arrival ∈ arrivals, arrival.IsSkipped) ∨
      ∃ skipped decisive rest, arrivals = skipped ++ decisive :: rest ∧
        (∀ arrival ∈ skipped, arrival.IsSkipped) ∧ ¬ decisive.IsSkipped := by
  induction arrivals with
  | nil => exact .inl (by simp)
  | cons arrival arrivals ih =>
    by_cases unknown : arrival.IsSkipped
    · rcases ih with all | ⟨skipped, decisive, rest, rfl, before, decides⟩
      · exact .inl (List.forall_mem_cons.mpr ⟨unknown, all⟩)
      · exact .inr ⟨arrival :: skipped, decisive, rest, rfl,
          List.forall_mem_cons.mpr ⟨unknown, before⟩, decides⟩
    · exact .inr ⟨[], arrival, arrivals, rfl, by simp, unknown⟩

/-- Every way not to give what was asked for is one of those listed. -/
theorem refuses_iff {wanted : FrameKind} : Refuses wanted arrival error ↔
    weigh arrival = some (.error error) ∨
      ∃ frame, weigh arrival = some (.ok frame) ∧ frame.kind ≠ wanted ∧
        error = .protocolViolation (.expected wanted frame.kind) := by
  constructor
  · intro refuses
    cases refuses with
    | malformed means => exact .inl (by rw [weigh, means])
    | displaced means other => exact .inr ⟨_, weigh_eq_ok.mpr ⟨_, rfl, means⟩, other, rfl⟩
    | ended => exact .inl rfl
    | failed => exact .inl rfl
    | closed means => exact .inl (by rw [weigh, closeError, means, Option.getD_some])
    | left means =>
      refine .inl ?_
      rcases means with means | means <;> rw [weigh, closeError, means] <;> rfl
  · rintro (means | ⟨frame, means, other, rfl⟩)
    · cases arrival with
      | message m =>
        rcases decoded : Wire.decode m with violation | _ | frame
        · obtain rfl : RelayError.protocolViolation violation = error := by
            simpa [weigh, decoded] using means
          exact .malformed decoded
        · simp [weigh, decoded] at means
        · simp [weigh, decoded] at means
      | close code reason =>
        obtain rfl : closeError code reason = error := by simpa [weigh] using means
        unfold closeError
        cases means : (CloseDisposition.ofCode code).error? code reason with
        | some error => exact .closed means
        | none =>
          refine .left ?_
          cases kind : CloseDisposition.ofCode code <;>
            simp [kind, CloseDisposition.error?] at means ⊢
      | ended =>
        obtain rfl : RelayError.transport "relay connection ended during handshake" = error := by
          simpa [weigh] using means
        exact .ended
      | failed error' =>
        obtain rfl : error' = error := by simpa [weigh] using means
        exact .failed
    · obtain ⟨m, rfl, encodes⟩ := weigh_eq_ok.mp means
      exact .displaced encodes other

/-! ## What is asked for -/

/-- What was asked for is granted by frames of one kind, each of which carries it. -/
structure Grants {α : Type} (answer : Frame → Except RelayError α) (grant : α → Frame)
    (wanted : FrameKind) : Prop where
  ok {frame : Frame} {value : α} : answer frame = .ok value ↔ frame = grant value
  error {frame : Frame} {error : RelayError} : answer frame = .error error ↔
    frame.kind ≠ wanted ∧ error = .protocolViolation (.expected wanted frame.kind)

theorem grants_sid : Grants sid .connectSuccess .connectSuccess where
  ok {frame _} := by cases frame <;> simp [sid]
  error {frame _} := by cases frame <;> simp [sid, Frame.kind, eq_comm]

theorem grants_count : Grants count .reconnectSuccess .reconnectSuccess where
  ok {frame _} := by cases frame <;> simp [count]
  error {frame _} := by cases frame <;> simp [count, Frame.kind, eq_comm]

section

variable {α : Type} {answer : Frame → Except RelayError α} {grant : α → Frame}
  {wanted : FrameKind} {limit : Duration}

/-- While nothing decides, the handshake goes on until its time is over. -/
theorem conclude_of_skipped (unknown : ∀ arrival ∈ skipped, arrival.IsSkipped) :
    conclude limit answer skipped = .error (.connectTimeout limit) := by
  have none : firstFrame? skipped = none := by
    rw [← List.append_nil skipped, firstFrame?_append unknown, firstFrame?]
  rw [conclude, outcome?, none, Option.map_none]

/-- The first arrival that is not skipped decides, and what is behind it is left. -/
theorem conclude_append {decided : Except RelayError Frame}
    (unknown : ∀ arrival ∈ skipped, arrival.IsSkipped) (means : weigh arrival = some decided) :
    conclude limit answer (skipped ++ arrival :: rest) =
      (decided.bind answer).map fun value => (value, rest) := by
  rw [conclude, outcome?, firstFrame?_append unknown, firstFrame?, means]
  rfl

theorem weigh_of_not_isSkipped (decides : ¬ arrival.IsSkipped) :
    ∃ decided, weigh arrival = some decided :=
  Option.ne_none_iff_exists'.mp fun none => decides (weigh_eq_none.mp none)

theorem conclude_eq_ok {value : α} {left : List Arrival} (grants : Grants answer grant wanted)
    (unknown : ∀ arrival ∈ skipped, arrival.IsSkipped) (decides : ¬ arrival.IsSkipped) :
    conclude limit answer (skipped ++ arrival :: rest) = .ok (value, left) ↔
      (∃ m, arrival = .message m ∧ Wire.encode (grant value) = .ok m) ∧ left = rest := by
  obtain ⟨decided, means⟩ := weigh_of_not_isSkipped decides
  rw [conclude_append unknown means, ← weigh_eq_ok, means]
  cases decided with
  | error e => simp [Except.bind, Except.map]
  | ok frame =>
    have given : answer frame = .ok value ↔ frame = grant value := grants.ok
    rw [Option.some_inj, Except.ok.injEq, ← given, Except.bind]
    cases answer frame <;> simp [Except.map, eq_comm]

theorem conclude_eq_error (grants : Grants answer grant wanted)
    (unknown : ∀ arrival ∈ skipped, arrival.IsSkipped) (decides : ¬ arrival.IsSkipped) :
    conclude limit answer (skipped ++ arrival :: rest) = .error error ↔
      Refuses wanted arrival error := by
  obtain ⟨decided, means⟩ := weigh_of_not_isSkipped decides
  rw [conclude_append unknown means, refuses_iff, means]
  cases decided with
  | error e => simp [Except.bind, Except.map]
  | ok frame =>
    have refused : answer frame = .error error ↔
      frame.kind ≠ wanted ∧ error = .protocolViolation (.expected wanted frame.kind) :=
      grants.error
    simp only [Option.some.injEq, reduceCtorEq, Except.ok.injEq, false_or, exists_eq_left',
      ← refused, Except.bind]
    cases answer frame <;> simp [Except.map]

end

end Handshake

/-! ## How a handshake goes -/

namespace Handshake

/-- What comes of a handshake on a connection that brings `arrivals` in time. -/
structure Concludes {α : Type} (grant : α → Frame) (wanted : FrameKind) (limit : Duration)
    (arrivals : List Arrival) (result : Except RelayError (α × List Arrival)) : Prop where
  late (unknown : ∀ arrival ∈ arrivals, arrival.IsSkipped) :
    result = .error (.connectTimeout limit)
  granted {skipped rest : List Arrival} {decisive : Arrival}
    (order : arrivals = skipped ++ decisive :: rest)
    (unknown : ∀ arrival ∈ skipped, arrival.IsSkipped) (decides : ¬ decisive.IsSkipped)
    (value : α) (left : List Arrival) :
    result = .ok (value, left) ↔
      (∃ m, decisive = .message m ∧ Wire.encode (grant value) = .ok m) ∧ left = rest
  refused {skipped rest : List Arrival} {decisive : Arrival}
    (order : arrivals = skipped ++ decisive :: rest)
    (unknown : ∀ arrival ∈ skipped, arrival.IsSkipped) (decides : ¬ decisive.IsSkipped)
    (error : RelayError) : result = .error error ↔ Refuses wanted decisive error

theorem concludes {α : Type} {answer : Frame → Except RelayError α} {grant : α → Frame}
    {wanted : FrameKind} (grants : Grants answer grant wanted) (limit : Duration)
    (arrivals : List Arrival) :
    Concludes grant wanted limit arrivals (conclude limit answer arrivals) where
  late unknown := conclude_of_skipped unknown
  granted order unknown decides _ _ := by
    rw [order]
    exact conclude_eq_ok grants unknown decides
  refused order unknown decides _ := by
    rw [order]
    exact conclude_eq_error grants unknown decides

end Handshake

namespace Endpoint

section

variable {World : Type} {endpoint : Endpoint} {limit : Duration} {α : Type}
  {answer : Frame → Except RelayError α} {url : Url}
  {token : StateM World (Except RelayError String)}
  {connect : Request → StateM World (Except RelayError (List Arrival))} {t : String}
  {error : RelayError} {arrivals : List Arrival} {world asked dialled : World}

/-- How a handshake goes in a world, what it leaves there, and which calls it makes in which
    order. -/
structure Proceeds (endpoint : Endpoint) (limit : Duration)
    (token : StateM World (Except RelayError String))
    (connect : Request → StateM World (Except RelayError (List Arrival)))
    (grant : α → Frame) (wanted : FrameKind) (url : Url) (world : World)
    (went : Except RelayError (α × List Arrival) × World × List Call) : Prop where
  /-- Without a token the connector is not called. -/
  unauthorized {error : RelayError} {asked : World}
    (refused : token.run world = (.error error, asked)) :
    went = (.error error, asked, [.credential])
  unconnected {t : String} {error : RelayError} {asked dialled : World}
    (given : token.run world = (.ok t, asked))
    (failed : (connect (.authorized endpoint t url)).run asked = (.error error, dialled)) :
    went = (.error error, dialled, [.credential, .connector (.authorized endpoint t url)])
  connected {t : String} {arrivals : List Arrival} {asked dialled : World}
    (given : token.run world = (.ok t, asked))
    (opened : (connect (.authorized endpoint t url)).run asked = (.ok arrivals, dialled)) :
    Handshake.Concludes grant wanted limit arrivals went.1 ∧
      went.2 = (dialled, [.credential, .connector (.authorized endpoint t url)])

theorem establish_of_refused (refused : token.run world = (.error error, asked)) :
    (endpoint.establish (noted .credential token) (calling connect) (hearing limit) answer url).run
      (world, []) = (.error error, asked, [.credential]) := by
  simp only [establish, dial, StateT.run, bind, StateT.bind, noted_of_run refused]
  rfl

/-- With a token, everything depends on what the connector says. -/
theorem establish_of_given {connection : Except RelayError (List Arrival)}
    (given : token.run world = (.ok t, asked))
    (called : (connect (.authorized endpoint t url)).run asked = (connection, dialled)) :
    (endpoint.establish (noted .credential token) (calling connect) (hearing limit) answer url).run
      (world, []) = (connection.bind (Handshake.conclude limit answer), dialled,
        [.credential, .connector (.authorized endpoint t url)]) := by
  simp only [establish, dial, StateT.run, bind, StateT.bind, noted_of_run given, calling,
    noted_of_run called]
  cases connection <;> rfl

theorem proceeds {grant : α → Frame} {wanted : FrameKind}
    (grants : Handshake.Grants answer grant wanted) :
    Proceeds endpoint limit token connect grant wanted url world
      ((endpoint.establish (noted .credential token) (calling connect) (hearing limit) answer url).run
        (world, [])) where
  unauthorized refused := establish_of_refused refused
  unconnected given failed := establish_of_given given failed
  connected given opened := by
    rw [establish_of_given given opened]
    exact ⟨Handshake.concludes grants limit _, rfl⟩

end

/-- Opening and resuming ask for a token before they call the connector, which they do once if
    there is a token and not at all without one. On the connection any number of messages with
    unknown tags is skipped, and the first other arrival decides. What was asked for is granted by
    the one frame that carries it, and exactly the arrivals behind that frame are left on the
    connection; every other arrival refuses it, a close among them. -/
theorem handshake_decided {World : Type} (endpoint : Endpoint) (limit : Duration)
    (token : StateM World (Except RelayError String))
    (connect : Request → StateM World (Except RelayError (List Arrival))) (target : Target)
    (sid : String) (received : UInt64) (world : World) :
    Proceeds endpoint limit token connect .connectSuccess .connectSuccess
        (endpoint.connectUrl target) world (endpoint.opening limit token connect target world) ∧
      Proceeds endpoint limit token connect .reconnectSuccess .reconnectSuccess
        (endpoint.reconnectUrl target sid received) world
        (endpoint.resuming limit token connect target sid received world) :=
  ⟨proceeds Handshake.grants_sid, proceeds Handshake.grants_count⟩

/-- A session is opened behind a message with an unknown tag, and the data behind its name are
    left; the same connection does not resume it. -/
theorem handshake_decided_skipping :
    let endpoint : Endpoint := ⟨{ scheme := "wss", path := .segments [] }, "client"⟩
    let target : Target := ⟨"p", "z", "vm", 22, "nic0"⟩
    let token : StateM Nat (Except RelayError String) := fun calls => (.ok "t", calls + 1)
    let connect : Request → StateM Nat (Except RelayError (List Arrival)) := fun _ calls =>
      (.ok [.message [0, 9], .message [0, 1, 0, 0, 0, 1, 97], .message [0, 4, 0, 0, 0, 1, 7]],
        calls + 1)
    endpoint.opening (.seconds 30) token connect target 0 =
        (.ok ("a", [.message [0, 4, 0, 0, 0, 1, 7]]), 2,
          [.credential, .connector (.authorized endpoint "t" (endpoint.connectUrl target))]) ∧
      (endpoint.resuming (.seconds 30) token connect target "a" 5 0).1 =
        .error (.protocolViolation (.expected .reconnectSuccess .connectSuccess)) := by
  intro endpoint target token connect
  have unknown : ∀ arrival ∈ [Arrival.message [0, 9]], arrival.IsSkipped := by
    intro arrival member
    rw [List.mem_singleton.mp member]
    exact ⟨[0, 9], rfl, by decide⟩
  have decides : ¬ (Arrival.message [0, 1, 0, 0, 0, 1, 97]).IsSkipped := by
    rw [← Handshake.weigh_eq_none]
    decide +kernel
  have name : Wire.encode (.connectSuccess "a") = .ok [0, 1, 0, 0, 0, 1, 97] := by
    decide +kernel
  have order : [.message [0, 9], .message [0, 1, 0, 0, 0, 1, 97],
      .message [0, 4, 0, 0, 0, 1, 7]] = [.message [0, 9]] ++
        Arrival.message [0, 1, 0, 0, 0, 1, 97] :: [.message [0, 4, 0, 0, 0, 1, 7]] := rfl
  obtain ⟨opened, resumed⟩ := handshake_decided endpoint (.seconds 30) token connect target "a" 5 0
  constructor
  · obtain ⟨concludes, calls⟩ := opened.connected (rfl : token.run 0 = (.ok "t", 1)) rfl
    have granted := (concludes.granted order unknown decides "a" _).mpr ⟨⟨_, rfl, name⟩, rfl⟩
    exact Prod.ext granted calls
  · obtain ⟨concludes, -⟩ := resumed.connected (rfl : token.run 0 = (.ok "t", 1)) rfl
    exact (concludes.refused order unknown decides _).mpr (.displaced name (by decide))

end Endpoint

end RelayTunnel
