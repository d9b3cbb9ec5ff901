import RelayTunnel.Proofs.LifeCycle
import RelayTunnel.Proofs.Session

/-!
# How a series of attempts ends

A carrier that has lost its connection makes attempts to take its session up again, one after
the other. What becomes of each of them, and of each payload that is then sent again, is up to
the relay and the connections: any sequence of `Attempt`s may come. `Attempt.verdict` says
whether an attempt is the last one, and `Recovery.Outcome` how the series ends: with the first
attempt that is, or when there is no attempt left.

An attempt can change the session even if another one has to follow, since the count that the
relay states is taken before anything is sent again (`Recovery.sessionAfter`).
-/

namespace RelayTunnel

namespace Recovery

/-! ## Attempts -/

/-- What becomes of sending a payload again. -/
inductive Sending where
  | sent
  | failed (error : RelayError)
  /-- It is not over in time. -/
  | stalled
  deriving DecidableEq, Repr

namespace Sending

/-- What happens to the carrier. -/
def happening : Sending → Happening
  | sent => .sent
  | failed error => .sendFailed error
  | stalled => .sendStalled

/-- Why it was not sent, where a send may take as long as `limit`. -/
def error? (limit : Duration) : Sending → Option RelayError
  | sent => none
  | failed error => some error
  | stalled => some (.transport s!"send stalled for {limit.text}")

end Sending

/-- What becomes of an attempt. -/
structure Attempt where
  /-- How many bytes the relay holds, or why the session does not go on. -/
  answer : Except RelayError UInt64
  /-- What becomes of the payloads that are sent again, by their places in the replay buffer. -/
  sending : Nat → Sending

/-- What an attempt means for the series. -/
inductive Verdict where
  /-- It is the last one. The session goes on, or the stream ends with an error. -/
  | final (error : Option RelayError)
  /-- There has to be another one because of what the text says. -/
  | again (text : String)
  deriving DecidableEq, Repr

/-- Why a connection was given up on which payloads were sent again, if it was. That the stream
    is closed is final. -/
def Verdict.ofLoss : Option RelayError → Verdict
  | none => .final none
  | some .streamClosed => .final (some .streamClosed)
  | some error => .again error.message

theorem Verdict.ofLoss_ne_resumed (error : RelayError) : ofLoss (some error) ≠ .final none := by
  cases error <;> simp [ofLoss]

namespace Attempt

/-- The session after an attempt: a count in the window is taken. -/
def settle (s : Session) (a : Attempt) : Session :=
  match a.answer with
  | .ok count =>
    match s.acknowledge count with
    | .ok session => session
    | .error _ => s
  | .error _ => s

/-- The first failure of so many sends from a place on. -/
def loss? (limit : Duration) (a : Attempt) (place count : Nat) : Option RelayError :=
  (List.range' place count).findSome? fun k => (a.sending k).error? limit

theorem loss?_succ (limit : Duration) (a : Attempt) (place count : Nat) :
    a.loss? limit place (count + 1) =
      ((a.sending place).error? limit).or (a.loss? limit (place + 1) count) := by
  simp only [loss?, List.range'_succ, List.findSome?_cons]
  cases (a.sending place).error? limit <;> rfl

/-- The verdict on the attempt of that number in a session. -/
def verdict (limit : Duration) (s : Session) (number : Nat) (a : Attempt) : Verdict :=
  match a.answer with
  | .error (.reconnectExhausted _ reason) => .final (some (.reconnectExhausted number reason))
  | .error (.accessDenied detail) => .final (some (.accessDenied detail))
  | .error (.protocolViolation cause) => .final (some (.protocolViolation cause))
  | .error (.invalidArgument cause) => .final (some (.invalidArgument cause))
  | .error .streamClosed => .final (some .streamClosed)
  | .error (.connectFailed detail) => .again (RelayError.connectFailed detail).message
  | .error (.connectTimeout limit) => .again (RelayError.connectTimeout limit).message
  | .error (.transport detail) => .again (RelayError.transport detail).message
  | .error (.credential detail) => .again (RelayError.credential detail).message
  | .ok count =>
    if s.outstanding < count - s.acked then
      .final (some (.protocolViolation (.ackOutsideWindow count s.acked s.sent)))
    else
      match (a.settle s).replay.find? (maxPayload < ·.length) with
      | some payload => .again (RelayError.invalidArgument (.payloadTooLong payload.length)).message
      | none => .ofLoss (a.loss? limit 0 (a.settle s).replay.length)

end Attempt

/-- The session after so many attempts, the first of which is `course 1`. -/
def sessionAfter (s : Session) (course : Nat → Attempt) : Nat → Session
  | 0 => s
  | n + 1 => (course (n + 1)).settle (sessionAfter s course n)

/-- Taking a session up again changes neither its name nor what was received. -/
theorem Attempt.settle_frame (s : Session) (a : Attempt) :
    (a.settle s).sid = s.sid ∧ (a.settle s).received = s.received := by
  unfold settle
  split
  · split
    · rename_i session taken
      exact ⟨Session.acknowledge_sid taken, Session.acknowledge_received taken⟩
    · exact ⟨rfl, rfl⟩
  · exact ⟨rfl, rfl⟩

theorem sessionAfter_frame (s : Session) (course : Nat → Attempt) (n : Nat) :
    (sessionAfter s course n).sid = s.sid ∧ (sessionAfter s course n).received = s.received := by
  induction n with
  | zero => exact ⟨rfl, rfl⟩
  | succ n ih =>
    obtain ⟨sid, received⟩ := (course (n + 1)).settle_frame (sessionAfter s course n)
    exact ⟨sid.trans ih.1, received.trans ih.2⟩

/-- The verdict on the attempt that follows so many others. -/
def verdictAfter (limit : Duration) (s : Session) (course : Nat → Attempt) (n : Nat) : Verdict :=
  (course (n + 1)).verdict limit (sessionAfter s course n) (n + 1)

/-- What went wrong last when so many attempts have failed. -/
def LastFailure (limit : Duration) (s : Session) (course : Nat → Attempt) (reason : String) :
    Nat → String → Prop
  | 0, text => text = reason
  | n + 1, text => verdictAfter limit s course n = .again text

/-- How a series of attempts ends after the loss of a connection for a reason: how many attempts
    there were, and with which error the stream ends, if it does. -/
inductive Outcome (settings : RelaySettings) (s : Session) (course : Nat → Attempt)
    (reason : String) : Nat → Option RelayError → Prop
  | decided {n : Nat} {error : Option RelayError} (allowed : n < settings.reconnect.maxAttempts)
      (failed : ∀ m < n, ∃ text, verdictAfter settings.connectTimeout s course m = .again text)
      (final : verdictAfter settings.connectTimeout s course n = .final error) :
      Outcome settings s course reason (n + 1) error
  | exhausted {text : String}
      (failed : ∀ m < settings.reconnect.maxAttempts,
        ∃ text, verdictAfter settings.connectTimeout s course m = .again text)
      (last : LastFailure settings.connectTimeout s course reason
        settings.reconnect.maxAttempts text) :
      Outcome settings s course reason settings.reconnect.maxAttempts
        (some (.reconnectExhausted settings.reconnect.maxAttempts text))

/-- A series has one outcome. -/
theorem Outcome.unique {settings : RelaySettings} {s : Session} {course : Nat → Attempt}
    {reason : String} {made made' : Nat} {error error' : Option RelayError}
    (h : Outcome settings s course reason made error)
    (h' : Outcome settings s course reason made' error') : made' = made ∧ error' = error := by
  cases h with
  | @decided n _ allowed failed final =>
    cases h' with
    | @decided n' _ allowed' failed' final' =>
      rcases Nat.lt_trichotomy n n' with before | rfl | after
      · obtain ⟨text, again⟩ := failed' n before
        cases final.symm.trans again
      · cases final.symm.trans final'
        exact ⟨rfl, rfl⟩
      · obtain ⟨text, again⟩ := failed n' after
        cases final'.symm.trans again
    | exhausted failed' =>
      obtain ⟨text, again⟩ := failed' n allowed
      cases final.symm.trans again
  | exhausted failed last =>
    cases h' with
    | @decided n' _ allowed' _ final' =>
      obtain ⟨text, again⟩ := failed n' allowed'
      cases final'.symm.trans again
    | exhausted _ last' =>
      refine ⟨rfl, ?_⟩
      cases most : settings.reconnect.maxAttempts with
      | zero =>
        rw [most] at last last'
        rw [show _ = reason from last, show _ = reason from last']
      | succ n =>
        rw [most] at last last'
        cases Eq.trans (Eq.symm last) last'
        rfl

end Recovery

namespace Backoff

variable {b b' : Backoff} {delay : Duration}

/-- There are no more attempts than allowed. -/
theorem next_eq_none (spent : b.settings.maxAttempts ≤ b.attempt) : b.next = none := if_pos spent

/-- Every attempt up to then is made, and counted. -/
theorem exists_next (allowed : b.attempt < b.settings.maxAttempts) :
    ∃ delay b', b.next = some (delay, b') ∧ b'.settings = b.settings ∧
      b'.attempt = b.attempt + 1 := by
  unfold next nextWith
  rw [if_neg (Nat.not_le.mpr allowed)]
  split
  · rename_i first
    exact ⟨_, _, rfl, rfl, by rw [first]⟩
  · exact ⟨_, _, rfl, rfl, rfl⟩

end Backoff

/-! ## The carrier in a series of attempts -/

namespace Carrier

open Recovery

variable {settings : RelaySettings} {course : Nat → Attempt} {c d last : Carrier}
  {recovery : Recovery} {did more : List Action}

/-- What happens next to a carrier in a series of attempts. -/
def answer? (course : Nat → Attempt) (c : Carrier) : Option Happening :=
  match c.phase with
  | .pausing _ => some .pauseOver
  | .resuming recovery =>
    match (course recovery.backoff.attempt).answer with
    | .ok count => some (.resumed count)
    | .error error => some (.resumeFailed error)
  | .sending (.replay recovery rest) =>
    let place := c.session.replay.length - rest.length - 1
    some ((course recovery.backoff.attempt).sending place).happening
  | .waiting | .sending _ | .closing _ | .ended => none

/-- How the attempts lead a carrier on, and what it does meanwhile. -/
inductive Leads (settings : RelaySettings) (course : Nat → Attempt) :
    Carrier → List Action → Carrier → Prop
  | here {c : Carrier} : Leads settings course c [] c
  | on {c last : Carrier} {happening : Happening} {move : Move} {did : List Action}
      (next : c.answer? course = some happening)
      (stepped : c.step? settings happening = some move)
      (rest : Leads settings course move.1 did last) :
      Leads settings course c (move.2 ++ did) last

namespace Leads

theorem trans (first : c.Leads settings course did d)
    (rest : d.Leads settings course more last) :
    c.Leads settings course (did ++ more) last := by
  induction first with
  | here => exact rest
  | on next stepped _ ih =>
    rw [List.append_assoc]
    exact .on next stepped (ih rest)

theorem once {happening : Happening} {move : Move} (next : c.answer? course = some happening)
    (stepped : c.step? settings happening = some move) :
    c.Leads settings course move.2 move.1 := by
  have led := Leads.on next stepped .here
  rwa [List.append_nil] at led

/-- There is one way to the end of a series. -/
theorem unique {other : Carrier} (h : c.Leads settings course did last)
    (idle : last.answer? course = none) (h' : c.Leads settings course more other)
    (idle' : other.answer? course = none) : more = did ∧ other = last := by
  induction h generalizing more with
  | here =>
    cases h' with
    | here => exact ⟨rfl, rfl⟩
    | on next => cases next.symm.trans idle
  | on next stepped _ ih =>
    cases h' with
    | here => cases next.symm.trans idle'
    | on next' stepped' rest' =>
      cases next.symm.trans next'
      cases stepped.symm.trans stepped'
      obtain ⟨rfl, rfl⟩ := ih idle rest'
      exact ⟨rfl, rfl⟩

end Leads

/-- What a carrier does after an attempt of a series. -/
def conclude (settings : RelaySettings) (recovery : Recovery) (verdict : Verdict) (c : Carrier) :
    Move :=
  match verdict with
  | .final none => c.recovered settings.flow recovery
  | .final (some error) => c.abandon recovery.write (some error)
  | .again text => c.nextAttempt { recovery with lastFailure := text }

/-- Nothing is told and nothing is asked for. -/
structure Quiet (actions : List Action) : Prop where
  silent : signals actions = []
  asks : actions.filterMap Action.request? = []

namespace Quiet

variable {actions others : List Action}

theorem append (h : Quiet actions) (h' : Quiet others) : Quiet (actions ++ others) where
  silent := by rw [signals_append, h.silent, h'.silent, List.append_nil]
  asks := by rw [List.filterMap_append, h.asks, h'.asks, List.append_nil]

end Quiet

/-- A carrier comes to the verdict on an attempt, with its session as given and without telling
    or asking for anything before. If the session goes on, what it did has the given property. -/
def ComesTo (settings : RelaySettings) (course : Nat → Attempt) (recovery : Recovery)
    (c : Carrier) (session : Session) (verdict : Verdict) (sends : List Action → Prop) : Prop :=
  ∃ (d : Carrier) (did : List Action), d.session = session ∧ Quiet did ∧
    c.Leads settings course (did ++ (d.conclude settings recovery verdict).2)
      (d.conclude settings recovery verdict).1 ∧
    (verdict = .final none → sends did)

section

variable {happening : Happening} {move : Move} {session : Session} {verdict : Verdict}
  {sends sends' : List Action → Prop}

/-- With the next step. -/
theorem ComesTo.now (d : Carrier) (did : List Action) (next : c.answer? course = some happening)
    (stepped : c.step? settings happening =
      some ((d.conclude settings recovery verdict).1,
        did ++ (d.conclude settings recovery verdict).2))
    (same : d.session = session) (quiet : Quiet did) (sent : verdict = .final none → sends did) :
    c.ComesTo settings course recovery session verdict sends :=
  ⟨d, did, same, quiet, .once next stepped, sent⟩

/-- After the next step. -/
theorem ComesTo.later (next : c.answer? course = some happening)
    (stepped : c.step? settings happening = some move) (quiet : Quiet move.2)
    (rest : move.1.ComesTo settings course recovery session verdict sends)
    (sent : ∀ did, sends did → sends' (move.2 ++ did)) :
    c.ComesTo settings course recovery session verdict sends' := by
  obtain ⟨d, did, same, calm, led, kept⟩ := rest
  have led := Leads.on next stepped led
  rw [← List.append_assoc] at led
  exact ⟨d, move.2 ++ did, same, quiet.append calm, led, fun final => sent did (kept final)⟩

end

/-! ### Sending again -/

/-- A payload that is not sent again ends the attempt. -/
theorem comesTo_of_lost {rest : List Bytes} {sending : Sending} {error : RelayError}
    (sends : c.phase = .sending (.replay recovery rest))
    (next : c.answer? course = some sending.happening)
    (lost : sending.error? settings.connectTimeout = some error) (sent : List Action → Prop) :
    c.ComesTo settings course recovery c.session (.ofLoss (some error)) sent := by
  have ends : c.messageLost settings.reconnect (.replay recovery rest) error =
      c.conclude settings recovery (.ofLoss (some error)) := by
    cases error with
    | streamClosed => rfl
    | _ => simp [messageLost, conclude, Verdict.ofLoss]
  have stepped : c.step? settings sending.happening =
      some (c.conclude settings recovery (.ofLoss (some error))) := by
    cases sending with
    | sent => cases lost
    | failed | stalled =>
      cases lost
      simp only [Sending.happening, step?, sends, ends]
  exact .now c [] next stepped rfl ⟨rfl, rfl⟩ fun resumed =>
    absurd resumed (Verdict.ofLoss_ne_resumed error)

/-- After a payload that was sent again comes the next one. -/
theorem step?_sent {rest : List Bytes} {sending : Sending}
    (sends : c.phase = .sending (.replay recovery rest))
    (sent : sending.error? settings.connectTimeout = none) :
    c.step? settings sending.happening =
      some (c.messageSent settings.flow (.replay recovery rest)) := by
  cases sending with
  | sent => simp only [Sending.happening, step?, sends]
  | failed | stalled => cases sent

theorem answer?_of_sending {place : Nat} {rest : List Bytes}
    (sends : c.phase = .sending (.replay recovery rest))
    (behind : c.session.replay.length = place + (rest.length + 1)) :
    c.answer? course = some ((course recovery.backoff.attempt).sending place).happening := by
  have here : c.session.replay.length - rest.length - 1 = place := by omega
  simp only [answer?, sends, here]

/-- Payloads are sent again up to the first that is not. -/
theorem comesTo_of_sending (settings : RelaySettings) {a : Attempt}
    (goes : course recovery.backoff.attempt = a) {place : Nat} (rest : List Bytes)
    (sends : c.phase = .sending (.replay recovery rest))
    (behind : c.session.replay.length = place + (rest.length + 1)) :
    c.ComesTo settings course recovery c.session
      (.ofLoss (a.loss? settings.connectTimeout place (rest.length + 1)))
      fun did => did.filterMap Action.frame? = rest.map .data := by
  have next {c : Carrier} {rest : List Bytes} {place : Nat}
      (sends : c.phase = .sending (.replay recovery rest))
      (behind : c.session.replay.length = place + (rest.length + 1)) :
      c.answer? course = some (a.sending place).happening :=
    goes ▸ answer?_of_sending sends behind
  -- with each payload that was sent the next one is a place further on
  induction rest generalizing c place with
  | nil =>
    rw [Attempt.loss?_succ]
    cases fate : (a.sending place).error? settings.connectTimeout with
    | some error => exact comesTo_of_lost sends (next sends behind) fate _
    | none =>
      exact .now c [.count .frameSent] (next sends behind) (step?_sent sends fate) rfl
        ⟨rfl, rfl⟩ fun _ => rfl
  | cons payload rest ih =>
    rw [Attempt.loss?_succ]
    cases fate : (a.sending place).error? settings.connectTimeout with
    | some error => exact comesTo_of_lost sends (next sends behind) fate _
    | none =>
      let after : Carrier := { c with phase := .sending (.replay recovery rest) }
      have fewer : after.session.replay.length = place + 1 + (rest.length + 1) := by
        rw [behind, List.length_cons]
        omega
      have led := ih rfl fewer
      refine .later (next sends behind) (step?_sent sends fate) ⟨rfl, rfl⟩ led fun did sent => ?_
      rw [List.filterMap_append, sent]
      rfl

/-! ### One attempt -/

/-- What does not fit into a frame is found before anything is sent again. -/
theorem unsendable?_eq (payloads : List Bytes) :
    unsendable? payloads = (payloads.find? (maxPayload < ·.length)).map fun payload =>
      .invalidArgument (.payloadTooLong payload.length) := by
  unfold unsendable?
  induction payloads with
  | nil => rfl
  | cons payload payloads ih =>
    rw [List.findSome?_cons, List.find?_cons, ih]
    by_cases long : maxPayload < payload.length
    · simp [Wire.encode, long]
    · simp [Wire.encode, long]

/-- An attempt that fails leads to its verdict. -/
theorem comesTo_of_refused {a : Attempt} {error : RelayError}
    (goes : course recovery.backoff.attempt = a) (attempts : c.phase = .resuming recovery)
    (answer : a.answer = .error error) (sends : List Action → Prop) :
    c.ComesTo settings course recovery (a.settle c.session)
      (a.verdict settings.connectTimeout c.session recovery.backoff.attempt) sends := by
  have next : c.answer? course = some (.resumeFailed error) := by
    simp only [answer?, attempts, goes, answer]
  have settled : a.settle c.session = c.session := by simp only [Attempt.settle, answer]
  have failed : c.attemptFailed recovery error = c.conclude settings recovery
      (a.verdict settings.connectTimeout c.session recovery.backoff.attempt) := by
    simp only [Attempt.verdict, answer]
    cases error <;> rfl
  have stepped : c.step? settings (.resumeFailed error) =
      some (c.attemptFailed recovery error) := by
    simp only [step?, attempts]
  rw [failed] at stepped
  refine .now c [] next stepped settled.symm ⟨rfl, rfl⟩ fun resumed => ?_
  simp only [Attempt.verdict, answer] at resumed
  cases error <;> cases resumed

/-- So does one that the relay answers with a count. If the session goes on, everything that the
    relay does not hold was sent again on the new connection. -/
theorem comesTo_of_granted {a : Attempt} {count : UInt64}
    (goes : course recovery.backoff.attempt = a) (attempts : c.phase = .resuming recovery)
    (answer : a.answer = .ok count) :
    c.ComesTo settings course recovery (a.settle c.session)
      (a.verdict settings.connectTimeout c.session recovery.backoff.attempt)
      fun did => ∃ back, did = .install :: back ∧
        back.filterMap Action.frame? = (a.settle c.session).replay.map .data := by
  have next : c.answer? course = some (.resumed count) := by
    simp only [answer?, attempts, goes, answer]
  have stepped : c.step? settings (.resumed count) =
      some (c.goOn settings.flow recovery count) := by
    simp only [step?, attempts]
  simp only [Attempt.verdict, answer]
  split
  · rename_i outside
    have refused : c.session.acknowledge count =
        .error (.ackOutsideWindow count c.session.acked c.session.sent) := if_pos outside
    have settled : a.settle c.session = c.session := by simp only [Attempt.settle, answer, refused]
    simp only [goOn, refused] at stepped
    exact .now c [.install] next stepped settled.symm ⟨rfl, rfl⟩ (by simp)
  · rename_i inside
    have taken := Session.acknowledge_of_le (UInt64.not_lt.mp inside)
    have settled : c.session.acknowledge count = .ok (a.settle c.session) := by
      simp only [Attempt.settle, answer, taken]
    -- from here on the session is the one that the count was taken in
    generalize a.settle c.session = session at settled ⊢
    let d : Carrier := { c with session }
    simp only [goOn, settled, unsendable?_eq] at stepped
    cases unfit : session.replay.find? (maxPayload < ·.length) with
    | some payload =>
      simp only [unfit, Option.map_some] at stepped
      exact .now d [.install] next stepped rfl ⟨rfl, rfl⟩ (by simp)
    | none =>
      simp only [unfit, Option.map_none] at stepped
      cases kept : session.replay with
      | nil =>
        rw [kept] at stepped
        exact .now d [.install] next stepped rfl ⟨rfl, rfl⟩ fun _ => ⟨[], rfl, rfl⟩
      | cons payload rest =>
        rw [kept] at stepped
        let after : Carrier := { d with phase := .sending (.replay recovery rest) }
        have behind : after.session.replay.length = 0 + (rest.length + 1) := by
          simp [after, d, kept]
        have sends : after.phase = .sending (.replay recovery rest) := rfl
        have led := comesTo_of_sending settings goes rest sends behind
        refine .later next stepped ⟨rfl, rfl⟩ led fun did sent => ?_
        have first : (Action.send (.data payload)).frame? = some (.data payload) := rfl
        refine ⟨.send (.data payload) :: did, rfl, ?_⟩
        rw [List.filterMap_cons_some first, sent]
        rfl

/-- An attempt leads to its verdict. -/
theorem comesTo_of_resuming (settings : RelaySettings) {a : Attempt}
    (goes : course recovery.backoff.attempt = a) (attempts : c.phase = .resuming recovery) :
    c.ComesTo settings course recovery (a.settle c.session)
      (a.verdict settings.connectTimeout c.session recovery.backoff.attempt)
      fun did => ∃ back, did = .install :: back ∧
        back.filterMap Action.frame? = (a.settle c.session).replay.map .data := by
  cases answer : a.answer with
  | error error => exact comesTo_of_refused goes attempts answer _
  | ok count => exact comesTo_of_granted goes attempts answer

/-- An attempt that is left is made, after a delay or at once. -/
theorem leads_to_attempt (settings : RelaySettings) (course : Nat → Attempt)
    {delay : Duration} {backoff : Backoff}
    (left : recovery.backoff.next = some (delay, backoff)) (c : Carrier) :
    ∃ did, (c.nextAttempt recovery).1.Leads settings course did
        { c with phase := .resuming { recovery with backoff } } ∧
      signals ((c.nextAttempt recovery).2 ++ did) = [] ∧
      ((c.nextAttempt recovery).2 ++ did).filterMap Action.request? =
        [(c.session.sid, c.session.received)] := by
  let recovery' : Recovery := { recovery with backoff }
  simp only [nextAttempt, left]
  split
  · exact ⟨[], .here, rfl, rfl⟩
  · let pausing : Carrier := { c with phase := .pausing recovery' }
    have led : pausing.Leads settings course (pausing.startAttempt recovery').2
        (pausing.startAttempt recovery').1 := .once rfl rfl
    exact ⟨_, led, rfl, rfl⟩

/-! ### The end of a series -/

/-- What the end of a series leaves of the carrier, and what was done for it, where `told` was
    published before. -/
def ComesOut (told : List Action) (write : Option Nat) (did : List Action) (last : Carrier) :
    Option RelayError → Prop
  | none =>
    last.phase = .waiting ∧ last.state = .connected ∧
      signals did = told ++ [.count .reconnected, .publish .connected] ∧
      (∀ number ∈ write, .accept number ∈ did) ∧
      ∃ front back, did = front ++ .install :: back ∧
        back.filterMap Action.frame? = last.session.replay.map .data
  | some error =>
    last.Settled (.ofResult (some error)) ∧
      (signals did = told ∨
        signals did = told ++ [.publish (.ofResult (some error)), .stop]) ∧
      ∀ number ∈ write, .refuse number ∈ did

namespace ComesOut

variable {told : List Action} {write : Option Nat} {error : Option RelayError}

/-- What was done before comes before. -/
theorem prepend (h : ComesOut told write did last error) (front : List Action) :
    ComesOut (signals front ++ told) write (front ++ did) last error := by
  cases error with
  | none =>
    obtain ⟨phase, state, tells, taken, before, back, rfl, sent⟩ := h
    refine ⟨phase, state, ?_, fun number asked => ?_, front ++ before, back, ?_, sent⟩
    · rw [signals_append, tells, List.append_assoc]
    · exact List.mem_append_right _ (taken number asked)
    · rw [List.append_assoc]
  | some error =>
    obtain ⟨settled, tells, refused⟩ := h
    refine ⟨settled, ?_, fun number asked => List.mem_append_right _ (refused number asked)⟩
    rw [signals_append, List.append_assoc]
    exact tells.imp (congrArg _) (congrArg _)

/-- The carrier gives up. -/
theorem abandon (write : Option Nat) (error : RelayError) (d : Carrier) :
    ComesOut [] write (d.abandon write (some error)).2 (d.abandon write (some error)).1
      (some error) := by
  have tells : signals (d.abandon write (some error)).2 = signals (d.finish (some error)).2 :=
    signals_refusal ..
  have refused : ∀ number ∈ write, .refuse number ∈ (d.abandon write (some error)).2 := by
    intro number asked
    obtain rfl : write = some number := asked
    exact List.mem_cons_self ..
  rcases finish_cases (some error) d with ⟨code, reason, closes⟩ | stops
  · refine ⟨.inl ?_, .inl ?_, refused⟩
    · simp only [Carrier.abandon, closes]
      rfl
    · rw [tells, closes]
      rfl
  · refine ⟨.inr ?_, .inr ?_, refused⟩
    · simp only [Carrier.abandon, stops]
      exact ⟨rfl, rfl⟩
    · rw [tells, stops]
      rfl

/-- The session goes on. -/
theorem recovered {recovery : Recovery} {flow : FlowSettings} {d : Carrier}
    (h : ∃ back, did = .install :: back ∧
      back.filterMap Action.frame? = d.session.replay.map .data) (silent : signals did = []) :
    ComesOut [] recovery.write (did ++ (d.recovered flow recovery).2)
      (d.recovered flow recovery).1 none := by
  obtain ⟨back, rfl, sent⟩ := h
  have aside : (d.recovered flow recovery).2.filterMap Action.frame? = [] :=
    Action.frames_eq_nil (recovered_aside recovery)
  refine ⟨recovered_phase recovery, ?_, ?_, fun number asked => ?_, [],
    back ++ (d.recovered flow recovery).2, rfl, ?_⟩
  · rw [recovered_frame]
  · rw [signals_append, silent, recovered_signals]
  · have asked : recovery.write = some number := asked
    simp [Carrier.recovered, asked, acceptWrite]
  · rw [List.filterMap_append, sent, aside, recovered_session, List.append_nil]

end ComesOut

/-- A carrier is to make its next attempt after so many that have failed. -/
structure Underway (settings : RelaySettings) (s : Session) (course : Nat → Attempt)
    (reason : String) (c : Carrier) (recovery : Recovery) (n : Nat) : Prop where
  limit : recovery.backoff.settings = settings.reconnect
  made : recovery.backoff.attempt = n
  session : c.session = sessionAfter s course n
  failed : ∀ m < n, ∃ text, verdictAfter settings.connectTimeout s course m = .again text
  last : LastFailure settings.connectTimeout s course reason n recovery.lastFailure

namespace Underway

variable {s : Session} {reason : String} {n : Nat}

/-- Without an attempt left the carrier gives up. -/
theorem spent (h : c.Underway settings s course reason recovery n)
    (all : n = settings.reconnect.maxAttempts) :
    c.nextAttempt recovery =
      c.abandon recovery.write (some (.reconnectExhausted n recovery.lastFailure)) := by
  have most : recovery.backoff.settings.maxAttempts = recovery.backoff.attempt := by
    rw [h.limit, h.made, all]
  simp only [nextAttempt, Backoff.next_eq_none (Nat.le_of_eq most), h.made]

/-- Otherwise it makes one request and comes to the verdict on the next attempt. -/
theorem attempt (h : c.Underway settings s course reason recovery n)
    (allowed : n < settings.reconnect.maxAttempts) :
    ∃ (backoff : Backoff) (front : List Action) (attempting : Carrier),
      backoff.settings = settings.reconnect ∧ backoff.attempt = n + 1 ∧
      (c.nextAttempt recovery).1.Leads settings course front attempting ∧
      signals ((c.nextAttempt recovery).2 ++ front) = [] ∧
      ((c.nextAttempt recovery).2 ++ front).filterMap Action.request? = [(s.sid, s.received)] ∧
      attempting.ComesTo settings course { recovery with backoff } (sessionAfter s course (n + 1))
        (verdictAfter settings.connectTimeout s course n)
        fun did => ∃ back, did = .install :: back ∧
          back.filterMap Action.frame? = (sessionAfter s course (n + 1)).replay.map .data := by
  have left : recovery.backoff.attempt < recovery.backoff.settings.maxAttempts := by
    rwa [h.limit, h.made]
  obtain ⟨delay, backoff, next, limit, counted⟩ := Backoff.exists_next left
  have number : backoff.attempt = n + 1 := by rw [counted, h.made]
  obtain ⟨front, first, silent, asks⟩ := leads_to_attempt settings course next c
  obtain ⟨sid, received⟩ := sessionAfter_frame s course n
  rw [h.session, sid, received] at asks
  let recovery' : Recovery := { recovery with backoff }
  let attempting : Carrier := { c with phase := .resuming recovery' }
  have attempts : attempting.phase = .resuming recovery' := rfl
  have session : attempting.session = sessionAfter s course n := h.session
  have comes := comesTo_of_resuming settings (congrArg course number) attempts
  rw [number, session] at comes
  exact ⟨backoff, front, attempting, limit.trans h.limit, number, first, silent, asks, comes⟩

/-- After an attempt that has failed the carrier is to make another one. -/
theorem again {text : String} {backoff : Backoff}
    (h : c.Underway settings s course reason recovery n)
    (limit : backoff.settings = settings.reconnect) (number : backoff.attempt = n + 1)
    (session : d.session = sessionAfter s course (n + 1))
    (verdict : verdictAfter settings.connectTimeout s course n = .again text) :
    d.Underway settings s course reason { recovery with backoff, lastFailure := text } (n + 1) := by
  refine ⟨limit, number, session, fun m before => ?_, verdict⟩
  rcases Nat.lt_succ_iff_lt_or_eq.mp before with before | rfl
  · exact h.failed m before
  · exact ⟨text, verdict⟩

end Underway

/-- A series of attempts leads from a move to its end, with so many requests on the way. -/
structure Series (settings : RelaySettings) (s : Session) (course : Nat → Attempt)
    (told : List Action) (write : Option Nat) (move : Move) (requests made : Nat)
    (error : Option RelayError) (did : List Action) (last : Carrier) : Prop where
  leads : move.1.Leads settings course did last
  idle : last.answer? course = none
  session : last.session = sessionAfter s course made
  asks : (move.2 ++ did).filterMap Action.request? = List.replicate requests (s.sid, s.received)
  leaves : last.ComesOut told write (move.2 ++ did) error

namespace Series

variable {s : Session} {told : List Action} {write : Option Nat} {requests made : Nat}
  {error : Option RelayError} {move : Move}

/-- An end needs no further attempt. -/
theorem abandon (settings : RelaySettings) {n : Nat} (write : Option Nat) (error : RelayError)
    (session : d.session = sessionAfter s course n) :
    Series settings s course [] write (d.abandon write (some error)) 0 n (some error) []
      (d.abandon write (some error)).1 := by
  have away := abandon_leaves write (some error) d
  have leaves := ComesOut.abandon write error d
  have idle : (d.abandon write (some error)).1.answer? course = none ∧
      (d.abandon write (some error)).1.isResuming = false := by
    rcases finish_cases (some error) d with ⟨code, reason, closes⟩ | stops
    · simp only [Carrier.abandon, closes]
      exact ⟨rfl, rfl⟩
    · simp only [Carrier.abandon, stops]
      exact ⟨rfl, rfl⟩
  refine ⟨.here, idle.1, away.session.trans session, ?_, ?_⟩
  · rw [List.append_nil, away.asks, idle.2]
    rfl
  · rwa [List.append_nil]

/-- Neither does a session that goes on. -/
theorem recovered (settings : RelaySettings) (recovery : Recovery) {n : Nat}
    (session : d.session = sessionAfter s course n)
    (quiet : Quiet did) (sent : ∃ back, did = .install :: back ∧
      back.filterMap Action.frame? = d.session.replay.map .data) :
    Series settings s course [] recovery.write
      ((d.recovered settings.flow recovery).1, did ++ (d.recovered settings.flow recovery).2) 0 n
      none [] (d.recovered settings.flow recovery).1 := by
  have idle : (d.recovered settings.flow recovery).1.answer? course = none := by
    simp only [answer?, recovered_phase]
  refine ⟨.here, idle, (recovered_session recovery).trans session, ?_, ?_⟩
  · rw [List.append_nil, List.filterMap_append, quiet.asks, recovered_request]
    rfl
  · rw [List.append_nil]
    exact .recovered sent quiet.silent

/-- Neither does it matter what was done before the move, if it told and asked for nothing. -/
theorem prepend {front : List Action} (quiet : Quiet front)
    (h : Series settings s course [] write move requests made error did last) :
    Series settings s course [] write (move.1, front ++ move.2) requests made error did last := by
  refine ⟨h.leads, h.idle, h.session, ?_, ?_⟩
  · rw [List.append_assoc, List.filterMap_append, quiet.asks, h.asks]
    rfl
  · have leaves := h.leaves.prepend front
    rwa [quiet.silent, ← List.append_assoc] at leaves

/-- One attempt comes before. -/
theorem later {move' : Move} {front : List Action} (first : move'.1.Leads settings course front c)
    (silent : signals (move'.2 ++ front) = [])
    (asks : (move'.2 ++ front).filterMap Action.request? = [(s.sid, s.received)])
    (led : c.Leads settings course move.2 move.1)
    (h : Series settings s course [] write move requests made error did last) :
    Series settings s course [] write move' (requests + 1) made error
      (front ++ (move.2 ++ did)) last := by
  have whole : move'.2 ++ (front ++ (move.2 ++ did)) = move'.2 ++ front ++ (move.2 ++ did) :=
    (List.append_assoc ..).symm
  refine ⟨first.trans (led.trans h.leads), h.idle, h.session, ?_, ?_⟩
  · rw [whole, List.filterMap_append, asks, h.asks]
    rfl
  · have leaves := h.leaves.prepend (move'.2 ++ front)
    rwa [silent, ← whole] at leaves

end Series

/-- Whatever becomes of the attempts, a series comes to an end, since there are only so many. -/
theorem exists_series {s : Session} {reason : String} (left n : Nat)
    (h : c.Underway settings s course reason recovery n)
    (rest : n + left = settings.reconnect.maxAttempts) :
    ∃ made error did last, n ≤ made ∧ Outcome settings s course reason made error ∧
      Series settings s course [] recovery.write (c.nextAttempt recovery) (made - n) made error
        did last := by
  induction left generalizing c recovery n with
  | zero =>
    have all : n = settings.reconnect.maxAttempts := rest
    have outcome : Outcome settings s course reason n
        (some (.reconnectExhausted n recovery.lastFailure)) :=
      all ▸ .exhausted (all ▸ h.failed) (all ▸ h.last)
    have ended := Series.abandon settings recovery.write
      (.reconnectExhausted n recovery.lastFailure) h.session
    rw [← h.spent all, ← Nat.sub_self n] at ended
    exact ⟨n, _, [], _, Nat.le_refl n, outcome, ended⟩
  | succ left ih =>
    have allowed : n < settings.reconnect.maxAttempts := by omega
    obtain ⟨backoff, front, attempting, limit, number, first, silent, asks, d, did, session, quiet,
      led, sent⟩ := h.attempt allowed
    cases verdict : verdictAfter settings.connectTimeout s course n with
    | final error =>
      have outcome : Outcome settings s course reason (n + 1) error :=
        .decided allowed h.failed verdict
      have one : 0 + 1 = n + 1 - n := by omega
      rw [verdict] at led sent
      cases error with
      | none =>
        have ended := Series.recovered settings { recovery with backoff } session quiet
          (session ▸ sent rfl)
        have series := ended.later first silent asks led
        exact ⟨n + 1, none, _, _, Nat.le_succ n, outcome, one ▸ series⟩
      | some error =>
        have ended := (Series.abandon settings recovery.write error session).prepend quiet
        have series := ended.later first silent asks led
        exact ⟨n + 1, some error, _, _, Nat.le_succ n, outcome, one ▸ series⟩
    | again text =>
      rw [verdict] at led
      obtain ⟨made, error, after, last, more, outcome, ended⟩ :=
        ih (n + 1) (h.again limit number session verdict) (by omega)
      have series := (ended.prepend quiet).later first silent asks led
      have fewer : made - (n + 1) + 1 = made - n := by omega
      rw [fewer] at series
      exact ⟨made, error, _, last, by omega, outcome, series⟩

/-- A close that says that the session is lost is no failure like the others. -/
theorem closeError_of_lost {code : UInt16} (text : String) (lost : code ∈ [4001, 4002]) :
    Handshake.closeError code text = .reconnectExhausted 0
      (if text.isEmpty then s!"close code {code}" else s!"close code {code}: {text}") := by
  have means : CloseDisposition.ofCode code = .sessionLost := by
    simp only [List.mem_cons, List.not_mem_nil, or_false] at lost
    rcases lost with rfl | rfl <;> rfl
  simp only [Handshake.closeError, means, CloseDisposition.error?, Option.getD_some]

/-- Whatever becomes of the attempts to take a session up again, and as long as the stream is
    not told to end, the first attempt that is final ends the series, or the last one that is
    allowed does. There is one request for each attempt, and the stream goes on or ends with the
    error of the outcome. An attempt is final if the relay has lost the session. -/
theorem recovery_outcome (settings : RelaySettings) (course : Nat → Attempt)
    (write : Option Nat) (reason : String) (c : Carrier) :
    (∃ made error did last, Outcome settings c.session course reason made error ∧
      Series settings c.session course [.publish .reconnecting] write
        (c.recover settings.reconnect write reason) made made error did last ∧
      ∀ others other, (c.recover settings.reconnect write reason).1.Leads settings course others
        other → other.answer? course = none → others = did ∧ other = last) ∧
    ∀ n code text, code ∈ [4001, 4002] →
      (course (n + 1)).answer = .error (Handshake.closeError code text) →
      verdictAfter settings.connectTimeout c.session course n =
        .final (some (.reconnectExhausted (n + 1)
          (if text.isEmpty then s!"close code {code}" else s!"close code {code}: {text}"))) := by
  refine ⟨?_, fun n code text lost answer => ?_⟩
  · let d : Carrier := { c with state := .reconnecting }
    let recovery : Recovery :=
      { backoff := .start settings.reconnect, lastFailure := reason, write }
    have underway : d.Underway settings c.session course reason recovery 0 :=
      ⟨rfl, rfl, rfl, by simp, rfl⟩
    obtain ⟨made, error, did, last, -, outcome, ended⟩ :=
      exists_series settings.reconnect.maxAttempts 0 underway (Nat.zero_add _)
    have series : Series settings c.session course [.publish .reconnecting] write
        (c.recover settings.reconnect write reason) made made error did last :=
      ⟨ended.leads, ended.idle, ended.session, ended.asks,
        ended.leaves.prepend [.publish .reconnecting]⟩
    exact ⟨made, error, did, last, outcome, series, fun others other led idle =>
      series.leads.unique series.idle led idle⟩
  · rw [closeError_of_lost text lost] at answer
    simp only [verdictAfter, Attempt.verdict, answer]

/-- A write is being sent when the connection is lost. On the first attempt the relay holds one
    payload of three, and the last one is not sent in time; the second attempt fails; on the
    third one what is left is sent again. -/
theorem recovery_outcome_third_attempt :
    let course : Nat → Attempt := fun
      | 1 => ⟨.ok 1, fun k => if k = 0 then .sent else .stalled⟩
      | 2 => ⟨.error (.connectFailed "refused"), fun _ => .sent⟩
      | _ => ⟨.ok 1, fun _ => .sent⟩
    let c : Carrier :=
      { session := { sid := "s", sent := 3, replay := [[1], [2], [3]] }
        phase := .sending (.write 7) }
    ∃ did last, Series {} c.session course [.publish .reconnecting] (some 7)
      (c.recover {} (some 7) "lost") 3 3 none did last ∧ last.session.replay = [[2], [3]] := by
  intro course c
  have stalled : verdictAfter (.seconds 30) c.session course 0 =
      .again "relay transport error: send stalled for 30s" := by
    decide +kernel
  have unconnected : verdictAfter (.seconds 30) c.session course 1 =
      .again "failed to connect to relay: refused" := by
    decide +kernel
  have final : verdictAfter (.seconds 30) c.session course 2 = .final none := by decide +kernel
  have failed : ∀ m < 2, ∃ text, verdictAfter (.seconds 30) c.session course m = .again text := by
    intro m before
    rcases (by omega : m = 0 ∨ m = 1) with rfl | rfl
    · exact ⟨_, stalled⟩
    · exact ⟨_, unconnected⟩
  have outcome : Outcome {} c.session course "lost" 3 none := .decided (by decide) failed final
  obtain ⟨⟨made, error, did, last, other, series, -⟩, -⟩ :=
    recovery_outcome {} course (some 7) "lost" c
  obtain ⟨rfl, rfl⟩ := outcome.unique other
  have kept : (sessionAfter c.session course 3).replay = [[2], [3]] := by decide +kernel
  exact ⟨did, last, series, series.session ▸ kept⟩

end Carrier

end RelayTunnel
