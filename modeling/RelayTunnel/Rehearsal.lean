import RelayTunnel.Rehearsal.Script

/-!
# Rehearsals

A stream against a scripted relay. After each line of the script everything runs
until nothing can go on without time passing: the carrier goes as far as it can,
then the halves do, and so on. Of what could happen to a waiting carrier, being
told to end comes first, then room for pending data, then what the connection
brings, then writes. Timers fire at the first whole millisecond that is not before
their time.
-/

namespace RelayTunnel

namespace Rehearsal

/-- A connection to the scripted relay. -/
structure Link where
  /-- What has come and was not taken yet. -/
  arrivals : List Arrival := []
  manner : Manner := {}
  /-- Whether the client has let it go. -/
  dropped : Bool := false

/-- An attempt to get a connection and its first frame. -/
inductive Attempt where
  /-- The connector does not answer. -/
  | hanging
  | failed (error : RelayError)
  | listening (link : Nat)

/-- Something that will happen to the carrier at a time. -/
structure Alarm where
  milliseconds : Nat
  happening : Happening

/-- A user of the stream or of one of its halves: what is asked for, by the line
    that asked, and whether it has begun with the first of it. -/
structure Worker where
  jobs : List (Nat × Job) := []
  started : Bool := false

end Rehearsal

open Rehearsal

/-- A rehearsal under way. -/
structure Rehearsal where
  settings : RelaySettings
  endpoint : Endpoint
  target : Target
  /-- The tokens for requests, the last one for ever; `none` is a failure. -/
  tokens : List (Option String)
  plan : List Planned
  /-- Whether the halves of the stream are used independently. -/
  isSplit : Bool
  /-- What keeps a request from getting as far as the relay. -/
  route : Request → Except RelayError Unit := fun _ => .ok ()
  /-- The time since the beginning. -/
  milliseconds : Nat := 0
  links : Array Link := #[]
  /-- The line that asked for a stream which is not open yet. -/
  opening : Option Nat := none
  stream : Option Stream := none
  /-- The connection of the stream. -/
  current : Nat := 0
  attempt : Option Attempt := none
  /-- What happens to the carrier next without time passing. -/
  outcome : Option Happening := none
  alarm : Option Alarm := none
  cancelled : Bool := false
  reader : Option Worker := none
  writer : Option Worker := none
  traffic : Traffic := {}
  answers : List (Nat × Answer) := []
  sights : List Sight := []

namespace Rehearsal

/-- A part of a rehearsal. -/
abbrev Play := StateM Rehearsal

/-! ## Notes -/

/-- Note something that the relay sees. -/
def see (sight : Sight) : Play Unit := modify fun r => { r with sights := r.sights ++ [sight] }

/-- Note how something ended. -/
def answer (line : Nat) (answer : Answer) : Play Unit :=
  modify fun r => { r with answers := r.answers ++ [(line, answer)] }

/-! ## Connections -/

/-- A connection; one that there is not behaves like one that was let go. -/
def link (r : Rehearsal) (number : Nat) : Link := r.links.getD number { dropped := true }

/-- Change a connection. -/
def changeLink (number : Nat) (change : Link → Link) : Play Unit :=
  modify fun r => { r with links := r.links.modify number change }

/-- Let a connection go. -/
def dropLink (number : Nat) : Play Unit := do
  changeLink number fun link => { link with dropped := true, arrivals := [] }
  see (.dropped number)

/-- The next token. -/
def takeToken : Play (Except RelayError String) := do
  let failure : Except RelayError String := .error (.credential "no token")
  match (← get).tokens with
  | [] => return failure
  | token :: rest =>
    if !rest.isEmpty then modify fun r => { r with tokens := rest }
    return token.elim failure .ok

/-- The connector: it follows the plan for requests that get to the relay. -/
def connect (request : Request) : Play (Except RelayError Attempt) := do
  let r ← get
  if let .error e := r.route request then return .error e
  see (.request request)
  let r ← get
  let (planned, plan) := match r.plan with
    | [] => (Planned.standard, [])
    | planned :: rest => (planned, rest)
  set { r with plan }
  match planned with
  | .hangs => return .ok .hanging
  | .fails error => return .error error
  | .opens arrivals manner =>
    set { r with plan, links := r.links.push { arrivals, manner } }
    return .ok (.listening r.links.size)

/-- The time when a duration from now has passed. -/
def timeAfter (r : Rehearsal) (d : Duration) : Nat :=
  r.milliseconds + (d.nanoseconds + 999999) / 1000000

/-- Set the alarm. -/
def setAlarm (d : Duration) (happening : Happening) : Play Unit :=
  modify fun r => { r with alarm := some ⟨timeAfter r d, happening⟩ }

/-- The alarm that ends an attempt which takes too long. -/
def setAttemptAlarm : Play Unit := do
  let limit := (← get).settings.connectTimeout
  setAlarm limit (.resumeFailed (.connectTimeout limit))

/-- Listen to a connection from now on: what is awaited is looked for each time that
    something can have come (`attemptOutcome`). -/
def listen {α : Type} (_ : Frame → Except RelayError α) (attempt : Attempt) :
    Play (Except RelayError Unit) := do
  modify fun r => { r with attempt := some attempt }
  return .ok ()

/-- Begin an attempt to get a connection and its first frame. -/
def beginAttempt (attempt : Play (Except RelayError Unit)) : Play Unit := do
  if let .error e ← attempt then modify fun r => { r with attempt := some (.failed e) }
  setAttemptAlarm

/-- Let the attempt go with its connection. -/
def dropAttempt : Play Unit := do
  if let some (.listening number) := (← get).attempt then dropLink number
  modify fun r => { r with attempt := none, alarm := none }

/-- The alarm that is due. -/
def dueAlarm : Play (Option Happening) := do
  let r ← get
  return (r.alarm.filter fun alarm => alarm.milliseconds ≤ r.milliseconds).map (·.happening)

/-- What has come on the connection of the attempt, or why there is none. -/
def attemptArrivals (r : Rehearsal) : Attempt → Except RelayError (List Arrival)
  | .hanging => .ok []
  | .failed error => .error error
  | .listening number => .ok (link r number).arrivals

/-- How the attempt ends, where `answer` takes from the first frame what was asked
    for; `none` while it goes on. The connection is let go with a failure. -/
def attemptOutcome {α : Type} (answer : Frame → Except RelayError α) :
    Play (Option (Except RelayError α)) := do
  let r ← get
  let some attempt := r.attempt | return none
  let late := (← dueAlarm).isSome
  let result := do
    let arrivals ← attemptArrivals r attempt
    if late || (Handshake.outcome? answer arrivals).isSome then
      some <$> Handshake.conclude r.settings.connectTimeout answer arrivals
    else return none
  match result with
  | .ok none => return none
  | .ok (some (value, rest)) =>
    if let .listening number := attempt then
      changeLink number fun link => { link with arrivals := rest }
    modify fun r => { r with alarm := none }
    return some (.ok value)
  | .error error =>
    dropAttempt
    return some (.error error)

/-- Put the connection of the attempt in the place of the current one. -/
def install : Play Unit := do
  if let some (.listening number) := (← get).attempt then
    modify fun r => { r with current := number, attempt := none }

/-! ## The carrier -/

/-- Hand a frame to the current connection. -/
def sendFrame (frame : Frame) : Play Unit := do
  let r ← get
  match (link r r.current).manner.messages with
  | .goesThrough =>
    see (.frame r.current frame)
    modify fun r => { r with outcome := some .sent }
  | .fails =>
    see (.sendFailed r.current frame.kind)
    modify fun r => { r with outcome := some (.sendFailed (.transport "send failed")) }
  | .stalls =>
    see (.sendStalled r.current frame.kind)
    setAlarm r.settings.connectTimeout .sendStalled

/-- How long a close message may take (`CLOSE_TIMEOUT`). -/
def closeLimit : Duration := .seconds 1

/-- Hand a close message to the current connection. -/
def sendClose (code : UInt16) (reason : String) : Play Unit := do
  let r ← get
  let stalled := (link r r.current).manner.closing = .stalls
  see (.close r.current code reason stalled)
  if stalled then setAlarm closeLimit .closeOver
  else modify fun r => { r with outcome := some .closeOver }

/-- Do what the carrier does. -/
def act : Action → Play Unit
  | .count entry => modify fun r => { r with traffic := r.traffic.record entry }
  | .send frame => sendFrame frame
  | .close code reason => sendClose code reason
  | .pause delay => setAlarm delay .pauseOver
  | .resume sid received => do
    let r ← get
    beginAttempt (r.endpoint.resumeSession takeToken connect listen r.target sid received)
  | .install => do
    dropLink (← get).current
    install
  | .stop => do dropLink (← get).current
  | .publish _ | .deliver _ | .discard _ | .accept _ | .refuse _ => return

/-- Let something happen to the carrier. -/
def happen (happening : Happening) : Play Bool := do
  let r ← get
  match r.stream.bind (·.step? r.settings happening) with
  | none => return false
  | some (stream, actions) =>
    set { r with stream := some stream, outcome := none, alarm := none }
    actions.forM act
    return true

/-- What happens next on an established session, being told to end apart. -/
def nextWaiting (s : Stream) : Play (Option Happening) := do
  let r ← get
  if s.carrier.pending.isSome && s.allows (.room s.readerOpen) then
    return some (.room s.readerOpen)
  match s.carrier.pending, (link r r.current).arrivals with
  | none, arrival :: rest =>
    changeLink r.current fun link => { link with arrivals := rest }
    return some (.arrival arrival)
  | _, _ =>
    match s.requests with
    | request :: _ => return some (.write request.number request.payload)
    | [] => return some .writesOver

/-- What happens next to the carrier, if anything. -/
def nextHappening (s : Stream) : Play (Option Happening) := do
  let r ← get
  if s.carrier.cancelled && s.carrier.noticed.isSome then
    dropAttempt
    return some .notice
  match s.carrier.phase with
  | .waiting => nextWaiting s
  | .resuming _ =>
    match ← attemptOutcome Handshake.count with
    | some (.ok count) => return some (.resumed count)
    | some (.error error) => return some (.resumeFailed error)
    | none => return none
  | _ =>
    match r.outcome with
    | some outcome => return some outcome
    | none => dueAlarm

/-- Let the next thing happen to the carrier. -/
def moveCarrier : Play Bool := do
  match (← get).stream with
  | none => return false
  | some s =>
    match ← nextHappening s with
    | none => return false
    | some happening => happen happening

/-! ## Opening -/

/-- The stream is open. -/
def opened (line : Nat) (sid : String) : Play Unit := do
  install
  let stream := Stream.start sid
  modify fun r =>
    { r with
      opening := none
      stream := some stream
      reader := if r.isSplit then some {} else none
      writer := some {} }
  answer line (.opened stream.describe)

/-- No stream was opened. -/
def notOpened (line : Nat) (error : RelayError) : Play Unit := do
  dropAttempt
  modify fun r => { r with opening := none }
  answer line (.failed error)

/-- Go on with opening a stream. -/
def moveOpening : Play Bool := do
  let r ← get
  match r.opening with
  | none => return false
  | some line =>
    if r.cancelled then
      notOpened line .streamClosed
      return true
    match ← attemptOutcome Handshake.sid with
    | some (.ok sid) =>
      opened line sid
      return true
    | some (.error error) =>
      notOpened line error
      return true
    | none => return false

/-! ## The halves -/

/-- The answer of a write. -/
def writeAnswer : Except RelayError Unit → Answer
  | .ok () => .done
  | .error error => .failed error

/-- The answer of a read. -/
def readAnswer : ReadResult → Answer
  | .data payload => .read payload
  | .endOfFile => .endOfFile
  | .failed error => .failed error

/-- Begin with a job; the answer if it has one at once. -/
def beginJob (s : Stream) : Job → Stream × Option Answer
  | .read size => (s, (s.readRefusal? size).map .failed)
  | .write buffer => (s.beginWrite buffer, none)
  | .close => (s.closeLocally, none)

/-- Go on with a job; its answer once there is one. -/
def goOnWithJob (s : Stream) : Job → Stream × Option Answer
  | .read _ =>
    match s.takeChunk? with
    | some (result, s) => (s, some (readAnswer result))
    | none => (s, none)
  | .write _ =>
    let (s, result) := s.goOnWriting
    (s, result.map writeAnswer)
  | .close => (s, if s.carrier.state.isTerminal then some .closed else none)

/-- The worker of a half. -/
def worker (r : Rehearsal) : Half → Option Worker
  | .reader => r.reader
  | .writer => r.writer

/-- Put a worker in the place of that of a half. -/
def setWorker (half : Half) (worker : Option Worker) : Play Unit :=
  match half with
  | .reader => modify fun r => { r with reader := worker }
  | .writer => modify fun r => { r with writer := worker }

/-- Go on with what a half is doing; whether that changed anything. -/
def moveHalf (half : Half) : Play Bool := do
  let r ← get
  match r.stream, worker r half with
  | some s, some { jobs := (line, job) :: jobs, started } => do
    let (begun, refusal) := if started then (s, none) else beginJob s job
    let (after, result) :=
      match refusal with
      | some refusal => (begun, some refusal)
      | none => goOnWithJob begun job
    modify fun r => { r with stream := some after }
    match result with
    | some result =>
      setWorker half (some { jobs })
      answer line result
      return true
    | none =>
      setWorker half (some { jobs := (line, job) :: jobs, started := true })
      return !started || after ≠ s
  | _, _ => return false

/-! ## Running -/

/-- Let the carrier go as far as it can, in at most so many moves. -/
def runCarrier : Nat → Play Unit
  | 0 => return
  | most + 1 => do
    if (← moveOpening) || (← moveCarrier) then runCarrier most

/-- How many moves there are at most between two lines. -/
def patience : Nat := 1000000

/-- Run until nothing can go on, in at most so many rounds. -/
def settle : Nat → Play Unit
  | 0 => return
  | most + 1 => do
    runCarrier patience
    let reader ← moveHalf .reader
    let writer ← moveHalf .writer
    if reader || writer then settle most

/-- Let time pass up to a moment, from alarm to alarm. -/
def advance (until_ : Nat) : Nat → Play Unit
  | 0 => return
  | most + 1 => do
    match (← get).alarm with
    | some alarm =>
      if alarm.milliseconds ≤ until_ then
        modify fun r => { r with milliseconds := max r.milliseconds alarm.milliseconds }
        settle patience
        advance until_ most
      else
        modify fun r => { r with milliseconds := until_ }
    | none => modify fun r => { r with milliseconds := until_ }

/-! ## Lines of the script -/

/-- The half that a job belongs to. -/
def halfOf (r : Rehearsal) : Job → Half
  | .read _ => if r.isSplit then .reader else .writer
  | .write _ | .close => .writer

/-- Ask a half to do something. -/
def ask (line : Nat) (job : Job) : Play Bool := do
  let r ← get
  let half := halfOf r job
  match worker r half with
  | none => return false
  | some w =>
    setWorker half (some { w with jobs := w.jobs ++ [(line, job)] })
    return true

/-- Give up what a half is doing. -/
def abort (half : Half) : Play Bool := do
  let r ← get
  let half := if r.isSplit then half else .writer
  match worker r half with
  | none => return false
  | some { jobs := (line, _) :: jobs, started := true } => do
    setWorker half (some { jobs })
    if half = .writer then
      modify fun r => { r with stream := r.stream.map Stream.abortWrite }
    answer line .aborted
    return true
  | some _ => return true

/-- Drop a half, or the whole stream if it is used as such. -/
def dropHalf (half : Half) : Play Bool := do
  let r ← get
  if (worker r half).isNone then return false
  setWorker half none
  let change : Stream → Stream :=
    match half with
    | .reader => Stream.dropReader
    | .writer => if r.isSplit then Stream.dropWriter else Stream.dropReader ∘ Stream.dropWriter
  modify fun r => { r with stream := r.stream.map change }
  return true

/-- Let arrivals come on a connection that is still there. -/
def bring (arrivals : List Arrival) (connection : Option Nat) : Play Bool := do
  let r ← get
  let number := connection.getD (r.links.size - 1)
  if r.links.size ≤ number then return false
  changeLink number fun link =>
    if link.dropped || link.arrivals.contains .ended then link
    else { link with arrivals := link.arrivals ++ arrivals }
  return true

/-- Change how a connection behaves. -/
def behave (messages closing : Option Delivery) (connection : Option Nat) : Play Bool := do
  let r ← get
  let number := connection.getD (r.links.size - 1)
  if r.links.size ≤ number then return false
  changeLink number fun link =>
    { link with
      manner :=
        { messages := messages.getD link.manner.messages
          closing := closing.getD link.manner.closing } }
  return true

/-- Ask for a stream. -/
def openStream (line : Nat) : Play Bool := do
  let r ← get
  if r.opening.isSome || r.stream.isSome then return false
  if r.cancelled then
    answer line (.failed .streamClosed)
  else
    modify fun r => { r with opening := some line }
    beginAttempt (r.endpoint.openSession takeToken connect listen r.target)
  return true

/-- Do what a line says; `false` if it has nothing to act on. -/
def follow (line : Nat) : Cue → Play Bool
  | .openStream => openStream line
  | .job job => ask line job
  | .abort half => abort half
  | .dropHalf half => dropHalf half
  | .cancel => do
    modify fun r => { r with cancelled := true, stream := r.stream.map Stream.cancel }
    return true
  | .bring arrivals connection => bring arrivals connection
  | .behave messages closing connection => behave messages closing connection
  | .plan more => do
    modify fun r => { r with plan := r.plan ++ more }
    return true
  | .sleep milliseconds => do
    advance ((← get).milliseconds + milliseconds) patience
    return true

/-- What can be seen of a stream that is used as a whole. -/
def view (r : Rehearsal) : View :=
  match r.stream, r.writer with
  | some s, some w => if w.started then .busy else .state s.carrier.state
  | _, _ => .absent

/-- Play a line, and report what it has led to. -/
def playLine (line : Nat) (cue : Cue) : Play Report := do
  modify fun r => { r with answers := [], sights := [] }
  let followed ← follow line cue
  settle patience
  let r ← get
  return {
    answers := r.answers.mergeSort fun a b => a.1 ≤ b.1
    sights := r.sights
    traffic := r.traffic
    view := view r
    skipped := !followed }

/-- Play a script line by line. -/
def play (script : List Cue) : Play (List Report) :=
  script.zipIdx.mapM fun (cue, line) => playLine line cue

end Rehearsal

end RelayTunnel
