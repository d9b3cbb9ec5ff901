/-!
# Traffic counters

What a tunnel has done so far, in eight counters modulo 2^64, and the bytes that
one local connection has moved.
-/

namespace RelayTunnel

/-- The counters of a tunnel (`NetworkStatistics`). -/
structure Traffic where
  bytesSent : UInt64 := 0
  bytesReceived : UInt64 := 0
  framesSent : UInt64 := 0
  framesReceived : UInt64 := 0
  accepted : UInt64 := 0
  rejected : UInt64 := 0
  failed : UInt64 := 0
  reconnects : UInt64 := 0
  deriving DecidableEq, Repr, Inhabited

/-- Something that is counted. -/
inductive TrafficEntry where
  | dataSent (bytes : Nat)
  | dataReceived (bytes : Nat)
  | frameSent
  | frameReceived
  | accepted
  | rejected
  | failed
  | reconnected
  deriving DecidableEq, Repr

namespace Traffic

/-- Count one thing. -/
def record (t : Traffic) : TrafficEntry → Traffic
  | .dataSent bytes => { t with bytesSent := t.bytesSent + UInt64.ofNat bytes }
  | .dataReceived bytes => { t with bytesReceived := t.bytesReceived + UInt64.ofNat bytes }
  | .frameSent => { t with framesSent := t.framesSent + 1 }
  | .frameReceived => { t with framesReceived := t.framesReceived + 1 }
  | .accepted => { t with accepted := t.accepted + 1 }
  | .rejected => { t with rejected := t.rejected + 1 }
  | .failed => { t with failed := t.failed + 1 }
  | .reconnected => { t with reconnects := t.reconnects + 1 }

/-- Count one thing after the other. -/
def recordAll (t : Traffic) (entries : List TrafficEntry) : Traffic :=
  entries.foldl record t

/-- The counters in the order and under the names of a snapshot
    (`StatisticsSnapshot`). -/
def fields (t : Traffic) : List (String × UInt64) :=
  [ ("bytes_sent", t.bytesSent), ("bytes_received", t.bytesReceived),
    ("frames_sent", t.framesSent), ("frames_received", t.framesReceived),
    ("connections_accepted", t.accepted), ("connections_rejected", t.rejected),
    ("connections_failed", t.failed), ("reconnects", t.reconnects) ]

/-- The counters as a value. -/
def describe (t : Traffic) : String :=
  let shown := t.fields.map fun (name, value) => s!"{name}: {value}"
  "NetworkStatistics \x7b snapshot: StatisticsSnapshot \x7b " ++ ", ".intercalate shown ++
    " \x7d \x7d"

end Traffic

/-- The bytes of one local connection: written to the client, read from it
    (`ConnectionStatistics`). -/
structure ClientTraffic where
  sent : UInt64 := 0
  received : UInt64 := 0
  deriving DecidableEq, Repr, Inhabited

namespace ClientTraffic

/-- Count bytes written to the client. -/
def recordSent (t : ClientTraffic) (bytes : Nat) : ClientTraffic :=
  { t with sent := t.sent + UInt64.ofNat bytes }

/-- Count bytes read from the client. -/
def recordReceived (t : ClientTraffic) (bytes : Nat) : ClientTraffic :=
  { t with received := t.received + UInt64.ofNat bytes }

end ClientTraffic

end RelayTunnel
