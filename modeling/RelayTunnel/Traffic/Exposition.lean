import RelayTunnel.Double
import RelayTunnel.Text.Utf8
import RelayTunnel.Traffic

/-!
# Exposition of the counters

The text in which a monitoring system reads the counters, and the page that
serves it. A counter passes through binary floating point on its way to the text:
it is rounded to 53 bits and written with the fewest digits that tell it from its
neighbours, filled up with zeros.
-/

namespace RelayTunnel

namespace Exposition

/-- The distance between neighbouring numbers of 53 bits around `n`. -/
def spacing (n : Nat) : Nat := if n < 0x20000000000000 then 1 else 1 <<< (n.log2 - 52)

/-- The nearest number of 53 bits. -/
def round (n : Nat) : Nat := roundHalfEven n (spacing n) * spacing n

/-- Whether `candidate` rounds to `value`, a number of 53 bits. -/
def roundsTo (value candidate : Nat) : Bool := round candidate == value

/-- The multiples of `step` on either side of `value`. -/
def gridNeighbours (value step : Nat) : List Nat :=
  [value / step * step, (value / step + 1) * step]

/-- The nearest multiple of `10 ^ k` that rounds to `value`, for the largest such
    `k` up to the given one; `value` itself where there is none. -/
def shortest (value : Nat) : Nat → Nat
  | 0 => value
  | k + 1 =>
    match (gridNeighbours value (Nat.pow 10 (k + 1))).filter (roundsTo value) with
    | [] => shortest value k
    | [only] => only
    | low :: high :: _ => if value - low ≤ high - value then low else high

/-- The text of a counter. -/
def number (n : UInt64) : String := toString (shortest (round n.toNat) 19)

/-- A counter with its name and what it counts. -/
structure Metric where
  name : String
  help : String
  value : UInt64

/-- The metrics in the order of their names. -/
def metrics (t : Traffic) : List Metric :=
  [ ⟨"bytes_received", "Payload bytes received from the relay", t.bytesReceived⟩,
    ⟨"bytes_sent", "Payload bytes sent to the relay", t.bytesSent⟩,
    ⟨"connections_accepted", "Local connections accepted for relaying", t.accepted⟩,
    ⟨"connections_failed", "Relayed connections that ended with an error", t.failed⟩,
    ⟨"connections_rejected", "Local connections rejected by policy", t.rejected⟩,
    ⟨"frames_received", "Frames received from the relay", t.framesReceived⟩,
    ⟨"frames_sent", "Frames sent to the relay", t.framesSent⟩,
    ⟨"reconnects", "Successful relay reconnects", t.reconnects⟩ ]

/-- The lines of one metric. -/
def Metric.text (m : Metric) : String :=
  let name := s!"iaptunnel_{m.name}_total"
  s!"# HELP {name} {m.help}\n# TYPE {name} counter\n{name} {number m.value}\n"

/-- The text of all counters (`NetworkStatistics.export_prometheus`). -/
def text (t : Traffic) : String := String.join ((metrics t).map Metric.text)

/-- A response of the page. -/
def response (status contentType body : String) : String :=
  s!"HTTP/1.1 {status}\r\nContent-Type: {contentType}\r\n" ++
    s!"Content-Length: {body.utf8ByteSize}\r\nConnection: close\r\n\r\n{body}"

/-- The answer to a request, of which the first line counts and at most 1024 bytes are
    read; nothing is answered to an empty one (`handle_request`). -/
def page (t : Traffic) (request : Bytes) : String :=
  let line := Utf8.decodeLossy (request.take 1024)
  if request.isEmpty then ""
  else if line.startsWith "GET /metrics" then
    response "200 OK" "text/plain; version=0.0.4; charset=utf-8" (text t)
  else if line.startsWith "GET /health" then
    response "200 OK" "text/plain" "OK"
  else
    response "404 Not Found" "text/plain" "Not Found"

end Exposition

end RelayTunnel
