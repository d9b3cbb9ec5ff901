import RelayTunnel.Admission
import RelayTunnel.Backoff
import RelayTunnel.Credential
import RelayTunnel.Duration.Words
import RelayTunnel.Target

/-!
# Settings

Everything that can be set about a tunnel, with the values that hold where
nothing is said: the relay, the local listener, the target and what is reported.
-/

namespace RelayTunnel

/-- The window of bytes sent and not yet acknowledged: writing pauses at the high mark
    and goes on at the low one (`FlowControlConfig`). -/
structure FlowSettings where
  highWaterMark : UInt64 := 2097152
  lowWaterMark : UInt64 := 1048576
  deriving DecidableEq, Repr

/-- The connection to the relay (`RelayConfig`). -/
structure RelaySettings where
  endpoint : String := Endpoint.standardBase
  userAgent : String := Endpoint.standardUserAgent
  /-- The time for connecting, and for each attempt to take a session up again. -/
  connectTimeout : Duration := .seconds 30
  /-- How many received bytes call for an acknowledgement. -/
  ackThreshold : UInt64 := 32768
  reconnect : ReconnectSettings := {}
  flow : FlowSettings := {}
  deriving DecidableEq, Repr

/-- The local listener (`ListenerConfig`, `PolicyConfig`). -/
structure ListenerSettings where
  bindAddress : SocketAddress := ⟨.localhost, 0, 0⟩
  /-- How many clients are accepted, zero for no limit. -/
  acceptLimit : UInt64 := 0
  mode : AdmissionMode := .loopback
  allow : List Network := []
  deriving DecidableEq, Repr

/-- What a tunnel reports about itself (`MonitoringConfig`). -/
structure MonitoringSettings where
  logLevel : String := "info"
  metricsAddress : Option SocketAddress := none
  deriving DecidableEq, Repr

/-- All settings (`Config`). -/
structure Settings where
  relay : RelaySettings := {}
  listener : ListenerSettings := {}
  target : Option Target := none
  monitoring : MonitoringSettings := {}
  deriving DecidableEq, Repr

namespace ListenerSettings

/-- Which clients the listener admits. -/
def admission (s : ListenerSettings) : Admission := .ofMode s.mode s.allow

/-- The number of clients after which the listener stops
    (`TunnelOptions.from_config`). -/
def limit? (s : ListenerSettings) : Option UInt64 :=
  if s.acceptLimit = 0 then none else some s.acceptLimit

end ListenerSettings

/-- The endpoint that the settings name (`RelayClient.from_config`). -/
def RelaySettings.endpoint? (s : RelaySettings) : Except RelayError Endpoint :=
  Endpoint.parse s.endpoint s.userAgent

end RelayTunnel
