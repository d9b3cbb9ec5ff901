import RelayTunnel.Log
import RelayTunnel.Settings

/-!
# Checking settings

What settings have to satisfy before a tunnel is started with them. The first
defect found counts.
-/

namespace RelayTunnel

/-- What can be wrong with settings. -/
inductive SettingsDefect where
  | endpointInvalid (endpoint : String) (reason : UrlError)
  | endpointScheme
  | connectTimeoutZero
  | ackThresholdZero
  | maxAttemptsZero
  | initialBackoffZero
  | maxBackoffBelowInitial
  | multiplierOutOfRange
  | highWaterMarkZero
  | lowWaterMarkNotBelowHigh
  | allowListEmpty
  | projectEmpty
  | zoneEmpty
  | instanceEmpty
  | portZero
  | networkInterfaceEmpty
  | logLevelUnknown
  deriving DecidableEq, Repr

/-- The levels at which a tunnel can log. -/
def logLevels : List String := LogLevel.all.map LogLevel.name

namespace SettingsDefect

/-- The part of the settings that a defect is found in. -/
def part : SettingsDefect → String
  | allowListEmpty => "Listener"
  | projectEmpty | zoneEmpty | instanceEmpty | portZero | networkInterfaceEmpty => "Target"
  | logLevelUnknown => "Monitoring"
  | _ => "Relay"

/-- The wording of a defect and, behind it, of its cause if that has one. -/
def causes : SettingsDefect → List String
  | endpointInvalid endpoint reason =>
    [s!"relay.endpoint is not a valid URL: {endpoint}", reason.message]
  | endpointScheme => ["relay.endpoint must use ws or wss"]
  | connectTimeoutZero => ["relay.connect_timeout must be greater than 0"]
  | ackThresholdZero => ["relay.ack_threshold must be greater than 0"]
  | maxAttemptsZero => ["relay.reconnect.max_attempts must be at least 1"]
  | initialBackoffZero => ["relay.reconnect.initial_backoff must be greater than 0"]
  | maxBackoffBelowInitial =>
    ["relay.reconnect.max_backoff cannot be smaller than initial_backoff"]
  | multiplierOutOfRange => ["relay.reconnect.multiplier must be between 1.0 and 100"]
  | highWaterMarkZero => ["relay.flow_control.high_water_mark must be greater than 0"]
  | lowWaterMarkNotBelowHigh =>
    ["relay.flow_control.low_water_mark must be below high_water_mark"]
  | allowListEmpty =>
    ["listener.policy.allow must list at least one network in allow_list mode"]
  | projectEmpty => ["target.project must not be empty"]
  | zoneEmpty => ["target.zone must not be empty"]
  | instanceEmpty => ["target.instance must not be empty"]
  | portZero => ["target.port must not be 0"]
  | networkInterfaceEmpty => ["target.network_interface must not be empty"]
  | logLevelUnknown => ["monitoring.log_level must be one of: " ++ ", ".intercalate logLevels]

/-- The messages about a defect from the outermost to the innermost. -/
def chain (defect : SettingsDefect) : List String :=
  s!"{defect.part} configuration validation failed" :: defect.causes

end SettingsDefect

/-- Whether a factor, given by its bits, lies between 1 and 100
    (`MAX_BACKOFF_MULTIPLIER`). The bits of numbers without a sign are ordered as the
    numbers are; infinity, NaN and negative numbers follow them. -/
def isGrowthFactor (bits : UInt64) : Bool :=
  0x3FF0000000000000 ≤ bits && bits ≤ 0x4059000000000000

/-- What is wrong with the endpoint. -/
def endpointDefect? (endpoint : String) : Option SettingsDefect :=
  match Url.parse endpoint with
  | .error reason => some (.endpointInvalid endpoint reason)
  | .ok url => if url.scheme = "ws" || url.scheme = "wss" then none else some .endpointScheme

/-- The first of several defects whose condition holds. -/
def firstDefect? (conditions : List (Bool × SettingsDefect)) : Option SettingsDefect :=
  (conditions.find? (·.1)).map (·.2)

/-- What is wrong with the connection to the relay (`Config.validate_relay_config`). -/
def RelaySettings.defect? (s : RelaySettings) : Option SettingsDefect :=
  (endpointDefect? s.endpoint).or <| firstDefect?
    [ (s.connectTimeout.isZero, .connectTimeoutZero),
      (s.ackThreshold = 0, .ackThresholdZero),
      (s.reconnect.maxAttempts = 0, .maxAttemptsZero),
      (s.reconnect.initialBackoff.isZero, .initialBackoffZero),
      (s.reconnect.maxBackoff.nanoseconds < s.reconnect.initialBackoff.nanoseconds,
        .maxBackoffBelowInitial),
      (!isGrowthFactor s.reconnect.multiplier, .multiplierOutOfRange),
      (s.flow.highWaterMark = 0, .highWaterMarkZero),
      (s.flow.highWaterMark ≤ s.flow.lowWaterMark, .lowWaterMarkNotBelowHigh) ]

/-- What is wrong with the listener (`Config.validate_listener_config`). -/
def ListenerSettings.defect? (s : ListenerSettings) : Option SettingsDefect :=
  firstDefect? [(s.mode = .allowList && s.allow.isEmpty, .allowListEmpty)]

/-- What is wrong with a target (`validate_target`). -/
def Target.defect? (t : Target) : Option SettingsDefect :=
  firstDefect?
    [ (t.project.isEmpty, .projectEmpty),
      (t.zone.isEmpty, .zoneEmpty),
      (t.instanceName.isEmpty, .instanceEmpty),
      (t.port = 0, .portZero),
      (t.networkInterface.isEmpty, .networkInterfaceEmpty) ]

/-- What is wrong with the reports (`Config.validate_monitoring_config`). -/
def MonitoringSettings.defect? (s : MonitoringSettings) : Option SettingsDefect :=
  firstDefect? [(!logLevels.contains s.logLevel, .logLevelUnknown)]

/-- What is wrong with the settings, `none` if they are valid (`Config.validate`). -/
def Settings.defect? (s : Settings) : Option SettingsDefect :=
  s.relay.defect?.or <| s.listener.defect?.or <| (s.target.bind Target.defect?).or
    s.monitoring.defect?

end RelayTunnel
