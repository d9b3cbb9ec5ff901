import RelayTunnel.Settings.Layer
import RelayTunnel.Toml.Document

/-!
# Settings files

Settings from a TOML document. A part that is left out keeps its standard value
and a name without a meaning is skipped; of a target only the interface may be
left out. The members of a part may also stand in an array in their order.
-/

namespace RelayTunnel

namespace Settings

open Toml

/-- Reads something from a value of a document. -/
abbrev Decoder (α : Type) := Value → Option α

/-- The members of a part by their names. -/
abbrev Members := String → Option Value

/-- The members of a part whose names stand in the given order. -/
def members (names : List String) : Decoder Members
  | .table entries => some (Value.find? entries)
  | .array items => some (Value.find? (names.zip items))
  | .moment _ => some fun _ => none
  | _ => none

/-- A member, or the standard value where it is left out. -/
def member {α : Type} (found : Members) (name : String) (standard : α) (decode : Decoder α) :
    Option α :=
  match found name with
  | some value => decode value
  | none => some standard

/-- A text. -/
def decodeText : Decoder String
  | .text text => some text
  | _ => none

/-- An integer from zero up to a limit. -/
def decodeNumber (limit : Nat) : Decoder Nat
  | .integer n => if 0 ≤ n ∧ n ≤ limit then some n.toNat else none
  | _ => none

/-- A count of 64 bits. -/
def decodeCount : Decoder UInt64 := fun value => UInt64.ofNat <$> decodeNumber (UInt64.size - 1) value

/-- The bits of a number. -/
def decodeFactor : Decoder UInt64
  | .float bits => some bits
  | .integer n => some (Double.ofInt n)
  | _ => none

/-- A value that stands in a text. -/
def decodeIn {α : Type} (read : String → Option α) : Decoder α
  | .text text => read text
  | _ => none

/-- A duration in words. -/
def decodeDuration : Decoder Duration := decodeIn fun text => (Duration.ofWords text).toOption

/-- A list of values. -/
def decodeList {α : Type} (decode : Decoder α) : Decoder (List α)
  | .array items => items.mapM decode
  | _ => none

/-- The name of a mode, by itself or over an empty value. -/
def decodeMode : Decoder AdmissionMode
  | .text name | .table [(name, .table [])] | .table [(name, .array [])] =>
    AdmissionMode.ofName? name
  | _ => none

/-- How a lost session is taken up again. -/
def decodeReconnect : Decoder ReconnectSettings := fun value => do
  let found ← members ["max_attempts", "initial_backoff", "max_backoff", "multiplier"] value
  let s : ReconnectSettings := {}
  return {
    maxAttempts := ← member found "max_attempts" s.maxAttempts (decodeNumber (UInt32.size - 1))
    initialBackoff := ← member found "initial_backoff" s.initialBackoff decodeDuration
    maxBackoff := ← member found "max_backoff" s.maxBackoff decodeDuration
    multiplier := ← member found "multiplier" s.multiplier decodeFactor }

/-- The window of bytes sent. -/
def decodeFlow : Decoder FlowSettings := fun value => do
  let found ← members ["high_water_mark", "low_water_mark"] value
  let s : FlowSettings := {}
  return {
    highWaterMark := ← member found "high_water_mark" s.highWaterMark decodeCount
    lowWaterMark := ← member found "low_water_mark" s.lowWaterMark decodeCount }

/-- The connection to the relay. -/
def decodeRelay : Decoder RelaySettings := fun value => do
  let found ← members ["endpoint", "user_agent", "connect_timeout", "ack_threshold", "reconnect",
    "flow_control"] value
  let s : RelaySettings := {}
  return {
    endpoint := ← member found "endpoint" s.endpoint decodeText
    userAgent := ← member found "user_agent" s.userAgent decodeText
    connectTimeout := ← member found "connect_timeout" s.connectTimeout decodeDuration
    ackThreshold := ← member found "ack_threshold" s.ackThreshold decodeCount
    reconnect := ← member found "reconnect" s.reconnect decodeReconnect
    flow := ← member found "flow_control" s.flow decodeFlow }

/-- Which clients are admitted. -/
def decodePolicy : Decoder (AdmissionMode × List Network) := fun value => do
  let found ← members ["mode", "allow"] value
  return (← member found "mode" .loopback decodeMode,
    ← member found "allow" [] (decodeList (decodeIn Network.ofText?)))

/-- The local listener. -/
def decodeListener : Decoder ListenerSettings := fun value => do
  let found ← members ["bind_addr", "accept_limit", "policy"] value
  let s : ListenerSettings := {}
  let bindAddress ← member found "bind_addr" s.bindAddress (decodeIn SocketAddress.ofText?)
  let acceptLimit ← member found "accept_limit" s.acceptLimit decodeCount
  let (mode, allow) ← member found "policy" (s.mode, s.allow) decodePolicy
  return { bindAddress, acceptLimit, mode, allow }

/-- A target. -/
def decodeTarget : Decoder Target := fun value => do
  let found ← members ["project", "zone", "instance", "port", "network_interface"] value
  return {
    project := ← decodeText (← found "project")
    zone := ← decodeText (← found "zone")
    instanceName := ← decodeText (← found "instance")
    port := UInt16.ofNat (← decodeNumber (UInt16.size - 1) (← found "port"))
    networkInterface := ← member found "network_interface" Target.standardInterface decodeText }

/-- What a tunnel reports about itself. -/
def decodeMonitoring : Decoder MonitoringSettings := fun value => do
  let found ← members ["log_level", "metrics_addr"] value
  let s : MonitoringSettings := {}
  return {
    logLevel := ← member found "log_level" s.logLevel decodeText
    metricsAddress := ← member found "metrics_addr" s.metricsAddress
      fun value => some <$> decodeIn SocketAddress.ofText? value }

/-- The settings that a document states. -/
def ofDocument? (text : String) : Option Settings := do
  let found := Value.find? (← Toml.read? text)
  let s : Settings := {}
  return {
    relay := ← member found "relay" s.relay decodeRelay
    listener := ← member found "listener" s.listener decodeListener
    target := ← member found "target" s.target fun value => some <$> decodeTarget value
    monitoring := ← member found "monitoring" s.monitoring decodeMonitoring }

/-- The settings in a file, which have to be valid (`ConfigManager.load_from_file`). -/
def ofFile (file : String) (content : Bytes) : Except SettingsError Settings :=
  match Utf8.decode? content with
  | none => .error (.unreadable file "stream did not contain valid UTF-8")
  | some text =>
    match ofDocument? text with
    | none => .error (.unparsable file)
    | some s =>
      match s.defect? with
      | some defect => .error (.invalidFile defect)
      | none => .ok s

/-- The settings of the environment, which have to be valid
    (`ConfigManager.load_from_env`). -/
def ofVariables (lookup : String → Option String) : Except SettingsError Settings :=
  match ({} : Settings).applyVariables lookup with
  | (_, some e) => .error e
  | (s, none) =>
    match s.defect? with
    | some defect => .error (.invalid defect)
    | none => .ok s

end Settings

end RelayTunnel
