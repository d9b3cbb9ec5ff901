import RelayTunnel.Settings.Defect

/-!
# Layers of settings

Environment variables and options of the command line, which take the place of
settings made before. What came into effect before something was found wrong
stays in effect.
-/

namespace RelayTunnel

/-- Why a layer of settings cannot be taken. -/
inductive SettingsError where
  | unreadable (file reason : String)
  | unparsable (file : String)
  | invalidFile (defect : SettingsDefect)
  | invalid (defect : SettingsDefect)
  | malformed (name value reason : String)
  /-- An option without which there is no target. -/
  | missing (option : String)
  deriving DecidableEq, Repr

/-- The messages about an error from the outermost to the innermost. -/
def SettingsError.chain : SettingsError → List String
  | unreadable file reason => [s!"Failed to read config file: {file}", reason]
  | unparsable file => [s!"Failed to parse config file: {file}"]
  | invalidFile defect => "Configuration validation failed" :: defect.chain
  | invalid defect => defect.chain
  | malformed name value reason => [s!"Invalid {name}: {value}", reason]
  | missing option => [s!"--{option} is required when no target is configured"]

/-! ## Environment -/

/-- A change of settings that may stop half-way. -/
abbrev Change := ExceptT SettingsError (StateM Settings)

/-- Takes the value of a variable into the settings if it is set. -/
def fromVariable {α : Type} (lookup : String → Option String) (name : String)
    (read : String → Except String α) (change : α → Settings → Settings) : Change Unit := do
  if let some value := lookup name then
    match read value with
    | .ok a => modify (change a)
    | .error reason => throw (.malformed name value reason)

/-- Reads a number up to a limit. -/
def readNumber (limit : Nat) (text : String) : Except String Nat :=
  (Decimal.read limit text).mapError Decimal.Defect.message

/-- Reads the address of a socket. -/
def readAddress (text : String) : Except String SocketAddress :=
  match SocketAddress.ofText? text with
  | some address => .ok address
  | none => .error SocketAddress.invalid

/-- Reads a duration in words. -/
def readDuration (text : String) : Except String Duration :=
  (Duration.ofWords text).mapError Duration.WordsDefect.message

/-- The variables that carry settings, one after the other. -/
def fromVariables (lookup : String → Option String) : Change Unit := do
  fromVariable lookup "IAPTUNNEL_RELAY_ENDPOINT" .ok fun a s =>
    { s with relay.endpoint := a }
  fromVariable lookup "IAPTUNNEL_CONNECT_TIMEOUT" readDuration fun a s =>
    { s with relay.connectTimeout := a }
  fromVariable lookup "IAPTUNNEL_RECONNECT_ATTEMPTS" (readNumber (UInt32.size - 1)) fun a s =>
    { s with relay.reconnect.maxAttempts := a }
  fromVariable lookup "IAPTUNNEL_BIND_ADDR" readAddress fun a s =>
    { s with listener.bindAddress := a }
  fromVariable lookup "IAPTUNNEL_ACCEPT_LIMIT" (readNumber (UInt64.size - 1)) fun a s =>
    { s with listener.acceptLimit := UInt64.ofNat a }
  fromVariable lookup "IAPTUNNEL_LOG_LEVEL" .ok fun a s =>
    { s with monitoring.logLevel := a }
  fromVariable lookup "IAPTUNNEL_METRICS_ADDR" readAddress fun a s =>
    { s with monitoring.metricsAddress := some a }

/-- The names of the variables that carry settings. -/
def variableNames : List String :=
  [ "IAPTUNNEL_RELAY_ENDPOINT", "IAPTUNNEL_CONNECT_TIMEOUT", "IAPTUNNEL_RECONNECT_ATTEMPTS",
    "IAPTUNNEL_BIND_ADDR", "IAPTUNNEL_ACCEPT_LIMIT", "IAPTUNNEL_LOG_LEVEL",
    "IAPTUNNEL_METRICS_ADDR" ]

/-- A change made to settings, and what stopped it. -/
def Settings.apply (s : Settings) (change : Change Unit) : Settings × Option SettingsError :=
  match change.run s with
  | (.ok (), s) => (s, none)
  | (.error e, s) => (s, some e)

/-- The settings under those of the environment (`Config.apply_env`). -/
def Settings.applyVariables (s : Settings) (lookup : String → Option String) :
    Settings × Option SettingsError :=
  s.apply (fromVariables lookup)

/-! ## Options -/

/-- What options of the command line say; `none` leaves a setting alone
    (`CliOverrides`). -/
structure Overrides where
  project : Option String := none
  zone : Option String := none
  instanceName : Option String := none
  port : Option UInt16 := none
  networkInterface : Option String := none
  bind : Option SocketAddress := none
  localPort : Option UInt16 := none
  allowAll : Bool := false
  acceptLimit : Option UInt64 := none
  metricsAddress : Option SocketAddress := none
  logLevel : Option String := none
  deriving DecidableEq, Repr

namespace Overrides

/-- Whether anything is said about the target. -/
def namesTarget (o : Overrides) : Bool :=
  o.project.isSome || o.zone.isSome || o.instanceName.isSome || o.port.isSome ||
    o.networkInterface.isSome

/-- The value of an option, or else the configured one, or else an error. -/
def pick {α : Type} (option : String) (given configured : Option α) : Except SettingsError α :=
  match given.or configured with
  | some value => .ok value
  | none => .error (.missing option)

/-- The target that the options make of a configured one (`merge_target`). -/
def target (o : Overrides) (base : Option Target) : Except SettingsError Target := do
  let project ← pick "project" o.project (base.map (·.project))
  let zone ← pick "zone" o.zone (base.map (·.zone))
  let instanceName ← pick "instance" o.instanceName (base.map (·.instanceName))
  let port ← pick "port" o.port (base.map (·.port))
  let networkInterface :=
    (o.networkInterface.or (base.map (·.networkInterface))).getD Target.standardInterface
  return { project, zone, instanceName, port, networkInterface }

/-- The listener under the options. The local port takes the place of the port of
    the address. -/
def listener (o : Overrides) (s : ListenerSettings) : ListenerSettings :=
  let address := o.bind.getD s.bindAddress
  { s with
    bindAddress := match o.localPort with
      | some port => { address with port := port.toNat }
      | none => address
    mode := if o.allowAll then .allowAll else s.mode
    acceptLimit := o.acceptLimit.getD s.acceptLimit }

/-- The reports under the options. -/
def monitoring (o : Overrides) (s : MonitoringSettings) : MonitoringSettings :=
  { metricsAddress := o.metricsAddress.or s.metricsAddress
    logLevel := o.logLevel.getD s.logLevel }

end Overrides

/-- The settings under options of the command line (`Config.merge_with_cli_args`).
    Without a configured target the options have to give a whole one if they say
    anything about it. -/
def Settings.override (s : Settings) (o : Overrides) : Settings × Option SettingsError :=
  let s := { s with listener := o.listener s.listener, monitoring := o.monitoring s.monitoring }
  if o.namesTarget then
    match o.target s.target with
    | .ok target => ({ s with target := some target }, none)
    | .error e => ({ s with target := none }, some e)
  else
    (s, none)

end RelayTunnel
