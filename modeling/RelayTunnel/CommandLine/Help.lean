import RelayTunnel.CommandLine

/-!
# Help

The page about the command line, in short or at length. Every option has a line
with its names and, indented below it, what it is for.
-/

namespace RelayTunnel

namespace Help

/-- The name of the program. -/
def program : String := "iaptunnel"

/-- The version of the program. -/
def version : String := "0.1.0"

/-- What the program says about its version. -/
def versionText : String := s!"{program} {version}"

/-- What an option is for; the help itself tells of the other form of the page. -/
def purpose (atLength : Bool) : CommandOption → String
  | .value .config => "Path to configuration file"
  | .value .project => "Project containing the VM"
  | .value .zone => "Zone of the VM"
  | .value .instanceName => "VM instance name"
  | .value .port => "Port on the VM to forward to"
  | .value .networkInterface => "Network interface of the VM (default: nic0)"
  | .value .localPort => "Local port to listen on"
  | .value .bind => "Local bind address (e.g., 127.0.0.1:3389)"
  | .value .acceptLimit => "Stop after this many clients have connected"
  | .value .tokenVariable => "Environment variable holding the relay bearer token"
  | .value .metricsAddress => "Serve Prometheus metrics on this address"
  | .value .logLevel => "Log level"
  | .flag .allowAll => "Accept clients from any address, not only loopback"
  | .flag .verbose => "Enable verbose logging"
  | .flag .validateConfig => "Validate configuration and exit"
  | .flag .help =>
    if atLength then "Print help (see a summary with '-h')"
    else "Print help (see more with '--help')"
  | .flag .version => "Print version"

/-- The value of an option where none is given. -/
def standard? : CommandOption → Option String
  | .value .config => some ({} : CommandLine).configFile
  | .value .tokenVariable => some ({} : CommandLine).tokenVariable
  | _ => none

/-- The word for the value of an option: its name in capitals. -/
def valueWord (option : CommandOption) : String :=
  (option.name.map fun c => if c = '-' then '_' else c).toUpper

/-- The names of an option, and that it has a value. -/
def title (option : CommandOption) : String :=
  let letter := match option.letter? with
    | some c => "-" ++ String.ofList [c] ++ ", "
    | none => "    "
  let value := match option with
    | .value _ => " <" ++ valueWord option ++ ">"
    | .flag _ => ""
  "  " ++ letter ++ "--" ++ option.name ++ value

/-- How far the purpose of an option is indented. -/
def indentation : String := "          "

/-- What the page says about an option. At length the standard value stands in a
    paragraph of its own. -/
def entry (atLength : Bool) (option : CommandOption) : List String :=
  let purpose := purpose atLength option
  let description := match standard? option with
    | none => [purpose]
    | some value =>
      if atLength then [purpose, "", s!"[default: {value}]"]
      else [s!"{purpose} [default: {value}]"]
  title option :: description.map (indentation ++ ·)

/-- What the program is for, in short. -/
def summary : List String :=
  ["Forward a local port to a VM through the IAP TCP-forwarding relay", ""]

/-- What the program is for, and where its settings come from. -/
def description : List String :=
  [ "Forward a local port to a VM through the IAP TCP-forwarding relay.",
    "",
    "Configuration priority (highest to lowest):",
    "1. Command-line arguments",
    "2. Configuration file",
    "3. Environment variables",
    "4. Built-in defaults",
    "",
    "Environment variables:",
    "  IAPTUNNEL_ACCESS_TOKEN       - Bearer token for the relay (see --token-env)",
    "  IAPTUNNEL_RELAY_ENDPOINT     - Relay endpoint (e.g., wss://tunnel.cloudproxy.app/v4)",
    "  IAPTUNNEL_CONNECT_TIMEOUT    - Connect timeout (e.g., 30s)",
    "  IAPTUNNEL_RECONNECT_ATTEMPTS - Reconnect attempts per drop",
    "  IAPTUNNEL_BIND_ADDR          - Local bind address (e.g., 127.0.0.1:0)",
    "  IAPTUNNEL_ACCEPT_LIMIT       - Stop after this many clients (0 = unlimited)",
    "  IAPTUNNEL_METRICS_ADDR       - Prometheus endpoint address",
    "  IAPTUNNEL_LOG_LEVEL          - Log level (trace, debug, info, warn, error)",
    "",
    "" ]

/-- The page in lines. At length, an empty line stands between options. -/
def lines (atLength : Bool) : List String :=
  let entries := CommandOption.all.map (entry atLength)
  let options := if atLength then [""].intercalate entries else entries.flatten
  (if atLength then description else summary) ++
    [s!"Usage: {program} [OPTIONS]", "", "Options:"] ++ options

end Help

end RelayTunnel
