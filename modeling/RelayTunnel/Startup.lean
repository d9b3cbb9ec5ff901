import RelayTunnel.CommandLine.Help
import RelayTunnel.Credential
import RelayTunnel.Settings.File

/-!
# Starting the program

From the arguments to settings that a tunnel can be opened with. The settings come
from the configuration file or, where there is none, from environment variables,
and over them come those of the command line. They are checked once they are
complete, and what is written to the log meanwhile goes through the filter that the
environment or else the settings name.
-/

namespace RelayTunnel

/-- What a start of the program works with. `m` is where files are looked into. -/
structure Surroundings (m : Type → Type) where
  arguments : List String
  environment : Environment
  /-- The content of a file or why it cannot be read; `none` if there is no such
      file. -/
  contentOf : String → m (Option (Except String Bytes))

/-- How a start of the program can go. -/
inductive Startup where
  /-- The program has printed what it was asked for. -/
  | printed (lines : List String)
  | misused (misuse : CommandLine.Misuse)
  /-- Messages about an error from the outermost to the innermost. -/
  | failed (entries : List LogEntry) (messages : List String)
  /-- The settings were to be checked and are valid. -/
  | validated (entries : List LogEntry)
  /-- A tunnel can be opened. -/
  | ready (entries : List LogEntry) (settings : Settings) (target : Target)
      (credential : Credential)
  deriving DecidableEq, Repr

/-- The settings of a configuration file, given what is in it, or of the environment
    where there is no such file. -/
def Settings.ofSources (file : String) (content : Option (Except String Bytes))
    (environment : Environment) : Except SettingsError Settings :=
  match content with
  | none => Settings.ofVariables environment.text?
  | some (.error reason) => .error (.unreadable file reason)
  | some (.ok bytes) => Settings.ofFile file bytes

namespace Startup

/-- The exit code of the program. -/
def exitCode : Startup → UInt32
  | printed _ | validated _ | ready .. => 0
  | failed .. => 1
  | misused _ => 2

/-- The name of the program as a source of log entries. -/
def source : String := Help.program

/-- The variable that can hold a filter for the log. -/
def filterVariable : String := "RUST_LOG"

/-- The filter for the log: that of the environment if it is well formed, else the one
    for the level in the settings (`init_tracing`). -/
def filter (environment : Environment) (settings : Settings) : LogFilter :=
  ((environment.text? filterVariable).bind LogFilter.ofText?).getD
    (LogFilter.upTo settings.monitoring.logLevel)

/-- Entries of information that a filter lets through. -/
def inform (filter : LogFilter) (messages : List String) : List LogEntry :=
  (messages.map (LogEntry.mk .info)).filter fun entry => filter.lets source entry.level

/-- What is said about valid settings. -/
def report (s : Settings) (target : Target) : List String :=
  [ "Configuration is valid",
    "Configuration summary:",
    s!"  Target: {target.text}",
    s!"  Relay endpoint: {s.relay.endpoint}",
    s!"  Bind address: {s.listener.bindAddress.text}",
    s!"  Policy: {s.listener.mode.describe}",
    s!"  Connect timeout: {s.relay.connectTimeout.text}",
    s!"  Reconnect attempts: {s.relay.reconnect.maxAttempts}" ]

/-- What is said at first. -/
def greeting : String := s!"Starting {Help.program} v{Help.version}"

/-- The start once the settings are complete. -/
def withSettings (commandLine : CommandLine) (environment : Environment) (s : Settings) :
    Startup :=
  let filter := filter environment s
  let entries := inform filter [greeting]
  match s.defect?, s.target with
  | some defect, _ => failed entries ("Final configuration validation failed" :: defect.chain)
  | none, none =>
    failed entries ["No target configured; pass --project, --zone, --instance and --port"]
  | none, some target =>
    if commandLine.validateConfig then
      validated (inform filter (greeting :: report s target))
    else
      ready entries s target (.fromEnvironment commandLine.tokenVariable)

/-- The start of a command line, given what is in its configuration file. -/
def ofCommandLine (commandLine : CommandLine) (environment : Environment)
    (content : Option (Except String Bytes)) : Startup :=
  match Settings.ofSources commandLine.configFile content environment with
  | .error e => failed [] e.chain
  | .ok s =>
    match s.override commandLine.allOverrides with
    | (_, some e) => failed [] ("Invalid command-line arguments" :: e.chain)
    | (s, none) => withSettings commandLine environment s

/-- A start of the program (`main`). -/
def run {m : Type → Type} [Monad m] (surroundings : Surroundings m) : m Startup := do
  match CommandLine.ofArguments surroundings.arguments with
  | .error (.help atLength) => return printed (Help.lines atLength)
  | .error .version => return printed [Help.versionText]
  | .error (.misuse misuse) => return misused misuse
  | .ok commandLine =>
    let content ← surroundings.contentOf commandLine.configFile
    return ofCommandLine commandLine surroundings.environment content

/-! ## Errors in print -/

/-- The lines of a cause: the first behind a mark, the others indented as far. -/
def causeLines (mark : String) (message : String) : List String :=
  match message.splitOn "\n" with
  | [] => []
  | first :: rest => (mark ++ first) :: rest.map ("".pushn ' ' mark.length ++ ·)

/-- The marks in front of so many causes: numbers if there are several. -/
def marks : Nat → List String
  | 1 => ["    "]
  | count => (List.range count).map fun k => "".pushn ' ' (5 - (toString k).length) ++ s!"{k}: "

/-- An error and its causes, in print. -/
def errorText : List String → String
  | [] => ""
  | [message] => message
  | message :: causes =>
    "\n".intercalate (message :: "" :: "Caused by:" ::
      (List.zipWith causeLines (marks causes.length) causes).flatten)

end Startup

end RelayTunnel
