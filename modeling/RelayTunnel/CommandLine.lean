import RelayTunnel.Settings.Layer

/-!
# The command line

The options of the program, and how arguments are taken for them: `--name value`
or `--name=value`, and for those with a letter `-n value`, `-nvalue` or
`-n=value`, where letters of options without a value can stand together. A value
behind a blank cannot begin with a dash, unless it is a dash alone. Arguments are
taken from left to right, and the first that asks for help or the version, or that
is misused, decides.
-/

namespace RelayTunnel

/-- An option that has a value. -/
inductive ValueOption where
  | config
  | project
  | zone
  | instanceName
  | port
  | networkInterface
  | localPort
  | bind
  | acceptLimit
  | tokenVariable
  | metricsAddress
  | logLevel
  deriving DecidableEq, Repr

/-- An option that has none. -/
inductive Flag where
  | allowAll
  | verbose
  | validateConfig
  | help
  | version
  deriving DecidableEq, Repr

/-- An option of the command line. -/
inductive CommandOption where
  | value (option : ValueOption)
  | flag (flag : Flag)
  deriving DecidableEq, Repr

namespace CommandOption

/-- All options. -/
def all : List CommandOption :=
  [ value .config, value .project, value .zone, value .instanceName, value .port,
    value .networkInterface, value .localPort, value .bind, flag .allowAll, value .acceptLimit,
    value .tokenVariable, value .metricsAddress, value .logLevel, flag .verbose,
    flag .validateConfig, flag .help, flag .version ]

/-- The name of an option. -/
def name : CommandOption → String
  | value .config => "config"
  | value .project => "project"
  | value .zone => "zone"
  | value .instanceName => "instance"
  | value .port => "port"
  | value .networkInterface => "network-interface"
  | value .localPort => "local-port"
  | value .bind => "bind"
  | value .acceptLimit => "accept-limit"
  | value .tokenVariable => "token-env"
  | value .metricsAddress => "metrics-addr"
  | value .logLevel => "log-level"
  | flag .allowAll => "allow-all"
  | flag .verbose => "verbose"
  | flag .validateConfig => "validate-config"
  | flag .help => "help"
  | flag .version => "version"

/-- The letter of an option, if it has one. -/
def letter? : CommandOption → Option Char
  | value .config => some 'c'
  | value .localPort => some 'l'
  | value .bind => some 'b'
  | flag .verbose => some 'v'
  | flag .help => some 'h'
  | flag .version => some 'V'
  | _ => none

/-- The option of a name. -/
def ofName? (name : String) : Option CommandOption := all.find? (·.name = name)

/-- The option of a letter. -/
def ofLetter? (letter : Char) : Option CommandOption := all.find? (·.letter? = some letter)

end CommandOption

/-- What a command line says (`CliArgs`). -/
structure CommandLine where
  configFile : String := "iaptunnel.toml"
  /-- What is said about settings, the verbosity apart. -/
  overrides : Overrides := {}
  /-- The environment variable that the token is read from. -/
  tokenVariable : String := "IAPTUNNEL_ACCESS_TOKEN"
  verbose : Bool := false
  /-- Whether the program ends once the settings are checked. -/
  validateConfig : Bool := false
  deriving DecidableEq, Repr

namespace CommandLine

/-- The overrides of settings (`CliArgs.overrides`). Being verbose means to log down to
    `debug`. -/
def allOverrides (c : CommandLine) : Overrides :=
  if c.verbose then { c.overrides with logLevel := some LogLevel.debug.name } else c.overrides

/-! ## Misuse -/

/-- How a command line can be misused. -/
inductive Misuse where
  | unexpected (argument : String)
  | repeated (option : CommandOption)
  | valueMissing (option : ValueOption)
  | valueUnwanted (flag : Flag) (value : String)
  | valueInvalid (option : ValueOption) (value reason : String)
  deriving DecidableEq, Repr

/-- The wording of a misuse. -/
def Misuse.message : Misuse → String
  | unexpected argument => s!"unexpected argument {argument}"
  | repeated option => s!"--{option.name} cannot be used more than once"
  | valueMissing option => s!"--{(CommandOption.value option).name} requires a value"
  | valueUnwanted flag value => s!"unexpected value {value} for --{(CommandOption.flag flag).name}"
  | valueInvalid option value reason =>
    s!"invalid value {value} for --{(CommandOption.value option).name}: {reason}"

/-- Why arguments are not taken any further. -/
inductive Stop where
  /-- Help is asked for, in short or at length. -/
  | help (atLength : Bool)
  | version
  | misuse (misuse : Misuse)
  deriving DecidableEq, Repr

/-! ## Values -/

/-- Reads a number up to a limit, which can carry a sign; with a minus there is only
    zero. -/
def readSigned (limit : Nat) (text : String) : Except String Nat :=
  match text.toList with
  | '-' :: '+' :: _ => .error Decimal.Defect.invalidDigit.message
  | '-' :: digits => readNumber 0 (String.ofList digits)
  | _ => readNumber limit text

/-- Reads a port. -/
def readPort (text : String) : Except String UInt16 :=
  (readSigned (UInt16.size - 1) text).map UInt16.ofNat

/-- Reads the name of a file. -/
def readFileName (text : String) : Except String String :=
  if text.isEmpty then .error "a value is required" else .ok text

/-- What a command line says with one more value. -/
def withValue (c : CommandLine) (value : String) : ValueOption → Except String CommandLine
  | .config => (readFileName value).map fun a => { c with configFile := a }
  | .project => .ok { c with overrides.project := some value }
  | .zone => .ok { c with overrides.zone := some value }
  | .instanceName => .ok { c with overrides.instanceName := some value }
  | .port => (readPort value).map fun a => { c with overrides.port := some a }
  | .networkInterface => .ok { c with overrides.networkInterface := some value }
  | .localPort => (readPort value).map fun a => { c with overrides.localPort := some a }
  | .bind => (readAddress value).map fun a => { c with overrides.bind := some a }
  | .acceptLimit =>
    (readNumber (UInt64.size - 1) value).map fun a =>
      { c with overrides.acceptLimit := some (UInt64.ofNat a) }
  | .tokenVariable => .ok { c with tokenVariable := value }
  | .metricsAddress =>
    (readAddress value).map fun a => { c with overrides.metricsAddress := some a }
  | .logLevel => .ok { c with overrides.logLevel := some value }

/-- What a command line says with one more flag, whose name was given in full or as
    a letter. -/
def withFlag (c : CommandLine) (inFull : Bool) : Flag → Except Stop CommandLine
  | .allowAll => .ok { c with overrides.allowAll := true }
  | .verbose => .ok { c with verbose := true }
  | .validateConfig => .ok { c with validateConfig := true }
  | .help => .error (.help inFull)
  | .version => .error .version

/-! ## Arguments -/

/-- What was taken from arguments so far. -/
structure Taken where
  commandLine : CommandLine := {}
  /-- The options that occurred. -/
  seen : List CommandOption := []
  /-- The option whose value comes next. -/
  awaiting : Option ValueOption := none

/-- Going on with arguments, or not. -/
abbrev Taking := Except Stop Taken

/-- A misuse ends the taking. -/
def refuse {α : Type} (misuse : Misuse) : Except Stop α := .error (.misuse misuse)

namespace Taken

/-- No option may begin while another one lacks its value, and none may occur
    twice. -/
def begin (t : Taken) (option : CommandOption) : Taking :=
  match t.awaiting with
  | some awaiting => refuse (.valueMissing awaiting)
  | none =>
    if t.seen.contains option then refuse (.repeated option)
    else .ok { t with seen := option :: t.seen }

/-- Take the value of an option that has begun. -/
def take (t : Taken) (option : ValueOption) (value : String) : Taking :=
  match t.commandLine.withValue value option with
  | .ok commandLine => .ok { t with commandLine, awaiting := none }
  | .error reason => refuse (.valueInvalid option value reason)

/-- Take an option with its value, which may still come. -/
def option (t : Taken) (option : ValueOption) (value : Option String) : Taking := do
  let t ← t.begin (.value option)
  match value with
  | some value => t.take option value
  | none => return { t with awaiting := some option }

/-- Take a flag. -/
def flag (t : Taken) (flag : Flag) (inFull : Bool) : Taking := do
  let t ← t.begin (.flag flag)
  let commandLine ← t.commandLine.withFlag inFull flag
  return { t with commandLine }

/-- Take what stands behind two dashes. -/
def long (t : Taken) (text : List Char) : Taking :=
  let name := text.takeWhile (· ≠ '=')
  let value := (text.drop name.length).tail?.map String.ofList
  match CommandOption.ofName? (String.ofList name), value with
  | none, _ => refuse (.unexpected ("--" ++ String.ofList text))
  | some (.value option), value => t.option option value
  | some (.flag flag), none => t.flag flag true
  | some (.flag flag), some value => refuse (.valueUnwanted flag value)

/-- Take the letters behind one dash. -/
def letters (t : Taken) : List Char → Taking
  | [] => .ok t
  | letter :: rest =>
    match CommandOption.ofLetter? letter with
    | none => refuse (.unexpected ("-" ++ String.ofList [letter]))
    | some (.value option) =>
      match rest with
      | [] => t.option option none
      | '=' :: value | value => t.option option (some (String.ofList value))
    | some (.flag flag) => do
      let t ← t.flag flag false
      t.letters rest

/-- Take an argument that can only be a value. -/
def plain (t : Taken) (argument : String) : Taking :=
  match t.awaiting with
  | some option => t.take option argument
  | none => refuse (.unexpected argument)

/-- Take an argument. -/
def argument (t : Taken) (argument : String) : Taking :=
  match argument.toList with
  | '-' :: '-' :: text => t.long text
  | ['-'] => t.plain argument
  | '-' :: letters => t.letters letters
  | _ => t.plain argument

/-- Take arguments. Two dashes alone say that no options follow, and nothing else
    is expected. -/
def arguments (t : Taken) : List String → Taking
  | [] | ["--"] => .ok t
  | "--" :: argument :: _ => refuse (.unexpected argument)
  | argument :: rest => do
    let t ← t.argument argument
    t.arguments rest

end Taken

/-- What arguments say. -/
def ofArguments (arguments : List String) : Except Stop CommandLine := do
  let t ← Taken.arguments {} arguments
  match t.awaiting with
  | some awaiting => refuse (.valueMissing awaiting)
  | none => return t.commandLine

end CommandLine

end RelayTunnel
