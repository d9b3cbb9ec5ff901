import RelayTunnel.Startup

/-!
# Where settings come from

Seven settings can be given in the environment, and most of them also in a file and on the
command line. For each of them `Setting` says where each source states it, and the results are
about all of them at once: which value a start of the program that is accepted goes on with.
A file takes the place of the whole environment and not of what it states: beside a file no
variable counts.
-/

namespace RelayTunnel

open Toml (Value)

/-- A setting that a variable of the environment can carry. -/
inductive Setting where
  | endpoint
  | connectTimeout
  | reconnectAttempts
  | bindAddress
  | acceptLimit
  | logLevel
  | metricsAddress
  deriving DecidableEq, Repr

namespace Setting

/-- All of them, in the order of their variables. -/
def all : List Setting :=
  [endpoint, connectTimeout, reconnectAttempts, bindAddress, acceptLimit, logLevel,
    metricsAddress]

theorem mem_all (setting : Setting) : setting ∈ all := by
  cases setting <;> decide

/-- What a setting can be set to. -/
abbrev Kind : Setting → Type
  | endpoint | logLevel => String
  | connectTimeout => Duration
  | reconnectAttempts => Nat
  | bindAddress => SocketAddress
  | acceptLimit => UInt64
  | metricsAddress => Option SocketAddress

/-- What it is set to. -/
def get : (setting : Setting) → Settings → setting.Kind
  | endpoint, s => s.relay.endpoint
  | connectTimeout, s => s.relay.connectTimeout
  | reconnectAttempts, s => s.relay.reconnect.maxAttempts
  | bindAddress, s => s.listener.bindAddress
  | acceptLimit, s => s.listener.acceptLimit
  | logLevel, s => s.monitoring.logLevel
  | metricsAddress, s => s.monitoring.metricsAddress

/-- Settings with one of them set to a value. -/
def put : (setting : Setting) → setting.Kind → Settings → Settings
  | endpoint, a, s => { s with relay.endpoint := a }
  | connectTimeout, a, s => { s with relay.connectTimeout := a }
  | reconnectAttempts, a, s => { s with relay.reconnect.maxAttempts := a }
  | bindAddress, a, s => { s with listener.bindAddress := a }
  | acceptLimit, a, s => { s with listener.acceptLimit := a }
  | logLevel, a, s => { s with monitoring.logLevel := a }
  | metricsAddress, a, s => { s with monitoring.metricsAddress := a }

@[simp] theorem get_put_self (setting : Setting) (a : setting.Kind) (s : Settings) :
    setting.get (setting.put a s) = a := by
  cases setting <;> rfl

theorem get_put_of_ne {setting other : Setting} (distinct : setting ≠ other) (a : other.Kind)
    (s : Settings) : setting.get (other.put a s) = setting.get s := by
  cases other <;> cases setting <;> first | rfl | exact absurd rfl distinct

/-- The built-in value. -/
def standard (setting : Setting) : setting.Kind := setting.get {}

/-! ## The environment -/

/-- The variable that carries it. -/
def variableName : Setting → String
  | endpoint => "IAPTUNNEL_RELAY_ENDPOINT"
  | connectTimeout => "IAPTUNNEL_CONNECT_TIMEOUT"
  | reconnectAttempts => "IAPTUNNEL_RECONNECT_ATTEMPTS"
  | bindAddress => "IAPTUNNEL_BIND_ADDR"
  | acceptLimit => "IAPTUNNEL_ACCEPT_LIMIT"
  | logLevel => "IAPTUNNEL_LOG_LEVEL"
  | metricsAddress => "IAPTUNNEL_METRICS_ADDR"

/-- The value that a text means. -/
def read : (setting : Setting) → String → Except String setting.Kind
  | endpoint, text | logLevel, text => .ok text
  | connectTimeout, text => readDuration text
  | reconnectAttempts, text => readNumber (UInt32.size - 1) text
  | bindAddress, text => readAddress text
  | acceptLimit, text => (readNumber (UInt64.size - 1) text).map UInt64.ofNat
  | metricsAddress, text => (readAddress text).map some

/-- The value of its variable if it is set to one. -/
def inVariable? (lookup : String → Option String) (setting : Setting) : Option setting.Kind :=
  (lookup setting.variableName).bind fun text => (setting.read text).toOption

/-- Take the value of its variable. -/
def carry (lookup : String → Option String) (setting : Setting) : Change Unit :=
  fromVariable lookup setting.variableName setting.read setting.put

/-- Settings with one of them set to a value if there is one. -/
def take (values : (setting : Setting) → Option setting.Kind) (s : Settings) (setting : Setting) :
    Settings :=
  match values setting with
  | some a => setting.put a s
  | none => s

/-- The value of one variable takes the place of what was set before. -/
theorem fromVariable_map {α β : Type} (lookup : String → Option String) (name : String)
    (read : String → Except String α) (f : α → β) (change : β → Settings → Settings) :
    fromVariable lookup name read (fun a => change (f a)) =
      fromVariable lookup name (fun text => (read text).map f) change := by
  unfold fromVariable
  cases lookup name with
  | none => rfl
  | some text =>
    dsimp only
    cases read text with
    | ok a => rfl
    | error reason => rfl

/-- The variables are taken one after the other. -/
theorem fromVariables_eq (lookup : String → Option String) :
    fromVariables lookup =
      (do
        carry lookup endpoint
        carry lookup connectTimeout
        carry lookup reconnectAttempts
        carry lookup bindAddress
        carry lookup acceptLimit
        carry lookup logLevel
        carry lookup metricsAddress) := by
  have limit : carry lookup acceptLimit = _ :=
    (fromVariable_map lookup acceptLimit.variableName (readNumber (UInt64.size - 1)) UInt64.ofNat
      acceptLimit.put).symm
  have metrics : carry lookup metricsAddress = _ :=
    (fromVariable_map lookup metricsAddress.variableName readAddress some metricsAddress.put).symm
  rw [limit, metrics]
  rfl

end Setting

/-! ## Changes -/

/-- One change after the other, unless the first one is stopped. -/
theorem Settings.apply_bind (first : Change Unit) (rest : Unit → Change Unit) (s : Settings) :
    s.apply (first >>= rest) =
      match s.apply first with
      | (s, none) => s.apply (rest ())
      | (s, some e) => (s, some e) := by
  have run : (first >>= rest).run s =
      match first.run s with
      | (result, s) => ExceptT.bindCont rest result s := rfl
  unfold Settings.apply
  rw [run]
  rcases first.run s with ⟨result, after⟩
  cases result with
  | ok => rfl
  | error e => rfl

namespace Setting

variable {lookup : String → Option String} {s s' : Settings}

theorem take_eq (values : (setting : Setting) → Option setting.Kind) (s : Settings)
    (setting : Setting) :
    setting.get (take values s setting) = (values setting).getD (setting.get s) := by
  unfold take
  cases values setting with
  | none => rfl
  | some a => exact get_put_self ..

theorem take_of_ne {setting other : Setting} (distinct : setting ≠ other)
    (values : (setting : Setting) → Option setting.Kind) (s : Settings) :
    setting.get (take values s other) = setting.get s := by
  unfold take
  cases values other with
  | none => rfl
  | some a => exact get_put_of_ne distinct a s

/-- Each of the settings that are taken has its value, or else the one that it had before. -/
theorem get_foldl_take (values : (setting : Setting) → Option setting.Kind) (setting : Setting)
    {settings : List Setting} (once : settings.Nodup) (member : setting ∈ settings)
    (s : Settings) :
    setting.get (settings.foldl (take values) s) = (values setting).getD (setting.get s) := by
  -- what is taken afterwards leaves it alone
  have after (s : Settings) {settings : List Setting} (absent : setting ∉ settings) :
      setting.get (settings.foldl (take values) s) = setting.get s := by
    induction settings generalizing s with
    | nil => rfl
    | cons other settings ih =>
      obtain ⟨distinct, absent⟩ := List.ne_and_not_mem_of_not_mem_cons absent
      rw [List.foldl_cons, ih _ absent, take_of_ne distinct]
  induction settings generalizing s with
  | nil => cases member
  | cons other settings ih =>
    obtain ⟨absent, once⟩ := List.nodup_cons.mp once
    rw [List.foldl_cons]
    rcases List.mem_cons.mp member with rfl | member
    · rw [after _ absent, take_eq]
    · have distinct : setting ≠ other := fun same => absent (same ▸ member)
      rw [ih once member, take_of_ne distinct]

/-- A variable that is not refused has its value taken. -/
theorem apply_carry {setting : Setting} (applied : s.apply (carry lookup setting) = (s', none)) :
    s' = take (inVariable? lookup) s setting := by
  unfold Settings.apply carry fromVariable at applied
  unfold take inVariable?
  cases stated : lookup setting.variableName with
  | none =>
    rw [stated] at applied
    cases applied
    rfl
  | some text =>
    rw [stated] at applied
    dsimp only at applied
    cases meant : setting.read text with
    | ok a =>
      rw [meant] at applied
      cases applied
      simp [meant, Except.toOption]
    | error reason =>
      rw [meant] at applied
      cases applied

theorem apply_carry_bind {setting : Setting} {rest : Unit → Change Unit}
    (applied : s.apply (carry lookup setting >>= rest) = (s', none)) :
    (take (inVariable? lookup) s setting).apply (rest ()) = (s', none) := by
  rw [Settings.apply_bind] at applied
  split at applied
  next after taken =>
    rw [← apply_carry taken]
    exact applied
  next => cases applied

/-- In settings of the environment each setting has the value of its variable, or else the
    built-in one. -/
theorem get_ofVariables (accepted : Settings.ofVariables lookup = .ok s) (setting : Setting) :
    setting.get s = (inVariable? lookup setting).getD setting.standard := by
  have applied : ({} : Settings).apply (fromVariables lookup) = (s, none) := by
    unfold Settings.ofVariables Settings.applyVariables at accepted
    split at accepted
    · cases accepted
    · split at accepted
      · cases accepted
      · cases accepted
        assumption
  rw [fromVariables_eq] at applied
  have taken : s = all.foldl (take (inVariable? lookup)) {} :=
    apply_carry (apply_carry_bind (apply_carry_bind (apply_carry_bind (apply_carry_bind
      (apply_carry_bind (apply_carry_bind applied))))))
  rw [taken]
  exact get_foldl_take _ setting (by decide) setting.mem_all {}

/-! ## Files -/

/-- The names that a part of a file has for its members, in their order, and one of them. -/
abbrev Mark := List String × String

/-- The value behind a mark. -/
def follow (value : Value) (mark : Mark) : Option Value :=
  (Settings.members mark.1 value).bind fun found => found mark.2

/-- The value at the end of a path. -/
def lookUp (value : Value) (path : List Mark) : Option Value := path.foldlM follow value

/-- In the table of a whole document. -/
def part (name : String) : Mark := ([], name)

/-- In its part about the relay. -/
def ofRelay (name : String) : Mark :=
  (["endpoint", "user_agent", "connect_timeout", "ack_threshold", "reconnect", "flow_control"], name)

/-- In that about lost connections. -/
def ofReconnect (name : String) : Mark :=
  (["max_attempts", "initial_backoff", "max_backoff", "multiplier"], name)

/-- In its part about the listener. -/
def ofListener (name : String) : Mark := (["bind_addr", "accept_limit", "policy"], name)

/-- In that about what is reported. -/
def ofMonitoring (name : String) : Mark := (["log_level", "metrics_addr"], name)

/-- Where a file states it. -/
def path : Setting → List Mark
  | endpoint => [part "relay", ofRelay "endpoint"]
  | connectTimeout => [part "relay", ofRelay "connect_timeout"]
  | reconnectAttempts => [part "relay", ofRelay "reconnect", ofReconnect "max_attempts"]
  | bindAddress => [part "listener", ofListener "bind_addr"]
  | acceptLimit => [part "listener", ofListener "accept_limit"]
  | logLevel => [part "monitoring", ofMonitoring "log_level"]
  | metricsAddress => [part "monitoring", ofMonitoring "metrics_addr"]

/-- The value that it is given there. -/
def decode : (setting : Setting) → Settings.Decoder setting.Kind
  | endpoint | logLevel => Settings.decodeText
  | connectTimeout => Settings.decodeDuration
  | reconnectAttempts => Settings.decodeNumber (UInt32.size - 1)
  | bindAddress => Settings.decodeIn SocketAddress.ofText?
  | acceptLimit => Settings.decodeCount
  | metricsAddress => fun value => some <$> Settings.decodeIn SocketAddress.ofText? value

/-- The value that a file gives to it if the file states it. -/
def inFile? (bytes : Bytes) (setting : Setting) : Option setting.Kind := do
  let text ← Utf8.decode? bytes
  let entries ← Toml.read? text
  let value ← lookUp (.table entries) setting.path
  setting.decode value

variable {α β : Type} {value : Value}

/-- What a member comes to, seen through one of its own members: that one, or else the standard
    one. -/
theorem member_through {found : Settings.Members} {name : String} {standard a : α}
    {decode : Settings.Decoder α} (h : Settings.member found name standard decode = some a)
    (f : α → β) (inner : Value → Option β)
    (through : ∀ value a, decode value = some a → f a = (inner value).getD (f standard)) :
    f a = ((found name).bind inner).getD (f standard) := by
  unfold Settings.member at h
  cases stated : found name with
  | none =>
    rw [stated] at h
    cases h
    rfl
  | some value =>
    rw [stated] at h
    exact through value a h

/-- A member is what is stated of it, or else the standard value. -/
theorem member_eq {found : Settings.Members} {name : String} {standard a : α}
    {decode : Settings.Decoder α} (h : Settings.member found name standard decode = some a) :
    a = ((found name).bind decode).getD standard :=
  member_through h id decode fun value a decoded => by rw [decoded]; rfl

theorem decodeReconnect_maxAttempts {r : ReconnectSettings}
    (h : Settings.decodeReconnect value = some r) :
    r.maxAttempts = ((follow value (ofReconnect "max_attempts")).bind
      (Settings.decodeNumber (UInt32.size - 1))).getD ({} : ReconnectSettings).maxAttempts := by
  simp only [Settings.decodeReconnect, Option.bind_eq_bind, Option.bind_eq_some_iff,
    Option.pure_def, Option.some.injEq] at h
  obtain ⟨found, members, attempts, stated, initial, -, longest, -, factor, -, rfl⟩ := h
  rw [follow, ofReconnect, members, Option.bind_some]
  exact member_eq stated

theorem decodeRelay_members {r : RelaySettings} (h : Settings.decodeRelay value = some r) :
    r.endpoint = ((follow value (ofRelay "endpoint")).bind Settings.decodeText).getD
        ({} : RelaySettings).endpoint ∧
      r.connectTimeout = ((follow value (ofRelay "connect_timeout")).bind
        Settings.decodeDuration).getD ({} : RelaySettings).connectTimeout ∧
      r.reconnect.maxAttempts = ((follow value (ofRelay "reconnect")).bind fun value =>
        (follow value (ofReconnect "max_attempts")).bind
          (Settings.decodeNumber (UInt32.size - 1))).getD
        ({} : RelaySettings).reconnect.maxAttempts := by
  simp only [Settings.decodeRelay, Option.bind_eq_bind, Option.bind_eq_some_iff,
    Option.pure_def, Option.some.injEq] at h
  obtain ⟨found, members, endpoint, h1, agent, -, timeout, h2, threshold, -, reconnect, h3, flow, -,
    rfl⟩ := h
  simp only [follow, ofRelay, members, Option.bind_some]
  exact ⟨member_eq h1, member_eq h2,
    member_through h3 (·.maxAttempts) _ fun value r => decodeReconnect_maxAttempts⟩

theorem decodeListener_members {l : ListenerSettings}
    (h : Settings.decodeListener value = some l) :
    l.bindAddress = ((follow value (ofListener "bind_addr")).bind
        (Settings.decodeIn SocketAddress.ofText?)).getD ({} : ListenerSettings).bindAddress ∧
      l.acceptLimit = ((follow value (ofListener "accept_limit")).bind
        Settings.decodeCount).getD ({} : ListenerSettings).acceptLimit := by
  simp only [Settings.decodeListener, Option.bind_eq_bind, Option.bind_eq_some_iff,
    Option.pure_def, Option.some.injEq] at h
  obtain ⟨found, members, address, h1, limit, h2, policy, -, rfl⟩ := h
  simp only [follow, ofListener, members, Option.bind_some]
  exact ⟨member_eq h1, member_eq h2⟩

theorem decodeMonitoring_members {m : MonitoringSettings}
    (h : Settings.decodeMonitoring value = some m) :
    m.logLevel = ((follow value (ofMonitoring "log_level")).bind Settings.decodeText).getD
        ({} : MonitoringSettings).logLevel ∧
      m.metricsAddress = ((follow value (ofMonitoring "metrics_addr")).bind fun value =>
        some <$> Settings.decodeIn SocketAddress.ofText? value).getD
        ({} : MonitoringSettings).metricsAddress := by
  simp only [Settings.decodeMonitoring, Option.bind_eq_bind, Option.bind_eq_some_iff,
    Option.pure_def, Option.some.injEq] at h
  obtain ⟨found, members, level, h1, metrics, h2, rfl⟩ := h
  simp only [follow, ofMonitoring, members, Option.bind_some]
  exact ⟨member_eq h1, member_eq h2⟩

/-- In the settings of a document each setting has the value that the document states, or else
    the built-in one. -/
theorem get_ofDocument? {text : String} {s : Settings} (h : Settings.ofDocument? text = some s) :
    ∃ entries, Toml.read? text = some entries ∧ ∀ setting : Setting,
      setting.get s =
        ((lookUp (.table entries) setting.path).bind setting.decode).getD setting.standard := by
  simp only [Settings.ofDocument?, Option.bind_eq_bind, Option.bind_eq_some_iff,
    Option.pure_def, Option.some.injEq] at h
  obtain ⟨entries, read, relay, h1, listener, h2, target, -, monitoring, h3, rfl⟩ := h
  refine ⟨entries, read, fun setting => ?_⟩
  -- from each part of the document to its members
  have within {α : Type} (name : String) (mark : Mark) (decode : Value → Option α) :
      (lookUp (.table entries) [part name, mark]).bind decode =
        (Value.find? entries name).bind fun value => (follow value mark).bind decode := by
    have top : follow (.table entries) (part name) = Value.find? entries name := rfl
    simp [lookUp, top, Option.bind_assoc]
  have deeper : (lookUp (.table entries) reconnectAttempts.path).bind reconnectAttempts.decode =
      (Value.find? entries "relay").bind fun value =>
        (follow value (ofRelay "reconnect")).bind fun value =>
          (follow value (ofReconnect "max_attempts")).bind reconnectAttempts.decode := by
    have top : follow (.table entries) (part "relay") = Value.find? entries "relay" := rfl
    simp [path, lookUp, top, Option.bind_assoc]
  cases setting with
  | endpoint =>
    rw [path, within]
    exact member_through h1 (·.endpoint) _ fun value r h => (decodeRelay_members h).1
  | connectTimeout =>
    rw [path, within]
    exact member_through h1 (·.connectTimeout) _ fun value r h => (decodeRelay_members h).2.1
  | reconnectAttempts =>
    rw [deeper]
    exact member_through h1 (·.reconnect.maxAttempts) _
      fun value r h => (decodeRelay_members h).2.2
  | bindAddress =>
    rw [path, within]
    exact member_through h2 (·.bindAddress) _ fun value l h => (decodeListener_members h).1
  | acceptLimit =>
    rw [path, within]
    exact member_through h2 (·.acceptLimit) _ fun value l h => (decodeListener_members h).2
  | logLevel =>
    rw [path, within]
    exact member_through h3 (·.logLevel) _ fun value m h => (decodeMonitoring_members h).1
  | metricsAddress =>
    rw [path, within]
    exact member_through h3 (·.metricsAddress) _ fun value m h => (decodeMonitoring_members h).2

/-- So it is in the settings of a file. -/
theorem get_ofFile {file : String} {bytes : Bytes} {s : Settings}
    (accepted : Settings.ofFile file bytes = .ok s) (setting : Setting) :
    setting.get s = (inFile? bytes setting).getD setting.standard := by
  unfold Settings.ofFile at accepted
  split at accepted
  · cases accepted
  · rename_i text decoded
    split at accepted
    · cases accepted
    · rename_i stated
      split at accepted
      · cases accepted
      · cases accepted
        obtain ⟨entries, read, states⟩ := get_ofDocument? stated
        rw [states setting, inFile?, decoded]
        simp [read]

/-! ## The command line -/

/-- The value that a command line gives to it. -/
def given? (commandLine : CommandLine) : (setting : Setting) → Option setting.Kind
  | endpoint | connectTimeout | reconnectAttempts => none
  | bindAddress => commandLine.overrides.bind
  | acceptLimit => commandLine.overrides.acceptLimit
  | logLevel =>
    if commandLine.verbose then some LogLevel.debug.name else commandLine.overrides.logLevel
  | metricsAddress => commandLine.overrides.metricsAddress.map some

/-- What a command line makes of a value: a local port takes the place of the one in the bind
    address. -/
def settle (commandLine : CommandLine) : (setting : Setting) → setting.Kind → setting.Kind
  | bindAddress, address =>
    match commandLine.overrides.localPort with
    | some port => { address with port := port.toNat }
    | none => address
  | endpoint, a => a
  | connectTimeout, a => a
  | reconnectAttempts, a => a
  | acceptLimit, a => a
  | logLevel, a => a
  | metricsAddress, a => a

/-- Being verbose is about the log level and nothing else. -/
theorem allOverrides_frame (commandLine : CommandLine) :
    commandLine.allOverrides =
      { commandLine.overrides with logLevel := commandLine.allOverrides.logLevel } := by
  unfold CommandLine.allOverrides
  split <;> rfl

/-- Under the options of a command line each setting has the value that it gives, or else the
    one below. -/
theorem get_override {commandLine : CommandLine} {s s' : Settings}
    (accepted : s.override commandLine.allOverrides = (s', none)) (setting : Setting) :
    setting.get s' =
      setting.settle commandLine ((setting.given? commandLine).getD (setting.get s)) := by
  -- a target is no such setting
  have same : setting.get s' = setting.get
      { s with
        listener := commandLine.allOverrides.listener s.listener
        monitoring := commandLine.allOverrides.monitoring s.monitoring } := by
    unfold Settings.override at accepted
    dsimp only at accepted
    split at accepted
    · split at accepted
      · cases accepted
        cases setting <;> rfl
      · cases accepted
    · cases accepted
      rfl
  rw [same, allOverrides_frame]
  cases setting with
  | endpoint | connectTimeout | reconnectAttempts | bindAddress | acceptLimit => rfl
  | logLevel =>
    simp only [get, given?, settle, Overrides.monitoring, CommandLine.allOverrides]
    split <;> rfl
  | metricsAddress =>
    simp only [get, given?, settle, Overrides.monitoring]
    cases commandLine.overrides.metricsAddress <;> rfl

/-! ## All sources -/

/-- The value that the content of a file gives to it, if there is such a file. -/
def inContent? (content : Option (Except String Bytes)) (setting : Setting) :
    Option setting.Kind :=
  match content with
  | some (.ok bytes) => inFile? bytes setting
  | some (.error _) | none => none

/-- Its value by the rule that the program states about itself: that of the command line, or
    else of the file, or else of the environment, or else the built-in one. -/
def stated (commandLine : CommandLine) (environment : Environment)
    (content : Option (Except String Bytes)) (setting : Setting) : setting.Kind :=
  setting.settle commandLine
    ((((setting.given? commandLine).or (inContent? content setting)).or
      (inVariable? environment.text? setting)).getD setting.standard)

/-- Its value if the environment counted for nothing. -/
def withoutVariables (commandLine : CommandLine) (content : Option (Except String Bytes))
    (setting : Setting) : setting.Kind :=
  setting.settle commandLine
    (((setting.given? commandLine).or (inContent? content setting)).getD setting.standard)

/-- Where a variable has nothing to say the two agree. -/
theorem stated_eq {commandLine : CommandLine} {environment : Environment}
    {content : Option (Except String Bytes)} {setting : Setting}
    (decided : (setting.given? commandLine).isSome = true ∨
      (inContent? content setting).isSome = true ∨
      inVariable? environment.text? setting = none) :
    setting.stated commandLine environment content =
      setting.withoutVariables commandLine content := by
  unfold stated withoutVariables
  rcases decided with given | stated | unset
  · obtain ⟨a, given⟩ := Option.isSome_iff_exists.mp given
    rw [given]
    rfl
  · obtain ⟨a, stated⟩ := Option.isSome_iff_exists.mp stated
    cases given : setting.given? commandLine with
    | some => rfl
    | none =>
      rw [stated]
      rfl
  · rw [unset, Option.or_none]

/-- Below the command line a file counts, and without one the environment does. -/
theorem get_ofSources {file : String} {content : Option (Except String Bytes)}
    {environment : Environment} {s : Settings}
    (accepted : Settings.ofSources file content environment = .ok s) (setting : Setting) :
    setting.get s =
      (if content = none then inVariable? environment.text? setting
        else inContent? content setting).getD setting.standard := by
  match content with
  | none =>
    rw [if_pos rfl]
    exact get_ofVariables accepted setting
  | some (.error reason) => cases accepted
  | some (.ok bytes) =>
    rw [if_neg (by simp)]
    exact get_ofFile accepted setting

end Setting

namespace Startup

variable {commandLine : CommandLine} {environment : Environment}
  {content : Option (Except String Bytes)}

/-- A start that is accepted has taken the settings of all sources. -/
theorem sources_of_accepted
    (accepted : (ofCommandLine commandLine environment content).exitCode = 0) :
    ∃ below s, Settings.ofSources commandLine.configFile content environment = .ok below ∧
      below.override commandLine.allOverrides = (s, none) ∧
      ofCommandLine commandLine environment content = withSettings commandLine environment s := by
  unfold ofCommandLine at accepted ⊢
  cases sources : Settings.ofSources commandLine.configFile content environment with
  | error e =>
    rw [sources] at accepted
    cases accepted
  | ok below =>
    simp only [sources] at accepted ⊢
    rcases overridden : below.override commandLine.allOverrides with ⟨s, stopped⟩
    cases stopped with
    | none => exact ⟨below, s, rfl, overridden, rfl⟩
    | some e =>
      rw [overridden] at accepted
      cases accepted

/-- A start that can open a tunnel does so with its settings. -/
theorem settings_of_ready {s other : Settings} {entries : List LogEntry} {target : Target}
    {credential : Credential}
    (ready : withSettings commandLine environment s = .ready entries other target credential) :
    other = s := by
  unfold withSettings at ready
  dsimp only at ready
  split at ready
  · cases ready
  · cases ready
  · split at ready
    · cases ready
    · cases ready
      rfl

/-- Whatever is on the command line, in the environment and in the configuration file if there is
    one: a start that is accepted goes on with settings of which each has

    - without such a file the value by the rule that the program states about itself;
    - with such a file the value by that rule, but as if no variable were set;
    - so the value by that rule in any case unless a variable that is set is the only one that
      says something about it. -/
theorem settings_from_sources (surroundings : Surroundings Id) (commandLine : CommandLine)
    (taken : CommandLine.ofArguments surroundings.arguments = .ok commandLine)
    (accepted : (run surroundings).exitCode = 0) :
    let environment := surroundings.environment
    let content : Option (Except String Bytes) := surroundings.contentOf commandLine.configFile
    ∃ s, run surroundings = withSettings commandLine environment s ∧
      (∀ entries other target credential,
        run surroundings = .ready entries other target credential → other = s) ∧
      ∀ setting : Setting,
        (content = none → setting.get s = setting.stated commandLine environment content) ∧
        (content ≠ none → setting.get s = setting.withoutVariables commandLine content) ∧
        ((setting.given? commandLine).isSome = true ∨
            (setting.inContent? content).isSome = true ∨
            setting.inVariable? environment.text? = none →
          setting.get s = setting.stated commandLine environment content) := by
  intro environment content
  have same : run surroundings = ofCommandLine commandLine environment content := by
    simp only [run, taken]
    rfl
  rw [same] at accepted ⊢
  obtain ⟨below, s, sources, overridden, started⟩ := sources_of_accepted accepted
  refine ⟨s, started, fun entries other target credential ready => ?_, fun setting => ?_⟩
  · exact settings_of_ready (started ▸ ready)
  have value := Setting.get_override overridden setting
  rw [Setting.get_ofSources sources setting] at value
  have without : content = none →
      setting.get s = setting.stated commandLine environment content := by
    intro none
    rw [value, if_pos none, Setting.stated, none]
    cases setting.given? commandLine <;> rfl
  have within : content ≠ none →
      setting.get s = setting.withoutVariables commandLine content := by
    intro some
    rw [value, if_neg some, Setting.withoutVariables]
    cases setting.given? commandLine <;> rfl
  refine ⟨without, within, fun decided => ?_⟩
  by_cases none : content = none
  · exact without none
  · rw [within none, Setting.stated_eq decided]

/-- Beside a file an option counts and a variable does not. -/
theorem settings_from_sources_beside_file :
    let text := "[target]\nproject = \"p\"\nzone = \"z\"\ninstance = \"i\"\nport = 22\n"
    let surroundings : Surroundings Id :=
      { arguments := ["--accept-limit", "7"]
        environment := fun name =>
          if name = "IAPTUNNEL_ACCEPT_LIMIT" then some (Utf8.encode "9") else none
        contentOf := fun _ => some (.ok (Utf8.encode text)) }
    let commandLine : CommandLine := { overrides := { acceptLimit := some 7 } }
    CommandLine.ofArguments surroundings.arguments = .ok commandLine ∧
      (run surroundings).exitCode = 0 ∧
      ∃ s, run surroundings = withSettings commandLine surroundings.environment s ∧
        s.listener.acceptLimit = 7 ∧ s.relay.endpoint = Endpoint.standardBase := by
  intro text surroundings commandLine
  have taken : CommandLine.ofArguments surroundings.arguments = .ok commandLine := by
    have read : (CommandLine.ofArguments surroundings.arguments).toOption = some commandLine := by
      decide +kernel
    cases came : CommandLine.ofArguments surroundings.arguments with
    | error stop =>
      rw [came] at read
      cases read
    | ok other =>
      rw [came] at read
      cases read
      rfl
  have accepted : (run surroundings).exitCode = 0 := by decide +kernel
  obtain ⟨s, started, -, values⟩ := settings_from_sources surroundings commandLine taken accepted
  refine ⟨taken, accepted, s, started, ?_, ?_⟩
  · exact ((values .acceptLimit).2.1 (by simp [surroundings])).trans (by decide +kernel)
  · exact ((values .endpoint).2.1 (by simp [surroundings])).trans (by decide +kernel)

/-- A variable that is set is passed over although neither the command line nor the file says
    anything about its setting. -/
theorem file_hides_variable :
    let text := "[target]\nproject = \"p\"\nzone = \"z\"\ninstance = \"i\"\nport = 22\n"
    let surroundings : Surroundings Id :=
      { arguments := []
        environment := fun name =>
          if name = "IAPTUNNEL_RECONNECT_ATTEMPTS" then some (Utf8.encode "9") else none
        contentOf := fun _ => some (.ok (Utf8.encode text)) }
    Setting.stated {} surroundings.environment (surroundings.contentOf "iaptunnel.toml")
        .reconnectAttempts = (9 : Nat) ∧
      ∃ entries s target credential, run surroundings = .ready entries s target credential ∧
        s.relay.reconnect.maxAttempts = 5 := by
  intro text surroundings
  have attempts : (match run surroundings with
      | .ready _ s _ _ => s.relay.reconnect.maxAttempts == 5
      | _ => false) = true := by
    decide +kernel
  refine ⟨by decide +kernel, ?_⟩
  split at attempts
  next entries s target credential ready =>
    exact ⟨entries, s, target, credential, ready, by simpa using attempts⟩
  next => cases attempts

end Startup

end RelayTunnel
