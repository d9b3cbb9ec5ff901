import RelayTunnel.Settings.Layer

/-!
# What options make of settings

Options can be combined at will. Some of them are about the same thing, like the local port and
the port of the bind address, and those about the target are taken together or not at all. `Item`
names everything that options are about once, with what options give for it and what it is in
settings. What options do to settings is then one equation about all items
(`Item.get?_overridden`), and nothing else in settings changes (`Overrides.override_frame`).
Settings are determined by their items and what no option is about (`Settings.eq_of_items`).
-/

namespace RelayTunnel

/-- Something in settings that options are about. -/
inductive Item where
  | project
  | zone
  | instanceName
  | port
  | networkInterface
  /-- The bind address without its port. -/
  | bindHost
  | bindPort
  | mode
  | acceptLimit
  | metricsAddress
  | logLevel
  deriving DecidableEq, Repr

namespace Item

/-- What it can be. -/
abbrev Kind : Item → Type
  | project | zone | instanceName | networkInterface | logLevel => String
  | port => UInt16
  | bindHost => IpAddress × Nat
  | bindPort => Nat
  | mode => AdmissionMode
  | acceptLimit => UInt64
  | metricsAddress => SocketAddress

/-- What options give for it. The local port comes before the port of a bind address. -/
def given? : (item : Item) → Overrides → Option item.Kind
  | project, o => o.project
  | zone, o => o.zone
  | instanceName, o => o.instanceName
  | port, o => o.port
  | networkInterface, o => o.networkInterface
  | bindHost, o => o.bind.map fun address => (address.ip, address.scope)
  | bindPort, o => (o.localPort.map UInt16.toNat).or (o.bind.map (·.port))
  | mode, o => if o.allowAll then some .allowAll else none
  | acceptLimit, o => o.acceptLimit
  | metricsAddress, o => o.metricsAddress
  | logLevel, o => o.logLevel

/-- What it is in settings, `none` where there is no target or no address for the metrics. -/
def get? : (item : Item) → Settings → Option item.Kind
  | project, s => s.target.map (·.project)
  | zone, s => s.target.map (·.zone)
  | instanceName, s => s.target.map (·.instanceName)
  | port, s => s.target.map (·.port)
  | networkInterface, s => s.target.map (·.networkInterface)
  | bindHost, s => some (s.listener.bindAddress.ip, s.listener.bindAddress.scope)
  | bindPort, s => some s.listener.bindAddress.port
  | mode, s => some s.listener.mode
  | acceptLimit, s => some s.listener.acceptLimit
  | metricsAddress, s => s.monitoring.metricsAddress
  | logLevel, s => some s.monitoring.logLevel

/-- The items of a target that it cannot do without, with the names of their options. -/
def required : List (String × Item) :=
  [("project", project), ("zone", zone), ("instance", instanceName), ("port", port)]

/-- The items of a target. -/
def ofTarget : List Item := [project, zone, instanceName, port, networkInterface]

/-- What it is in a new target where nothing is given for it. -/
def standard? : (item : Item) → Option item.Kind
  | networkInterface => some Target.standardInterface
  | project | zone | instanceName | port | bindHost | bindPort | mode | acceptLimit
  | metricsAddress | logLevel => none

theorem standard?_eq_none {item : Item} (other : item ≠ .networkInterface) :
    item.standard? = none := by
  cases item <;> first | rfl | exact absurd rfl other

end Item

/-- Settings are determined by their items and by what no option is about. -/
theorem Settings.eq_of_items {s s' : Settings} (relay : s.relay = s'.relay)
    (allow : s.listener.allow = s'.listener.allow)
    (items : ∀ item : Item, item.get? s = item.get? s') : s = s' := by
  have target : s.target = s'.target := by
    have project := items .project
    have zone := items .zone
    have instanceName := items .instanceName
    have port := items .port
    have networkInterface := items .networkInterface
    simp only [Item.get?] at project zone instanceName port networkInterface
    cases before : s.target with
    | none =>
      rw [before] at project
      exact (Option.map_eq_none_iff.mp project.symm).symm
    | some t =>
      cases after : s'.target with
      | none => simp [before, after] at project
      | some t' =>
        simp only [before, after, Option.map_some, Option.some.injEq] at *
        cases t
        cases t'
        simp_all
  have host := items .bindHost
  have port := items .bindPort
  have mode := items .mode
  have limit := items .acceptLimit
  have metrics := items .metricsAddress
  have level := items .logLevel
  simp only [Item.get?, Option.some.injEq, Prod.mk.injEq] at host port mode limit metrics level
  rcases s with ⟨_, ⟨⟨_, _, _⟩, _, _, _⟩, _, ⟨_, _⟩⟩
  rcases s' with ⟨_, ⟨⟨_, _, _⟩, _, _, _⟩, _, ⟨_, _⟩⟩
  simp_all

namespace Overrides

open Item (required ofTarget)

variable {o : Overrides} {s s' : Settings} {base : Option Target} {e : SettingsError}

/-! ## The target -/

/-- The first of the options that a new target needs and that are not given. -/
def missing? (o : Overrides) : Option String :=
  (required.find? fun entry => (entry.2.given? o).isNone).map (·.1)

theorem missing?_ne_none :
    o.missing? ≠ none ↔ ∃ entry ∈ required, entry.2.given? o = none := by
  simp [missing?]

theorem namesTarget_iff : o.namesTarget = true ↔ ∃ item ∈ ofTarget, item.given? o ≠ none := by
  simp [namesTarget, ofTarget, Item.given?, Option.ne_none_iff_isSome, or_assoc]

/-- Below options for a configured target lies that target. -/
theorem target_some (o : Overrides) (base : Target) :
    o.target (some base) = .ok {
      project := o.project.getD base.project
      zone := o.zone.getD base.zone
      instanceName := o.instanceName.getD base.instanceName
      port := o.port.getD base.port
      networkInterface := o.networkInterface.getD base.networkInterface } := by
  simp only [target, pick, Option.map_some, Option.or_some]
  rfl

/-- Without a configured target, the options that a target needs are asked for in their order. -/
theorem target_none_of_missing {option : String} (missing : o.missing? = some option) :
    o.target none = .error (.missing option) := by
  rcases o with ⟨project, zone, instanceName, port⟩
  cases project with
  | none => cases missing; rfl
  | some project =>
    cases zone with
    | none => cases missing; rfl
    | some zone =>
      cases instanceName with
      | none => cases missing; rfl
      | some instanceName =>
        cases port with
        | none => cases missing; rfl
        | some port => cases missing

/-- With all of them there is a target. -/
theorem target_none_of_complete (complete : o.missing? = none) :
    ∃ project zone instanceName port,
      o.project = some project ∧ o.zone = some zone ∧ o.instanceName = some instanceName ∧
        o.port = some port ∧
        o.target none = .ok {
          project, zone, instanceName, port
          networkInterface := o.networkInterface.getD Target.standardInterface } := by
  have given : ∀ entry ∈ required, (entry.2.given? o).isSome = true := by
    simpa [missing?, Option.isSome_iff_ne_none] using complete
  simp only [required, List.forall_mem_cons, Item.given?, Option.isSome_iff_exists] at given
  obtain ⟨⟨project, h1⟩, ⟨zone, h2⟩, ⟨instanceName, h3⟩, ⟨port, h4⟩, -⟩ := given
  refine ⟨project, zone, instanceName, port, h1, h2, h3, h4, ?_⟩
  simp only [target, pick, h1, h2, h3, h4, Option.map_none, Option.or_none]
  rfl

/-! ## All settings -/

/-- What is not about the target does not depend on whether a target can be made, and what no
    option is about stays as it is. -/
theorem override_frame (s : Settings) (o : Overrides) :
    (s.override o).1 = {
      s with
      listener := o.listener s.listener
      monitoring := o.monitoring s.monitoring
      target := (s.override o).1.target } := by
  unfold Settings.override
  dsimp only
  split
  · split <;> rfl
  · rfl

/-- Options cannot be taken only if they would have to make a new target and one that it needs is
    missing. -/
theorem override_eq_some :
    (s.override o).2 = some e ↔
      (o.namesTarget = true ∧ s.target = none) ∧
        ∃ option, o.missing? = some option ∧ e = .missing option := by
  unfold Settings.override
  dsimp only
  by_cases named : o.namesTarget = true
  · rw [if_pos named]
    cases s.target with
    | some base => simp [target_some]
    | none =>
      cases missing : o.missing? with
      | some option => simp [target_none_of_missing missing, named, eq_comm]
      | none =>
        obtain ⟨_, _, _, _, -, -, -, -, made⟩ := target_none_of_complete missing
        simp [made]
  · simp [named]

/-- Then there is no target, as before. -/
theorem override_target_of_stopped (stopped : (s.override o).2 = some e) :
    (s.override o).1.target = none := by
  unfold Settings.override at stopped ⊢
  dsimp only at stopped ⊢
  split at stopped
  · rename_i named
    rw [if_pos named]
    cases made : o.target s.target with
    | ok t =>
      rw [made] at stopped
      cases stopped
    | error e => rfl
  · cases stopped

/-- If options are taken, they say nothing about the target and leave it alone, or make one. -/
theorem override_target (taken : (s.override o).2 = none) :
    o.namesTarget = false ∧ (s.override o).1.target = s.target ∨
      o.namesTarget = true ∧
        ∃ t, o.target s.target = .ok t ∧ (s.override o).1.target = some t := by
  unfold Settings.override at taken ⊢
  dsimp only at taken ⊢
  split at taken
  · rename_i named
    rw [if_pos named]
    cases made : o.target s.target with
    | ok t => exact .inr ⟨named, t, rfl, rfl⟩
    | error e =>
      rw [made] at taken
      cases taken
  · rename_i unnamed
    rw [if_neg unnamed]
    exact .inl ⟨Bool.eq_false_iff.mpr unnamed, rfl⟩

/-- Options cannot be taken exactly if they give something for the target, none is configured and
    one of those that it needs is not given. -/
theorem stopped_iff :
    (∃ e, (s.override o).2 = some e) ↔
      (∃ item ∈ ofTarget, item.given? o ≠ none) ∧ s.target = none ∧
        ∃ entry ∈ required, entry.2.given? o = none := by
  rw [← namesTarget_iff, ← missing?_ne_none]
  simp only [override_eq_some]
  constructor
  · rintro ⟨e, ⟨named, absent⟩, option, missing, -⟩
    exact ⟨named, absent, by simp [missing]⟩
  · rintro ⟨named, absent, lacks⟩
    obtain ⟨option, missing⟩ := Option.ne_none_iff_exists'.mp lacks
    exact ⟨_, ⟨named, absent⟩, option, missing, rfl⟩

/-- A configured target is never lost, and options for it are always taken. -/
theorem taken_of_configured (configured : s.target ≠ none) :
    (s.override o).2 = none ∧ (s.override o).1.target ≠ none := by
  have taken : (s.override o).2 = none := by
    cases stopped : (s.override o).2 with
    | none => rfl
    | some e => exact absurd (override_eq_some.mp stopped).1.2 configured
  refine ⟨taken, ?_⟩
  rcases override_target taken with ⟨-, same⟩ | ⟨-, t, -, made⟩
  · rwa [same]
  · simp [made]

end Overrides

namespace Item

variable {o : Overrides} {s : Settings}

/-- An item that is not one of the target is what options give for it, or else what it was. -/
theorem get?_of_not_mem {item : Item} (other : item ∉ ofTarget) (s : Settings) (o : Overrides) :
    item.get? (s.override o).1 = (item.given? o).or (item.get? s) := by
  rw [o.override_frame s]
  cases item with
  | project | zone | instanceName | port | networkInterface => simp [ofTarget] at other
  | bindHost =>
    simp only [get?, given?, Overrides.listener]
    cases o.bind <;> cases o.localPort <;> rfl
  | bindPort =>
    simp only [get?, given?, Overrides.listener]
    cases o.bind <;> cases o.localPort <;> rfl
  | mode =>
    simp only [get?, given?, Overrides.listener]
    split <;> rfl
  | acceptLimit =>
    simp only [get?, given?, Overrides.listener]
    cases o.acceptLimit <;> rfl
  | metricsAddress => rfl
  | logLevel =>
    simp only [get?, given?, Overrides.monitoring]
    cases o.logLevel <;> rfl

theorem given?_eq_none (unnamed : o.namesTarget = false) {item : Item} (mine : item ∈ ofTarget) :
    item.given? o = none := by
  cases given : item.given? o with
  | none => rfl
  | some value =>
    have said : item.given? o ≠ none := by simp [given]
    have named := Overrides.namesTarget_iff.mpr ⟨item, mine, said⟩
    rw [unnamed] at named
    cases named

/-- If options are taken, an item of the target is what they give for it, or else what it was, or
    else what it is in a new target. -/
theorem get?_of_mem {item : Item} (mine : item ∈ ofTarget) (taken : (s.override o).2 = none) :
    item.get? (s.override o).1 =
      ((item.given? o).or (item.get? s)).or (if o.namesTarget then item.standard? else none) := by
  rcases Overrides.override_target taken with ⟨unnamed, same⟩ | ⟨named, t, made, same⟩
  · rw [given?_eq_none unnamed mine, unnamed]
    simp only [ofTarget, List.mem_cons, List.not_mem_nil, or_false] at mine
    rcases mine with rfl | rfl | rfl | rfl | rfl <;> simp [get?, same]
  · rw [named, if_pos rfl]
    simp only [ofTarget, List.mem_cons, List.not_mem_nil, or_false] at mine
    cases before : s.target with
    | some base =>
      rw [before, Overrides.target_some] at made
      cases made
      rcases mine with rfl | rfl | rfl | rfl | rfl <;> simp [get?, given?, standard?, same, before]
    | none =>
      rw [before] at made
      cases missing : o.missing? with
      | some option =>
        rw [Overrides.target_none_of_missing missing] at made
        cases made
      | none =>
        obtain ⟨project, zone, instanceName, port, h1, h2, h3, h4, complete⟩ :=
          Overrides.target_none_of_complete missing
        rw [complete] at made
        cases made
        rcases mine with rfl | rfl | rfl | rfl | rfl <;>
          simp [get?, given?, standard?, same, before, h1, h2, h3, h4]

/-- So is every item. -/
theorem get?_overridden (taken : (s.override o).2 = none) (item : Item) :
    item.get? (s.override o).1 =
      ((item.given? o).or (item.get? s)).or (if o.namesTarget then item.standard? else none) := by
  by_cases mine : item ∈ ofTarget
  · exact get?_of_mem mine taken
  · have other : item ≠ .networkInterface := fun same => mine (by simp [same, ofTarget])
    rw [get?_of_not_mem mine, standard?_eq_none other, ite_self, Option.or_none]

/-- What is given is in effect. -/
theorem get?_of_given {item : Item} {value : item.Kind} (taken : (s.override o).2 = none)
    (given : item.given? o = some value) : item.get? (s.override o).1 = some value := by
  rw [get?_overridden taken, given]
  rfl

/-- What is not given is what it was, apart from the interface of a new target. -/
theorem get?_of_not_given {item : Item} (taken : (s.override o).2 = none)
    (nothing : item.given? o = none) (kept : item ≠ .networkInterface ∨ s.target ≠ none) :
    item.get? (s.override o).1 = item.get? s := by
  rw [get?_overridden taken, nothing, Option.none_or]
  by_cases interface : item = .networkInterface
  · obtain ⟨t, configured⟩ :=
      Option.ne_none_iff_exists'.mp (kept.resolve_left (not_not_intro interface))
    subst interface
    simp [get?, configured]
  · rw [standard?_eq_none interface, ite_self, Option.or_none]

/-- That interface is the standard one. -/
theorem networkInterface_of_new {target : Target} (taken : (s.override o).2 = none)
    (nothing : o.networkInterface = none) (absent : s.target = none)
    (made : (s.override o).1.target = some target) :
    target.networkInterface = Target.standardInterface := by
  have now := get?_overridden taken .networkInterface
  simp only [get?, given?, standard?, nothing, absent, made, Option.map_some, Option.map_none,
    Option.none_or] at now
  split at now
  · exact Option.some.inj now
  · cases now

end Item

namespace Settings

open Item (required ofTarget)

/-- Options that were taken are taken again, and change nothing. -/
theorem override_override {s : Settings} {o : Overrides} (taken : (s.override o).2 = none) :
    (s.override o).1.override o = ((s.override o).1, none) := by
  have again : ((s.override o).1.override o).2 = none := by
    cases stopped : ((s.override o).1.override o).2 with
    | none => rfl
    | some e =>
      obtain ⟨⟨named, absent⟩, -⟩ := Overrides.override_eq_some.mp stopped
      rcases Overrides.override_target taken with ⟨unnamed, -⟩ | ⟨-, t, -, made⟩
      · rw [named] at unnamed
        cases unnamed
      · rw [absent] at made
        cases made
  have same : ((s.override o).1.override o).1 = (s.override o).1 := by
    apply eq_of_items
    · rw [o.override_frame (s.override o).1]
    · rw [o.override_frame (s.override o).1]
      rfl
    · intro item
      rw [Item.get?_overridden again, Item.get?_overridden taken]
      cases item.given? o <;> cases item.get? s <;> simp
  exact Prod.ext same again

/-- Options cannot be taken exactly if they give something for the target, none is configured and
    one of those that it needs is not given; the error names the first of these. Even then all
    that is not about the target is taken, and there is no target, as before: one that is
    configured is never lost. Options that are taken are all in effect. What they do not give is
    what it was, the interface of a new target apart, which is the standard one. What no option is
    about does not change, and taking the same options again changes nothing. -/
theorem options_in_effect (s : Settings) (o : Overrides) :
    let s' := (s.override o).1
    let stopped := (s.override o).2
    ((∃ e, stopped = some e) ↔
        (∃ item ∈ ofTarget, item.given? o ≠ none) ∧ s.target = none ∧
          ∃ entry ∈ required, entry.2.given? o = none) ∧
      (∀ e, stopped = some e →
        s'.target = none ∧ ∃ option, o.missing? = some option ∧ e = .missing option) ∧
      (s'.relay = s.relay ∧ s'.listener.allow = s.listener.allow ∧
        ∀ item ∉ ofTarget, item.get? s' = (item.given? o).or (item.get? s)) ∧
      (s.target ≠ none → stopped = none ∧ s'.target ≠ none) ∧
      (stopped = none →
        (∀ (item : Item) value, item.given? o = some value → item.get? s' = some value) ∧
        (∀ item : Item, item.given? o = none → item ≠ .networkInterface ∨ s.target ≠ none →
          item.get? s' = item.get? s) ∧
        (o.networkInterface = none → s.target = none →
          ∀ target, s'.target = some target → target.networkInterface = "nic0") ∧
        s'.override o = (s', none)) := by
  intro s' stopped
  refine ⟨Overrides.stopped_iff, fun e stop => ?_, ⟨?_, ?_, fun item other => ?_⟩,
    Overrides.taken_of_configured, fun taken => ⟨fun item value => Item.get?_of_given taken,
      fun item => Item.get?_of_not_given taken, fun nothing absent target =>
        Item.networkInterface_of_new taken nothing absent, override_override taken⟩⟩
  · exact ⟨Overrides.override_target_of_stopped stop, (Overrides.override_eq_some.mp stop).2⟩
  · rw [show s' = _ from o.override_frame s]
  · rw [show s' = _ from o.override_frame s]
    rfl
  · exact Item.get?_of_not_mem other s o

/-- The port of a configured target is replaced and its interface kept, and the local port comes
    before the one of the bind address. -/
theorem options_in_effect_partial_target :
    let s : Settings := { target := some ⟨"p", "z", "vm", 22, "nic1"⟩ }
    let o : Overrides :=
      { port := some 2222, bind := some ⟨.localhost, 1080, 0⟩, localPort := some 9000 }
    let s' := (s.override o).1
    s.target ≠ none ∧ (s.override o).2 = none ∧
      Item.port.get? s' = some 2222 ∧ Item.networkInterface.get? s' = some "nic1" ∧
      Item.bindHost.get? s' = some (.localhost, 0) ∧ Item.bindPort.get? s' = some 9000 ∧
      s'.override o = (s', none) := by
  intro s o s'
  have configured : s.target ≠ none := by simp [s]
  obtain ⟨-, -, -, kept, effect⟩ := options_in_effect s o
  obtain ⟨taken, -⟩ := kept configured
  obtain ⟨given, others, -, again⟩ := effect taken
  exact ⟨configured, taken, given .port _ rfl,
    others .networkInterface rfl (.inr configured), given .bindHost _ rfl,
    given .bindPort _ rfl, again⟩

end Settings

end RelayTunnel
