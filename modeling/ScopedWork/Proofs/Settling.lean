import ScopedWork.Proofs.Fates

/-! # A process settles on one configuration

The first thing that has to do with the setting of a process fixes it, be it explicit, a look at the configuration,
or a look at the global pool or at the standard root, which is what a thread without a context has to do. Whatever
comes first, what comes later finds the same configuration, and the global pool and the standard root have as many
slots as it says.
-/

namespace ScopedWork

open Setting (Config Refusal)

/-- What can be done in a process that may have to do with its setting. -/
inductive SettingStep where
  | fix (config : Config)
  | read
  | concurrency
  | reconfigure (concurrency : Nat)
  | globalPool
  | standardRoot
  | enter (thread : ThreadId) (tenure : Tenure)
  | enterIn (thread : ThreadId) (parent : ScopeId) (tenure : Tenure)
  | setEnvironment (text : Option String)

/-- What is answered to it. -/
inductive SettingAnswer where
  | accepted
  | refused (refusal : Refusal)
  | config (config : Config)
  | number (value : Nat)
  | pool (pool : PoolId)
  | scope (scope : ScopeId)
  deriving DecidableEq

namespace System

/-- Puts a setting in force, unless that is refused. -/
def applySetting (system : System) : Except Refusal Setting.State → SettingAnswer × System
  | .ok setting => (.accepted, { system with setting })
  | .error refusal => (.refused refusal, system)

/-- Takes a step, and answers. -/
def settle (system : System) : SettingStep → SettingAnswer × System
  | .fix config => system.applySetting (system.setting.fix config)
  | .read => let (config, system) := system.readSetting; (.config config, system)
  | .concurrency => let (value, setting) := system.setting.concurrency; (.number value, { system with setting })
  | .reconfigure concurrency => system.applySetting (system.setting.reconfigure concurrency)
  | .globalPool => let (pool, system) := system.getGlobalPool; (.pool pool, system)
  | .standardRoot => let (root, system) := system.getStandardRoot; (.scope root, system)
  | .enter thread tenure => let (scope, system) := system.enter thread tenure; (.scope scope, system)
  | .enterIn thread parent tenure =>
    let (scope, system) := system.enterIn thread parent tenure
    (.scope scope, system)
  | .setEnvironment text => (.accepted, { system with setting := system.setting.setEnvironment text })

def settleAll (system : System) (steps : List SettingStep) : System :=
  steps.foldl (fun system step => (system.settle step).2) system

/-- Whether a step fixes or reads the setting. To enter a context does so if its thread has none and is given the
standard root. -/
def touches (system : System) : SettingStep → Bool
  | .fix _ | .read | .concurrency | .globalPool | .standardRoot => true
  | .enter thread _ => (system.stack thread).currentScope?.isNone && system.rootSource == .standard
  | .reconfigure _ | .enterIn .. | .setEnvironment _ => false

/-- The configuration that a step fixes if it is the first to have to do with the setting: the one it gives, or one
with the number that can be read off the environment, and in any case at most so many helpers as there may be, or
as many as the hardware suggests. -/
def settlesOn (system : System) : SettingStep → Config
  | .fix config =>
    { config with concurrency := some (min 65536 (config.concurrency.getD system.setting.hardware)) }
  | _ =>
    let asked := system.setting.environment.bind Setting.readWord?
    { concurrency := some (min 65536 (asked.getD system.setting.hardware)) }

/-- The configuration that a step fixes if it is the first to have to do with the setting, and if it has. -/
def settlement (system : System) (step : SettingStep) : Option Config :=
  if system.touches step then some (system.settlesOn step) else none

/-- The configuration on which a process settles in the course of steps, if it does. -/
def verdict (system : System) : List SettingStep → Option Config
  | [] => none
  | step :: rest => (system.settlement step).or ((system.settle step).2.verdict rest)

/-- What holds of a process that has settled on a configuration, or has not yet. -/
structure Coherent (system : System) (settled : Option Config) : Prop where
  fixed : system.setting.fixed = settled
  limit : ∀ config, settled = some config → ∃ value ≤ 65536, config.concurrency = some value
  pool : ∀ pool, system.globalPool = some pool → pool < system.pools.length ∧
    ∃ config, settled = some config ∧ config.concurrency = some (system.pool pool).capacity
  root : ∀ root, system.standardRoot = some root → root < system.scopes.length ∧
    system.globalPool = some (system.scope root).pool ∧
    ∃ config, settled = some config ∧ config.concurrency = some (system.scope root).concurrency

variable {system after : System} {settled : Option Config} {config : Config} {step : SettingStep}

/-! ## Reading -/

theorem settlesOn_limit (system : System) (step : SettingStep) :
    ∃ value ≤ 65536, (system.settlesOn step).concurrency = some value := by
  cases step <;> exact ⟨_, Nat.min_le_left _ _, rfl⟩

/-- A lazy reader takes the number of the environment, or the hardware's where there is none or nonsense. -/
theorem defaultConfig_eq (system : System) : system.setting.defaultConfig = system.settlesOn .read := by
  simp only [Setting.State.defaultConfig, Setting.State.fromEnvironment, Setting.readConcurrency, settlesOn,
    Nat.min_comm 65536]
  cases system.setting.environment with
  | none => rfl
  | some text =>
    dsimp only [Option.bind_some]
    cases Setting.readWord? text <;> rfl

theorem read_eq (process : Setting.State) :
    let config := process.fixed.getD process.defaultConfig
    process.read = (config, { process with fixed := some config }) := by
  obtain ⟨hardware, environment, stackBound, fixed⟩ := process
  cases fixed <;> rfl

namespace Coherent

/-- A process in which nothing is fixed or made is coherent. -/
theorem unsettled (unfixed : system.setting.fixed = none) (poolless : system.globalPool = none)
    (rootless : system.standardRoot = none) : system.Coherent none where
  fixed := unfixed
  limit _ same := absurd same.symm (Option.some_ne_none _)
  pool pool made := absurd (poolless.symm.trans made).symm (Option.some_ne_none pool)
  root root made := absurd (rootless.symm.trans made).symm (Option.some_ne_none root)

/-- The configuration that the next reader finds. -/
theorem readSetting (coherent : system.Coherent settled) :
    let config := settled.getD (system.settlesOn .read)
    system.readSetting = (config, { system with setting := { system.setting with fixed := some config } }) := by
  rw [System.readSetting, read_eq, coherent.fixed, defaultConfig_eq]

/-- Once a configuration is fixed, it stays. -/
theorem fix (coherent : system.Coherent settled) (limit : ∃ value ≤ 65536, config.concurrency = some value)
    (agrees : ∀ old, settled = some old → old = config) {setting : Setting.State}
    (fixed : setting.fixed = some config) :
    { system with setting }.Coherent (some config) where
  fixed := fixed
  limit _ same := Option.some.inj same ▸ limit
  pool pool made := by
    obtain ⟨bound, old, settled, slots⟩ := coherent.pool pool made
    exact ⟨bound, config, rfl, agrees old settled ▸ slots⟩
  root root made := by
    obtain ⟨bound, pool, old, settled, slots⟩ := coherent.root root made
    exact ⟨bound, pool, config, rfl, agrees old settled ▸ slots⟩

/-- The next reader's configuration is within the limit, and is the one that is settled if one is. -/
theorem next (coherent : system.Coherent settled) :
    let config := settled.getD (system.settlesOn .read)
    (∃ value ≤ 65536, config.concurrency = some value) ∧ ∀ old, settled = some old → old = config := by
  cases settled with
  | none => exact ⟨system.settlesOn_limit .read, fun old same => absurd same.symm (Option.some_ne_none old)⟩
  | some config => exact ⟨coherent.limit config rfl, fun old same => (Option.some.inj same).symm⟩

/-- Reading leaves the process coherent. -/
theorem read (coherent : system.Coherent settled) :
    system.readSetting.2.Coherent (some (settled.getD (system.settlesOn .read))) := by
  rw [coherent.readSetting]
  exact coherent.fix coherent.next.1 coherent.next.2 rfl

/-- A configuration with a number within the limit comes to that number. -/
theorem effective_eq {value : Nat} (limit : value ≤ 65536) (number : config.concurrency = some value)
    (hardware : Nat) : config.effective hardware = value := by
  rw [Setting.Config.effective, number, Option.getD_some, Setting.clamp]
  exact Nat.min_eq_left limit

theorem concurrency_eq (coherent : system.Coherent settled) {value : Nat} (limit : value ≤ 65536)
    (number : (settled.getD (system.settlesOn .read)).concurrency = some value) :
    system.setting.concurrency.1 = value := by
  change system.readSetting.1.effective system.readSetting.2.setting.hardware = value
  rw [coherent.readSetting]
  exact effective_eq limit number _

/-- Scopes that are added are not the standard root. -/
theorem addScope (coherent : system.Coherent settled) (record : Scope) :
    (system.addScope record).2.Coherent settled where
  fixed := coherent.fixed
  limit := coherent.limit
  pool := coherent.pool
  root root made := by
    obtain ⟨bound, rest⟩ := coherent.root root made
    have longer : (system.addScope record).2.scopes.length = system.scopes.length + 1 := List.length_append
    refine ⟨longer ▸ Nat.lt_succ_of_lt bound, ?_⟩
    rw [scope_addScope, if_neg (Nat.ne_of_lt bound)]
    exact rest

/-- A pool with as many slots as the configuration says can be the global pool, if there is none yet. -/
theorem addGlobalPool (coherent : system.Coherent (some config)) (missing : system.globalPool = none)
    {pool : Pool WorkId} (slots : config.concurrency = some pool.capacity) :
    { (system.addPool pool).2 with globalPool := some (system.addPool pool).1 }.Coherent (some config) where
  fixed := coherent.fixed
  limit := coherent.limit
  pool id made := by
    obtain rfl := Option.some.inj made
    have added : (system.addPool pool).2.pool system.pools.length = pool := by rw [pool_addPool, if_pos rfl]
    have longer : (system.addPool pool).2.pools.length = system.pools.length + 1 := List.length_append
    refine ⟨longer ▸ Nat.lt_succ_self _, config, rfl, slots.trans ?_⟩
    exact congrArg (fun pool => some pool.capacity) added.symm
  root root made := by
    obtain ⟨-, pool, -⟩ := coherent.root root made
    exact absurd (missing.symm.trans pool).symm (Option.some_ne_none _)

/-- The global pool has as many slots as the configuration says, and is always the same. -/
theorem getGlobalPool (coherent : system.Coherent settled) :
    system.getGlobalPool.2.globalPool = some system.getGlobalPool.1 ∧
      system.getGlobalPool.2.standardRoot = system.standardRoot ∧
      system.getGlobalPool.2.Coherent (some (settled.getD (system.settlesOn .read))) := by
  cases made : system.globalPool with
  | some pool =>
    have found : system.getGlobalPool = (pool, system) := by rw [System.getGlobalPool, made]
    obtain ⟨-, config, same, -⟩ := coherent.pool pool made
    rw [found]
    rw [same] at coherent ⊢
    exact ⟨made, rfl, coherent⟩
  | none =>
    obtain ⟨value, limit, number⟩ := coherent.next.1
    let read := system.readSetting
    let new := read.2.addPool (Pool.ofConfig
      (read.1.effective read.2.setting.hardware) read.1 read.2.setting.stackBound)
    have found : system.getGlobalPool = (new.1, { new.2 with globalPool := some new.1 }) := by
      rw [System.getGlobalPool, made]
      rfl
    have config : read.1 = settled.getD (system.settlesOn .read) := congrArg Prod.fst coherent.readSetting
    have missing : read.2.globalPool = none := made
    rw [found]
    refine ⟨rfl, rfl, coherent.read.addGlobalPool missing ?_⟩
    rw [Pool.ofConfig, Pool.capacity, List.length_replicate, config, number, effective_eq limit number]

/-- A root that keeps to the global pool can be the standard root. -/
theorem addStandardRoot (coherent : system.Coherent (some config)) {record : Scope}
    (shared : system.globalPool = some record.pool)
    (slots : config.concurrency = some record.concurrency) :
    { (system.addScope record).2 with standardRoot := some (system.addScope record).1 }.Coherent (some config) where
  fixed := coherent.fixed
  limit := coherent.limit
  pool := coherent.pool
  root root made := by
    obtain rfl := Option.some.inj made
    have added : (system.addScope record).2.scope system.scopes.length = record := by rw [scope_addScope, if_pos rfl]
    have longer : (system.addScope record).2.scopes.length = system.scopes.length + 1 := List.length_append
    refine ⟨longer ▸ Nat.lt_succ_self _, ?_, config, rfl, slots.trans ?_⟩
    · exact shared.trans (congrArg (fun record => some record.pool) added.symm)
    · exact congrArg (fun record => some record.concurrency) added.symm

/-- The standard root shares the global pool and has as many slots of it as the configuration says, and is always
the same. -/
theorem getStandardRoot (coherent : system.Coherent settled) :
    system.getStandardRoot.2.standardRoot = some system.getStandardRoot.1 ∧
      system.getStandardRoot.2.Coherent (some (settled.getD (system.settlesOn .read))) := by
  cases made : system.standardRoot with
  | some root =>
    obtain ⟨-, -, config, same, -⟩ := coherent.root root made
    rw [getStandardRoot_of_made made]
    rw [same] at coherent ⊢
    exact ⟨made, coherent⟩
  | none =>
    let fixed : System := { system with setting := system.setting.concurrency.2 }
    obtain ⟨value, limit, number⟩ := coherent.next.1
    obtain ⟨global, -, after⟩ := coherent.read.getGlobalPool
    obtain ⟨-, config, same, slots⟩ := after.pool _ global
    rw [getStandardRoot_of_missing made]
    refine ⟨rfl, after.addStandardRoot global ?_⟩
    obtain rfl := Option.some.inj same
    have capacity := Option.some.inj (number.symm.trans slots)
    refine number.trans (congrArg some ?_)
    change value = min system.setting.concurrency.1 (fixed.getGlobalPool.2.pool fixed.getGlobalPool.1).capacity
    rw [coherent.concurrency_eq limit number, capacity]
    exact (Nat.min_self _).symm

/-- What has nothing to do with the setting, the pools and the scopes does not matter. -/
theorem congr (coherent : system.Coherent settled) (setting : after.setting = system.setting)
    (pools : after.pools = system.pools) (scopes : after.scopes = system.scopes)
    (globalPool : after.globalPool = system.globalPool) (standardRoot : after.standardRoot = system.standardRoot) :
    after.Coherent settled := by
  obtain ⟨fixed, limit, pool, root⟩ := coherent
  constructor
  case fixed => rw [setting, fixed]
  case limit => exact limit
  case pool => simpa only [globalPool, pools, System.pool] using pool
  case root => simpa only [standardRoot, globalPool, scopes, System.scope] using root

/-- After a look at the setting somebody has settled. -/
theorem touched (coherent : system.Coherent (some (settled.getD config))) :
    system.Coherent (settled.or (some config)) := by
  rwa [Option.or_some]

theorem untouched (coherent : system.Coherent settled) : system.Coherent (settled.or none) := by
  rwa [Option.or_none]

/-- To look for the scope of a new context may make the standard root. -/
theorem enclosing (coherent : system.Coherent settled) (thread : ThreadId) (tenure : Tenure) :
    (system.enclosing thread).2.Coherent (settled.or (system.settlement (.enter thread tenure))) := by
  have asks : system.settlement (.enter thread tenure) =
      if (system.stack thread).currentScope?.isNone && system.rootSource == .standard then
        some (system.settlesOn .read) else none := rfl
  rw [asks, System.enclosing]
  cases (system.stack thread).currentScope? with
  | some scope => exact coherent.untouched
  | none =>
    obtain ⟨factories, found⟩ := system.supplyRoot_eq
    simp only [found, Option.isNone_none, Bool.true_and]
    have counted : ({ system with factories } : System).Coherent settled := coherent.congr rfl rfl rfl rfl rfl
    cases system.rootSource with
    | scope root => exact counted.untouched
    | fresh pool asked => exact (counted.addScope _).untouched
    | standard => exact counted.getStandardRoot.2.touched

/-- The first configuration that is given is accepted, if nobody has looked for one before. -/
theorem fix_first (coherent : system.Coherent none) : system.settle (.fix config) =
    (.accepted, { system with setting := { system.setting with fixed := some (system.settlesOn (.fix config)) } }) := by
  have cut : config.resolved system.setting.hardware = system.settlesOn (.fix config) := by
    rw [Setting.Config.resolved, Setting.Config.effective, Setting.clamp, settlesOn, Nat.min_comm]
    rfl
  rw [System.settle, Setting.State.fix, coherent.fixed, ← cut]
  rfl

/-- All others are refused. -/
theorem fix_later {old : Config} (coherent : system.Coherent (some old)) :
    system.settle (.fix config) = (.refused .alreadyFixed, system) := by
  rw [System.settle, Setting.State.fix, coherent.fixed]
  rfl

theorem accepts_iff (coherent : system.Coherent settled) (config : Config) :
    ((system.settle (.fix config)).1 = .accepted ↔ settled.isSome = false) ∧
      (settled.isSome = true → system.settle (.fix config) = (.refused .alreadyFixed, system)) := by
  cases settled with
  | none =>
    rw [coherent.fix_first]
    exact ⟨⟨fun _ => rfl, fun _ => rfl⟩, fun touched => absurd touched Bool.false_ne_true⟩
  | some old =>
    rw [coherent.fix_later]
    refine ⟨⟨fun accepted => ?_, fun untouched => ?_⟩, fun _ => rfl⟩
    · exact SettingAnswer.noConfusion accepted
    · exact Bool.noConfusion untouched

/-- A step settles the process if nothing has before, and it has to do with the setting. -/
theorem settle (coherent : system.Coherent settled) (step : SettingStep) :
    (system.settle step).2.Coherent (settled.or (system.settlement step)) := by
  cases step with
  | fix config =>
    cases settled with
    | none =>
      rw [coherent.fix_first]
      have agrees (old : Config) (same : none = some old) : old = system.settlesOn (.fix config) :=
        absurd same.symm (Option.some_ne_none old)
      exact coherent.fix (system.settlesOn_limit (.fix config)) agrees rfl
    | some old =>
      rw [coherent.fix_later]
      exact coherent
  | read => exact coherent.read.touched
  | concurrency => exact coherent.read.touched
  | globalPool => exact coherent.getGlobalPool.2.2.touched
  | standardRoot => exact coherent.getStandardRoot.2.touched
  | enter thread tenure =>
    have found := coherent.enclosing thread tenure
    exact (found.addScope _).congr rfl rfl rfl rfl rfl
  | enterIn thread parent tenure =>
    have entered : (system.settle (.enterIn thread parent tenure)).2.Coherent settled :=
      (coherent.addScope _).congr rfl rfl rfl rfl rfl
    exact entered.untouched
  | reconfigure bound => exact coherent.untouched
  | setEnvironment text =>
    have environment : (system.settle (.setEnvironment text)).2.Coherent settled :=
      ⟨coherent.fixed, coherent.limit, coherent.pool, coherent.root⟩
    exact environment.untouched

/-- Steps in order settle the process on the verdict, unless it has settled before. -/
theorem settleAll (coherent : system.Coherent settled) (steps : List SettingStep) :
    (system.settleAll steps).Coherent (settled.or (system.verdict steps)) := by
  induction steps generalizing system settled with
  | nil => exact coherent.untouched
  | cons step rest ih =>
    have after := ih (coherent.settle step)
    rwa [Option.or_assoc] at after

end Coherent

/-! ## What is made stays -/

/-- The global pool and the standard root of a process are still those of another. -/
structure Lasts (system after : System) : Prop where
  pool : ∀ pool, system.globalPool = some pool → after.globalPool = some pool
  root : ∀ root, system.standardRoot = some root → after.standardRoot = some root

namespace Lasts

theorem of_same (globalPool : after.globalPool = system.globalPool)
    (standardRoot : after.standardRoot = system.standardRoot) : system.Lasts after :=
  ⟨fun _ made => globalPool.trans made, fun _ made => standardRoot.trans made⟩

theorem trans {middle : System} (first : system.Lasts middle) (second : middle.Lasts after) : system.Lasts after :=
  ⟨fun pool made => second.pool pool (first.pool pool made),
    fun root made => second.root root (first.root root made)⟩

theorem getGlobalPool (system : System) : system.Lasts system.getGlobalPool.2 := by
  rw [System.getGlobalPool]
  split
  · exact .of_same rfl rfl
  · rename_i missing
    exact ⟨fun pool made => absurd (missing.symm.trans made) (Option.some_ne_none pool).symm, fun _ made => made⟩

theorem getStandardRoot (system : System) : system.Lasts system.getStandardRoot.2 := by
  cases made : system.standardRoot with
  | some root =>
    rw [getStandardRoot_of_made made]
    exact .of_same rfl rfl
  | none =>
    let fixed : System := { system with setting := system.setting.concurrency.2 }
    rw [getStandardRoot_of_missing made]
    exact ⟨(getGlobalPool fixed).pool,
      fun root same => absurd (made.symm.trans same) (Option.some_ne_none root).symm⟩

theorem enclosing (system : System) (thread : ThreadId) : system.Lasts (system.enclosing thread).2 := by
  rw [System.enclosing]
  split
  · exact .of_same rfl rfl
  · obtain ⟨factories, found⟩ := system.supplyRoot_eq
    rw [found]
    cases system.rootSource with
    | scope root => exact .of_same rfl rfl
    | fresh pool asked => exact .of_same rfl rfl
    | standard =>
      have counted : system.Lasts { system with factories } := .of_same rfl rfl
      exact counted.trans (getStandardRoot _)

theorem settle (system : System) (step : SettingStep) : system.Lasts (system.settle step).2 := by
  have apply (outcome : Except Refusal Setting.State) : system.Lasts (system.applySetting outcome).2 := by
    cases outcome <;> exact .of_same rfl rfl
  cases step with
  | fix config => exact apply _
  | reconfigure bound => exact apply _
  | globalPool => exact getGlobalPool system
  | standardRoot => exact getStandardRoot system
  | enter thread tenure => exact (enclosing system thread).trans (.of_same rfl rfl)
  | read | concurrency | enterIn | setEnvironment => exact .of_same rfl rfl

theorem settleAll (system : System) (steps : List SettingStep) : system.Lasts (system.settleAll steps) := by
  induction steps generalizing system with
  | nil => exact .of_same rfl rfl
  | cons step rest ih => exact (settle system step).trans (ih _)

end Lasts

/-! ## A whole sequence -/

theorem settleAll_append (system : System) (before after : List SettingStep) :
    system.settleAll (before ++ after) = (system.settleAll before).settleAll after :=
  List.foldl_append

theorem verdict_append (system : System) (before after : List SettingStep) :
    system.verdict (before ++ after) = (system.verdict before).or ((system.settleAll before).verdict after) := by
  induction before generalizing system with
  | nil => rfl
  | cons step rest ih =>
    rw [List.cons_append, verdict, verdict, ih, Option.or_assoc]
    rfl

/-- Whether one of several steps in order fixes or reads the setting. -/
def touchedBy (system : System) : List SettingStep → Bool
  | [] => false
  | step :: rest => system.touches step || (system.settle step).2.touchedBy rest

/-- A process settles with the first step that has to do with the setting, and with no other. -/
theorem isSome_verdict (system : System) (steps : List SettingStep) :
    (system.verdict steps).isSome = system.touchedBy steps := by
  induction steps generalizing system with
  | nil => rfl
  | cons step rest ih =>
    rw [verdict, touchedBy, Option.isSome_or, ih, settlement]
    cases system.touches step <;> rfl

end System

/-- What comes of several steps in a process in which nothing has had to do with the setting before. -/
structure System.SettlesOnce (system : System) (steps : List SettingStep) : Prop where
  /-- A configuration is accepted exactly if none of the steps before has had to do with the setting. -/
  fix : ∀ before config after, steps = before ++ .fix config :: after →
    (((system.settleAll before).settle (.fix config)).1 = .accepted ↔ system.touchedBy before = false) ∧
      (system.touchedBy before = true → (system.settleAll before).settle (.fix config) =
        (.refused .alreadyFixed, system.settleAll before))
  reconfigure : ∀ before bound after, steps = before ++ .reconfigure bound :: after →
    (system.settleAll before).settle (.reconfigure bound) = (.refused .alreadyFixed, system.settleAll before)
  /-- All readers see the configuration of the first step that has had to do with the setting. -/
  read : ∀ before after, steps = before ++ .read :: after → ∃ config, system.verdict steps = some config ∧
    ((system.settleAll before).settle .read).1 = .config config
  concurrency : ∀ before after, steps = before ++ .concurrency :: after →
    ∃ config value, system.verdict steps = some config ∧ config.concurrency = some value ∧
      ((system.settleAll before).settle .concurrency).1 = .number value
  limit : ∀ config, system.verdict steps = some config → ∃ value ≤ 65536, config.concurrency = some value
  globalPool : ∀ pool, (system.settleAll steps).globalPool = some pool → ∃ config,
    system.verdict steps = some config ∧ config.concurrency = some ((system.settleAll steps).pool pool).capacity
  standardRoot : ∀ root, (system.settleAll steps).standardRoot = some root → ∃ config,
    system.verdict steps = some config ∧
      config.concurrency = some ((system.settleAll steps).scope root).concurrency ∧
      (system.settleAll steps).globalPool = some ((system.settleAll steps).scope root).pool
  /-- All those who look for the global pool find the same. -/
  pools : ∀ before after, steps = before ++ .globalPool :: after → ∃ pool,
    (system.settleAll steps).globalPool = some pool ∧ ((system.settleAll before).settle .globalPool).1 = .pool pool
  /-- All those who look for the standard root find the same. -/
  roots : ∀ before after, steps = before ++ .standardRoot :: after → ∃ root,
    (system.settleAll steps).standardRoot = some root ∧
      ((system.settleAll before).settle .standardRoot).1 = .scope root

/-- Whatever is done in a process that nobody has settled yet, in whatever order: the first step that has to do with
the setting fixes it for all others, and for the pool and the root that are made from it. -/
theorem settles_once {system : System} (unfixed : system.setting.fixed = none) (poolless : system.globalPool = none)
    (rootless : system.standardRoot = none) (steps : List SettingStep) : system.SettlesOnce steps := by
  have settled (steps : List SettingStep) : (system.settleAll steps).Coherent (system.verdict steps) :=
    (System.Coherent.unsettled unfixed poolless rootless).settleAll steps
  -- what a step finds that looks for the configuration is what the whole sequence comes to
  have whole {before after : List SettingStep} {step : SettingStep} (split : steps = before ++ step :: after)
      (looks : (system.settleAll before).settlement step = some ((system.settleAll before).settlesOn .read)) :
      system.verdict steps = some ((system.verdict before).getD ((system.settleAll before).settlesOn .read)) := by
    rw [split, System.verdict_append, System.verdict, looks, Option.some_or, Option.or_some]
  have onward {before after : List SettingStep} {step : SettingStep} (split : steps = before ++ step :: after) :
      ((system.settleAll before).settle step).2.Lasts (system.settleAll steps) := by
    rw [split, System.settleAll_append]
    exact System.Lasts.settleAll _ after
  constructor
  case fix =>
    intro before config after split
    rw [← System.isSome_verdict]
    exact (settled before).accepts_iff config
  case reconfigure => exact fun before bound after split => rfl
  case read =>
    intro before after split
    refine ⟨_, whole split rfl, ?_⟩
    exact congrArg (fun found => SettingAnswer.config found.1) (settled before).readSetting
  case concurrency =>
    intro before after split
    obtain ⟨value, limit, number⟩ := (settled before).next.1
    refine ⟨_, value, whole split rfl, number, ?_⟩
    exact congrArg SettingAnswer.number ((settled before).concurrency_eq limit number)
  case limit => exact (settled steps).limit
  case globalPool => exact fun pool made => ((settled steps).pool pool made).2
  case standardRoot =>
    intro root made
    obtain ⟨-, shared, config, same, number⟩ := (settled steps).root root made
    exact ⟨config, same, number, shared⟩
  case pools =>
    intro before after split
    exact ⟨_, (onward split).pool _ (settled before).getGlobalPool.1, rfl⟩
  case roots =>
    intro before after split
    exact ⟨_, (onward split).root _ (settled before).getStandardRoot.1, rfl⟩

/-- A configuration is accepted after it has been tried to change it, and before a context is entered. -/
def fixedBeforeEntry : List SettingStep :=
  [.reconfigure 2, .setEnvironment (some "3"), .fix { concurrency := some 2, nameStem := "worker" },
    .enter 0 (.owned "outer"), .fix {}, .globalPool, .standardRoot, .concurrency]

theorem settles_once_fixedBeforeEntry :
    let first := System.initial { hardware := 1 }
    first.setting.fixed = none ∧ first.globalPool = none ∧ first.standardRoot = none ∧
      first.SettlesOnce fixedBeforeEntry ∧
      first.verdict fixedBeforeEntry = some { concurrency := some 2, nameStem := "worker" } ∧
      (first.settleAll fixedBeforeEntry).globalPool = some 0 ∧
      (first.settleAll fixedBeforeEntry).standardRoot = some 0 ∧
      ((first.settleAll fixedBeforeEntry).scope 1).concurrency = 2 :=
  ⟨rfl, rfl, rfl, settles_once rfl rfl rfl _, by decide, by decide, by decide, by decide⟩

end ScopedWork
