import ScopedWork.Program.Op

/-! # Acts on the setting of the process

The setting is read, fixed or refused, and the pool and the root that are made from it are shown.
-/

namespace ScopedWork.Program

variable (system : System) (thread : ThreadId)

/-- A configuration with the answer whether it comes to the hardware's default. -/
def configReply (config : Setting.Config) : Reply :=
  .config config (config.effective system.setting.hardware == Setting.clamp system.setting.hardware)

/-- Every reader of the setting in turn, each compared with the hardware's default. -/
def seeHardware : HardwareSeen × System :=
  let expected := Setting.clamp system.setting.hardware
  let (concurrency, setting) := system.setting.concurrency
  let (config, system) := { system with setting }.readSetting
  let (pool, system) := system.getGlobalPool
  let (root, system) := system.getStandardRoot
  let rootConcurrency := (system.scope root).concurrency
  let (current, system) := system.currentConcurrency thread
  ({ concurrency := concurrency == expected
     config := config.concurrency == some expected
     pool := (system.pool pool).capacity == expected
     root := rootConcurrency == expected
     current := current == expected },
    system)

def SettingAct.perform : SettingAct → Reply × System
  | .setEnvironment text => (.ok, { system with setting := system.setting.setEnvironment text })
  | .fromEnvironment =>
    match system.setting.fromEnvironment with
    | .error refusal => (.refused refusal, system)
    | .ok config => (configReply system config, system)
  | .read =>
    let (config, system) := system.readSetting
    (configReply system config, system)
  | .fix choices =>
    match system.setting.fix (.ofChoices choices) with
    | .error refusal => (.refused refusal, system)
    | .ok setting => (.ok, { system with setting })
  | .reconfigure bound =>
    match system.setting.reconfigure bound with
    | .error refusal => (.refused refusal, system)
    | .ok setting => (.ok, { system with setting })
  | .concurrency =>
    let (bound, setting) := system.setting.concurrency
    (.number bound, { system with setting })
  | .hardware =>
    let (seen, system) := seeHardware system thread
    (.hardware seen, system)
  | .globalPool =>
    let (id, system) := system.getGlobalPool
    let (root, system) := system.getStandardRoot
    let pool := system.pool id
    (.globalPool pool.capacity pool.busy pool.spawned ((system.scope root).pool == id), system)
  | .standardRoot name =>
    if system.isTaken thread name then (.fault .nameInUse, system)
    else
      let (root, system) := system.getStandardRoot
      let (again, system) := system.getStandardRoot
      (.standardRoot root (system.scope root).concurrency (root == again),
        system.share name (.scope root))

end ScopedWork.Program
