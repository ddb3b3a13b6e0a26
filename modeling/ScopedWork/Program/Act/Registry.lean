import ScopedWork.Program.Act.Scopes

/-! # Acts on the registry of root scopes

Factories are shared under a name. Registering one, or none, tells which one it displaced.
-/

namespace ScopedWork.Program

variable (system : System) (thread : ThreadId)

def FactorySpec.resolve : FactorySpec → Except Noun RootSource
  | .root name =>
    match system.scope? thread name with
    | none => .error .scope
    | some scope => .ok (.scope scope)
  | .fresh name bound =>
    match system.pool? name with
    | none => .error .pool
    | some pool => .ok (.fresh pool bound)
  | .standard => .ok .standard

def factoryName (factory : FactoryId) : String :=
  match system.factories[factory]? with
  | some factory => factory.name
  | none => ""

def RegistryAct.perform : RegistryAct → Reply × System
  | .factory name spec =>
    if system.isTaken thread name then (.fault .nameInUse, system)
    else
      match spec.resolve system thread with
      | .error noun => (.fault (.noSuch noun), system)
      | .ok source =>
        let (id, system) := system.addFactory { name, source }
        (.ok, system.share name (.factory id))
  | .register name =>
    match system.factory? name with
    | none => (.fault (.noSuch .factory), system)
    | some id =>
      let (displaced, changed) := system.register (some id)
      (.previous (displaced.map (factoryName system)), changed)
  | .unregister =>
    let (displaced, changed) := system.register none
    (.previous (displaced.map (factoryName system)), changed)
  | .isRegistered => (.flag system.registered.isSome, system)
  | .root =>
    let (scope, system) := system.supplyRoot
    (enteredReply system scope, system)
  | .lookups name =>
    match system.factory? name with
    | none => (.fault (.noSuch .factory), system)
    | some id => (.number ((system.factories[id]?).elim 0 (·.lookups)), system)

end ScopedWork.Program
