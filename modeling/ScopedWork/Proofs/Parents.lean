import ScopedWork.Proofs.Strides

/-! # The scopes in which contexts are entered

A context that is entered is nested in the nearest scope on the stack, whatever other contexts stand above that scope.
A thread without a scope is given a root, by the factory that has been registered last, if it has been neither replaced
nor unregistered since, and else by the factory of the process. Whoever asks for the concurrency of a context that would
be entered is told that of the same scope.
-/

namespace ScopedWork

def Pace.registers? (pace : Pace) : Option (Option FactoryId) :=
  match pace.stride with
  | .act (.register factory) => some factory
  | .registry _ (.register name) => (pace.before.factory? name).map some
  | .registry _ .unregister => some none
  | _ => none

/-- The factory of the latest registration, if that is not one of none. -/
def lastRegistered (history : List Pace) : Option FactoryId :=
  (history.findSome? Pace.registers?).join

/-- The factory that is registered has been registered at some moment, and neither replaced nor unregistered since. -/
theorem lastRegistered_eq_some {history : List Pace} {id : FactoryId} : lastRegistered history = some id ↔
    ∃ later pace earlier, history = later ++ pace :: earlier ∧ pace.registers? = some (some id) ∧
      ∀ other ∈ later, other.registers? = none := by
  rw [lastRegistered, Option.join_eq_some_iff, List.findSome?_eq_some_iff]

/-- The factories after a root has been asked of one of them, or of none. -/
def Factory.asking (asked : Option FactoryId) (factories : List Factory) : List Factory :=
  match asked with
  | none => factories
  | some id => factories.modify id fun factory => { factory with lookups := factory.lookups + 1 }

def AreForeign (contexts : List Context) : Prop :=
  ∀ context ∈ contexts, context.capability ≠ .scope

namespace System

variable {system after : System} {events : List Event} {thread id : ThreadId} {scope parent : ScopeId}
  {setting : Setting.State} {history : List Pace} {stride : Stride} {tenure : Tenure}

/-! ## Which factory is registered -/

theorem registered_follow (regular : system.Regular) (admitted : system.Admits stride) :
    (system.follow stride).registered = (Pace.registers? ⟨system, stride⟩).getD system.registered := by
  have of_desk {after : System} (same : after.desk = system.desk) : after.registered = system.registered :=
    congrArg Prod.fst same
  cases stride with
  | act action =>
    by_cases registers : ∃ factory, action = .register factory
    · obtain ⟨factory, rfl⟩ := registers
      rfl
    · have other (factory : Option FactoryId) : action ≠ .register factory :=
        fun same => registers ⟨factory, same⟩
      obtain ⟨events, sound⟩ := regular.sound
      have kept := of_desk (desk_perform sound admitted other)
      cases action with
      | register factory => exact (other factory rfl).elim
      | _ => exact kept
  | edit => rfl
  | stack thread act =>
    have restacks := system.restacks thread act
    change (act.perform system thread).2.registered = system.registered
    generalize (act.perform system thread).2 = after at restacks
    cases restacks <;> rfl
  | registry thread act =>
    change (act.perform system thread).2.registered = _
    cases act with
    | factory name spec =>
      simp only [Program.RegistryAct.perform]
      split_ifs
      · rfl
      · split <;> rfl
    | register name =>
      simp only [Program.RegistryAct.perform, Pace.registers?]
      cases system.factory? name <;> rfl
    | unregister | isRegistered => rfl
    | root => exact of_desk (desk_supplyRoot system)
    | lookups name =>
      simp only [Program.RegistryAct.perform]
      split <;> rfl
  | ask thread => exact of_desk (desk_enclosing system thread)

theorem registered_eq (reached : Proceeds (.initial setting) history system) :
    system.registered = lastRegistered history := by
  induction reached with
  | start => rfl
  | @step history system stride reached admitted ih =>
    rw [registered_follow (reached.regular (regular_initial setting)) admitted, ih, lastRegistered, lastRegistered,
      List.findSome?_cons]
    cases Pace.registers? ⟨system, stride⟩ <;> rfl

/-! ## The choice -/

/-- How the scope is chosen in which a thread would enter a context: which factory is asked for a root, if one is, and
what the process is like once the scope is found. -/
inductive Chooses (system : System) (registered : Option FactoryId) (thread : ThreadId) :
    (asked : Option FactoryId) → (parent : ScopeId) → (looked : System) → Prop
  /-- The nearest scope, below contexts of other kinds. -/
  | nearest {above below : List Context} {scope : ScopeId}
    (frames : (system.stack thread).frames = above ++ .scope scope :: below) (foreign : AreForeign above) :
    Chooses system registered thread none scope system
  | registered {id : FactoryId} {factory : Factory} (foreign : AreForeign (system.stack thread).frames)
    (same : registered = some id) (found : system.factories[id]? = some factory) :
    Chooses system registered thread (some id) ((system.countLookup id).rootFrom factory.source).1
      ((system.countLookup id).rootFrom factory.source).2
  /-- The root of the process, as there is no factory that is registered. -/
  | standard (foreign : AreForeign (system.stack thread).frames)
    (unregistered : ∀ id, registered = some id → system.factories[id]? = none) :
    Chooses system registered thread none system.getStandardRoot.1 system.getStandardRoot.2

/-- The nearest scope stands below contexts of other kinds. -/
theorem frames_of_currentScope? {stack : Stack} (current : stack.currentScope? = some scope) :
    ∃ above below, stack.frames = above ++ .scope scope :: below ∧ AreForeign above := by
  obtain ⟨above, context, below, frames, found, others⟩ := List.findSome?_eq_some_iff.mp current
  refine ⟨above, below, ?_, fun other member => ?_⟩
  · cases context with
    | scope id => rw [frames, Option.some.inj found]
    | object => exact absurd found.symm (Option.some_ne_none scope)
  · cases other with
    | scope id => exact absurd (others _ member) (Option.some_ne_none id)
    | object => exact Capability.noConfusion

theorem foreign_of_currentScope? {stack : Stack} (current : stack.currentScope? = none) : AreForeign stack.frames := by
  intro context member
  cases context with
  | scope id => exact absurd (List.findSome?_eq_none_iff.mp current _ member) (Option.some_ne_none id)
  | object => exact Capability.noConfusion

theorem chooses (system : System) (thread : ThreadId) : ∃ asked,
    system.Chooses system.registered thread asked (system.enclosing thread).1 (system.enclosing thread).2 := by
  rw [enclosing]
  cases current : (system.stack thread).currentScope? with
  | some scope =>
    obtain ⟨above, below, frames, foreign⟩ := frames_of_currentScope? current
    exact ⟨none, .nearest frames foreign⟩
  | none =>
    have foreign := foreign_of_currentScope? current
    dsimp only
    rw [supplyRoot]
    cases same : system.registered with
    | none => exact ⟨none, .standard foreign fun id same => absurd same.symm (Option.some_ne_none id)⟩
    | some id =>
      rw [Option.bind_some]
      cases found : system.factories[id]? with
      | none => exact ⟨none, .standard foreign fun other same => Option.some.inj same ▸ found⟩
      | some factory => exact ⟨some id, .registered foreign rfl found⟩

/-! ## Whom a root is asked of -/

theorem factories_rootFrom (source : RootSource) : (system.rootFrom source).2.factories = system.factories := by
  have pooled (system : System) : system.getGlobalPool.2.factories = system.factories := by
    rw [getGlobalPool]
    split <;> rfl
  cases source with
  | scope | fresh => rfl
  | standard =>
    rw [rootFrom, getStandardRoot]
    split
    · rfl
    · exact pooled _

/-- Only the factory that is asked counts that, and it counts it once. -/
theorem Chooses.factories {registered asked : Option FactoryId} {looked : System}
    (chooses : system.Chooses registered thread asked parent looked) :
    looked.factories = Factory.asking asked system.factories := by
  cases chooses with
  | nearest => rfl
  | registered => exact factories_rootFrom _
  | standard => exact factories_rootFrom .standard

theorem rootSource_eq (system : System) : system.rootSource =
    (system.registered.bind fun id => (system.factories[id]?).map Factory.source).getD .standard := by
  rw [rootSource]
  cases system.registered with
  | none => rfl
  | some id =>
    rw [Option.bind_some, Option.bind_some]
    cases system.factories[id]? <;> rfl

theorem source_asking (asked : Option FactoryId) (factories : List Factory) (id : FactoryId) :
    ((Factory.asking asked factories)[id]?).map Factory.source = (factories[id]?).map Factory.source := by
  cases asked with
  | none => rfl
  | some other =>
    rw [Factory.asking, List.getElem?_modify]
    cases factories[id]? with
    | none => rfl
    | some factory =>
      rw [Option.map_eq_map, Option.map_some, Option.map_some, Option.map_some]
      split_ifs <;> rfl

/-- Whoever looks for a root leaves it to the same source as before. -/
theorem rootSource_enclosing (system : System) (thread : ThreadId) :
    (system.enclosing thread).2.rootSource = system.rootSource := by
  obtain ⟨asked, chooses⟩ := system.chooses thread
  have registered : (system.enclosing thread).2.registered = system.registered :=
    congrArg Prod.fst (desk_enclosing system thread)
  rw [rootSource_eq, rootSource_eq, registered, chooses.factories]
  simp only [source_asking]

/-! ## What is found when looking again -/

theorem standardRoot_getStandardRoot (system : System) :
    system.getStandardRoot.2.standardRoot = some system.getStandardRoot.1 := by
  rw [getStandardRoot]
  split
  · rename_i made
    exact made
  · rfl

/-- A source that supplies a root twice supplies the same, or one with the same number. -/
theorem concurrency_rootFrom (system : System) (source : RootSource) (factories : List Factory) :
    let made := system.rootFrom source
    let again := ({ made.2 with factories } : System).rootFrom source
    (again.2.scope again.1).concurrency = (made.2.scope made.1).concurrency := by
  intro made again
  cases source with
  | scope root => rfl
  | fresh pool concurrency =>
    let root : Scope := .root pool (system.pool pool).capacity concurrency
    have first : made.2.scope made.1 = root := by
      change ((system.scopes ++ [root])[system.scopes.length]?).getD default = root
      rw [List.getElem?_concat_length, Option.getD_some]
    have second : again.2.scope again.1 = root := by
      change ((made.2.scopes ++ [root])[made.2.scopes.length]?).getD default = root
      rw [List.getElem?_concat_length, Option.getD_some]
    rw [first, second]
  | standard =>
    have same : again = (made.1, { made.2 with factories }) :=
      @getStandardRoot_of_made { made.2 with factories } made.1 (standardRoot_getStandardRoot system)
    rw [same]
    rfl

/-- A thread that looks twice for the scope of a new context is told the same concurrency. -/
theorem concurrency_enclosing (system : System) (thread : ThreadId) :
    let looked := (system.enclosing thread).2
    ((looked.enclosing thread).2.scope (looked.enclosing thread).1).concurrency =
      (looked.scope (system.enclosing thread).1).concurrency := by
  intro looked
  have stack : looked.stack thread = system.stack thread :=
    congrArg Thread.stack (thread_of_threads (quiet_enclosing thread).threads thread)
  have source := system.rootSource_enclosing thread
  cases current : (system.stack thread).currentScope? with
  | some scope =>
    have found : system.enclosing thread = (scope, system) := by rw [enclosing, current]
    have again : looked.enclosing thread = (scope, looked) := by rw [enclosing, stack, current]
    rw [again, found]
  | none =>
    have found : system.enclosing thread = system.supplyRoot := by rw [enclosing, current]
    have again : looked.enclosing thread = looked.supplyRoot := by rw [enclosing, stack, current]
    obtain ⟨before, supplied⟩ := system.supplyRoot_eq
    obtain ⟨after, suppliedAgain⟩ := looked.supplyRoot_eq
    rw [again, suppliedAgain, source]
    simp only [looked, found, supplied]
    exact concurrency_rootFrom _ _ _

/-! ## The context that is entered -/

/-- What a thread has done that has entered a context in a scope, with the process as it was once the scope was found:
the context has the pool of the scope and the concurrency that the scope has now, and stands on top. -/
structure Enters (system : System) (thread : ThreadId) (parent : ScopeId) (looked after : System) : Prop where
  born : after.scopes = looked.scopes ++ [{
    parent := some parent
    within := (system.activation thread).within
    pool := (looked.scope parent).pool
    concurrency := (looked.scope parent).concurrency
    state := .accepting
    dispatched := 0
    completed := 0
    pooled := 0
    inlined := 0
    suppressed := 0
    firstFailure := none }]
  older : system.scopes <+: looked.scopes
  frames : (after.stack thread).frames = .scope looked.scopes.length :: (system.stack thread).frames
  apart : ∀ id, id ≠ thread → after.thread id = system.thread id
  factories : after.factories = looked.factories

theorem enters (enabled : system.Enabled (.enter thread tenure)) : system.Enters thread (system.enclosing thread).1
    (system.enclosing thread).2 (system.perform (.enter thread tenure)) := by
  have same (id : ThreadId) : (system.enclosing thread).2.thread id = system.thread id :=
    thread_of_threads (quiet_enclosing thread).threads id
  obtain ⟨activation, outer, chain⟩ := chain_of_isRunning enabled.1
  have view (id : ThreadId) : (system.perform (.enter thread tenure)).thread id = _ :=
    thread_of_modify (active_of_chain ((congrArg Thread.activations (same thread)).trans chain))
      (threads_enterIn (system.enclosing thread).2 thread (system.enclosing thread).1 tenure) id
  refine ⟨?_, ⟨_, (scopes_enclosing system thread).symm⟩, ?_, fun id other => ?_, rfl⟩
  · have within : (system.enclosing thread).2.activation thread = system.activation thread := by
      rw [System.activation, same, System.activation]
    rw [← within]
    rfl
  · rw [System.stack, view, if_pos rfl, same]
    rfl
  · rw [view, if_neg other, same]

theorem concurrency_enter (system : System) (thread : ThreadId) (tenure : Tenure) :
    ((system.enter thread tenure).2.scope (system.enter thread tenure).1).concurrency =
      ((system.enclosing thread).2.scope (system.enclosing thread).1).concurrency := by
  let looked := (system.enclosing thread).2
  let child := (looked.scope (system.enclosing thread).1).child (system.enclosing thread).1
    (looked.activation thread).within
  change (((looked.scopes ++ [child])[looked.scopes.length]?).getD default).concurrency = _
  rw [List.getElem?_concat_length]
  rfl

/-! ## Every run -/

/-- What a thread makes of the scope that it chooses, and of the process once that is found. -/
structure Adopts (system : System) (thread : ThreadId) (asked : Option FactoryId) (parent : ScopeId)
    (looked : System) : Prop where
  /-- Nobody else is asked for a root, and nobody twice. -/
  asked : looked.factories = Factory.asking asked system.factories
  enters (tenure : Tenure) : system.Admits (.act (.enter thread tenure)) →
    system.Enters thread parent looked (system.follow (.act (.enter thread tenure)))
  /-- It is told the concurrency of the same scope. -/
  told : system.currentConcurrency thread = ((looked.scope parent).concurrency, looked)
  /-- That is the concurrency of the context that it enters next. -/
  next (tenure : Tenure) : ((looked.enter thread tenure).2.scope (looked.enter thread tenure).1).concurrency =
    (looked.scope parent).concurrency

/-- How the threads of a process with a history choose the scopes in which they enter contexts, and what whoever changes
the registered factory is given back. -/
structure ChoosesParents (system : System) (history : List Pace) : Prop where
  adopts (thread : ThreadId) : ∃ asked parent looked,
    system.Chooses (lastRegistered history) thread asked parent looked ∧
      system.Adopts thread asked parent looked
  displaces (factory : Option FactoryId) :
    system.register factory = (lastRegistered history, { system with registered := factory })
  registers (thread : ThreadId) {name : String} {id : FactoryId} : system.factory? name = some id →
    Program.RegistryAct.perform system thread (.register name) =
      (.previous ((lastRegistered history).map (Program.factoryName system)), { system with registered := some id })
  unregisters (thread : ThreadId) : Program.RegistryAct.perform system thread .unregister =
    (.previous ((lastRegistered history).map (Program.factoryName system)), { system with registered := none })

end System

/-- In every run a context is entered in the nearest scope of the thread's stack, and then no factory is asked; only a
thread without a scope is given a root, by the factory registered last if that still stands, which is asked once. -/
theorem parents_chosen {setting : Setting.State} {history : List Pace} {system : System}
    (reached : Proceeds (.initial setting) history system) : system.ChoosesParents history := by
  have registered := System.registered_eq reached
  refine ⟨fun thread => ?_, fun factory => ?_, fun thread name id found => ?_, fun thread => ?_⟩
  · obtain ⟨asked, chooses⟩ := system.chooses thread
    refine ⟨asked, _, _, registered ▸ chooses, chooses.factories, fun tenure => System.enters, rfl,
      fun tenure => ?_⟩
    exact (System.concurrency_enter _ thread tenure).trans (System.concurrency_enclosing system thread)
  · rw [System.register, registered]
  · simp only [Program.RegistryAct.perform, found, System.register, registered]
  · simp only [Program.RegistryAct.perform, System.register, registered]

/-- A factory is registered in the place of another, and a context of another kind stands on the stack. -/
def rootedAnew : List Stride :=
  [.act (.makePool 2 {}), .act (.makeRoot 0 2), .act (.makeRoot 0 1),
    .act (.makeFactory { name := "f", source := .scope 0 }), .act (.makeFactory { name := "g", source := .scope 1 }),
    .act (.register (some 0)), .act (.register (some 1)), .edit 0 (.push (.object .marker "m"))]

/-- The first context is entered in the root of the factory that is registered, and a second one within the first. -/
theorem parents_chosen_rootedAnew :
    let first := System.initial { hardware := 1 }
    let system := first.followAll rootedAnew
    let entered := system.follow (.act (.enter 0 (.owned "c")))
    let nested := (entered.follow (.edit 0 (.push (.object .locale "l")))).follow (.act (.enter 0 (.owned "d")))
    Proceeds first (first.paces [] rootedAnew) system ∧ system.ChoosesParents (first.paces [] rootedAnew) ∧
      lastRegistered (first.paces [] rootedAnew) = some 1 ∧
      (entered.scope 2).parent = some 1 ∧ entered.factories.map Factory.lookups = [0, 1] ∧
      (nested.scope 3).parent = some 2 ∧ nested.factories.map Factory.lookups = [0, 1] := by
  have admitted : (System.initial { hardware := 1 }).admits rootedAnew = true := by decide
  have reached := Proceeds.start.followAll admitted
  exact ⟨reached, parents_chosen reached, by decide, by decide, by decide, by decide, by decide⟩

end ScopedWork
