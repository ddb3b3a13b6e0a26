import ScopedWork.Proofs.Inheritance

/-! # What an action does to each scope

An action is about one scope at most, and what it does to a scope that is there is a function of the action
and of the process in which it is taken. An action that enters a context or makes a root adds scopes after
all that are there.
-/

namespace ScopedWork

namespace System

variable {system : System} {events : List Event} {action : Action} {thread : ThreadId} {id : ScopeId}

def currentLogic? (system : System) (thread : ThreadId) : Option ScopeId :=
  (system.currentWork? thread).bind fun work => match (system.work work).kind with
    | .logic scope => some scope
    | .job => none

/-- Whether the end of the work that a thread's innermost activation runs was unwound. -/
def isUnwound (system : System) (thread : ThreadId) : Bool :=
  (system.currentWork? thread).any fun work => (system.work work).unwound

/-- A scope to which a logic has been submitted, and which has found a lease for it or has not. -/
def submitted (system : System) (record : Scope) : Scope :=
  match (system.acquire record.pool record.concurrency).1 with
  | .error _ => record.countDispatched
  | .ok none => record.countDispatched.countInlined
  | .ok (some _) => record.countDispatched.countPooled

/-- What an action makes of the scope of a number. -/
def fate (system : System) (action : Action) (id : ScopeId) (record : Scope) : Scope :=
  match action with
  | .reduce scope concurrency => if scope = id then record.reduce concurrency else record
  | .submit _ scope => if scope = id then system.submitted record else record
  | .beginExit _ scope | .beginDrop _ scope => if scope = id then record.drain else record
  | .leave thread => if (system.activation thread).leaves id then record.close.2 else record
  | .endLogic thread outcome => if system.currentLogic? thread = some id then record.record outcome else record
  | .complete thread =>
    if system.currentLogic? thread = some id then record.countOver (system.isUnwound thread) else record
  | _ => record

/-- Where the root comes from that a thread without a scope is given. -/
def rootSource (system : System) : RootSource :=
  match system.registered.bind fun id => (system.factories[id]?).map fun found => (id, found) with
  | some (_, factory) => factory.source
  | none => .standard

/-- The standard root, as it is made when it is first asked for. -/
def newStandardRoot (system : System) : Scope :=
  let fixed : System := { system with setting := system.setting.concurrency.2 }
  .root fixed.getGlobalPool.1 (fixed.getGlobalPool.2.pool fixed.getGlobalPool.1).capacity system.setting.concurrency.1

/-- The root that is made for a thread that looks for the scope of a new context, if one is made. -/
def suppliedRoot? (system : System) (thread : ThreadId) : Option Scope :=
  if (system.stack thread).currentScope?.isSome then none
  else match system.rootSource with
    | .scope _ => none
    | .fresh pool concurrency => some (.root pool (system.pool pool).capacity concurrency)
    | .standard => if system.standardRoot.isSome then none else some system.newStandardRoot

def births (system : System) : Action → List Scope
  | .enter thread _ =>
    let (parent, looked) := system.enclosing thread
    (system.suppliedRoot? thread).toList ++ [(looked.scope parent).child parent (system.activation thread).within]
  | .enterIn thread parent _ => [(system.scope parent).child parent (system.activation thread).within]
  | .makeRoot pool concurrency => [.root pool (system.pool pool).capacity concurrency]
  | _ => []

/-! ## Scopes that are added -/

/-- To look for a root is to count that in a factory, at most, and then to find the root where it comes from. -/
theorem supplyRoot_eq (system : System) :
    ∃ factories, system.supplyRoot = ({ system with factories } : System).rootFrom system.rootSource := by
  rw [supplyRoot, rootSource]
  cases system.registered.bind fun id => (system.factories[id]?).map fun found => (id, found) with
  | none => exact ⟨system.factories, rfl⟩
  | some found => exact ⟨(system.countLookup found.1).factories, rfl⟩

theorem newStandardRoot_factories (system : System) (factories : List Factory) :
    ({ system with factories } : System).newStandardRoot = system.newStandardRoot := by
  simp only [newStandardRoot, getGlobalPool]
  cases system.globalPool <;> rfl

/-- The standard root is made over the global pool, with the number that the setting gives. -/
theorem getStandardRoot_of_missing (missing : system.standardRoot = none) :
    let fixed : System := { system with setting := system.setting.concurrency.2 }
    let made := fixed.getGlobalPool.2.newRoot fixed.getGlobalPool.1 system.setting.concurrency.1
    system.getStandardRoot = (made.1, { made.2 with standardRoot := some made.1 }) := by
  rw [getStandardRoot]
  split
  · rename_i root made
    exact absurd (made.symm.trans missing) (Option.some_ne_none root)
  · rfl

theorem getStandardRoot_of_made (made : system.standardRoot = some id) : system.getStandardRoot = (id, system) := by
  rw [getStandardRoot, made]

theorem scopes_getStandardRoot (system : System) : system.getStandardRoot.2.scopes = system.scopes ++
    (if system.standardRoot.isSome then none else some system.newStandardRoot).toList := by
  cases made : system.standardRoot with
  | some root =>
    rw [getStandardRoot_of_made made]
    exact (List.append_nil _).symm
  | none =>
    let fixed : System := { system with setting := system.setting.concurrency.2 }
    have same : fixed.getGlobalPool.2.scopes = system.scopes := scopes_getGlobalPool
    rw [getStandardRoot_of_missing made]
    exact congrArg (· ++ [system.newStandardRoot]) same

/-- To find the scope for a new context makes at most a root. -/
theorem scopes_enclosing (system : System) (thread : ThreadId) :
    (system.enclosing thread).2.scopes = system.scopes ++ (system.suppliedRoot? thread).toList := by
  rw [enclosing, suppliedRoot?]
  cases (system.stack thread).currentScope? with
  | some scope => exact (List.append_nil _).symm
  | none =>
    obtain ⟨factories, supplied⟩ := system.supplyRoot_eq
    simp only [supplied, Option.isSome_none, Bool.false_eq_true, ↓reduceIte]
    cases system.rootSource with
    | scope root => exact (List.append_nil _).symm
    | fresh pool concurrency => rfl
    | standard =>
      have made := ({ system with factories } : System).scopes_getStandardRoot
      rwa [newStandardRoot_factories] at made

theorem scopes_enterIn (system : System) (thread : ThreadId) (parent : ScopeId) (tenure : Tenure) :
    (system.enterIn thread parent tenure).2.scopes =
      system.scopes ++ [(system.scope parent).child parent (system.activation thread).within] :=
  rfl

theorem scope_enclosing (bound : id < system.scopes.length) :
    (system.enclosing thread).2.scope id = system.scope id := by
  rw [scope, scopes_enclosing, List.getElem?_append_left bound]
  rfl

theorem scope_enterIn (bound : id < system.scopes.length) (parent : ScopeId) (tenure : Tenure) :
    (system.enterIn thread parent tenure).2.scope id = system.scope id := by
  rw [scope, scopes_enterIn, List.getElem?_append_left bound]
  rfl

/-- The scopes that are there after an action and were not before are those that it adds. -/
theorem births_perform (sound : system.picture.Sound events) (enabled : system.Enabled action) :
    (system.perform action).scopes.drop system.scopes.length = system.births action := by
  have none_new (bounds : (system.perform action).scopes.map Scope.bounds = system.scopes.map Scope.bounds) :
      (system.perform action).scopes.drop system.scopes.length = [] := by
    have length := congrArg List.length bounds
    rw [List.length_map, List.length_map] at length
    exact List.drop_eq_nil_of_le (Nat.le_of_eq length)
  cases action with
  | enter thread tenure =>
    have within : (system.enclosing thread).2.activation thread = system.activation thread := by
      rw [activation, thread_of_threads (quiet_enclosing thread).threads]
      rfl
    have added : (system.perform (.enter thread tenure)).scopes = (system.enclosing thread).2.scopes ++
        [((system.enclosing thread).2.scope (system.enclosing thread).1).child (system.enclosing thread).1
          ((system.enclosing thread).2.activation thread).within] := rfl
    rw [added, scopes_enclosing, within, List.append_assoc, List.drop_left]
    rfl
  | enterIn thread parent tenure => exact List.drop_left
  | makeRoot pool concurrency => exact List.drop_left
  | reduce scope concurrency => exact List.drop_eq_nil_of_le (Nat.le_of_eq (List.length_modify _ _ _))
  | submit thread scope => exact none_new (bounds_submit thread scope)
  | beginExit thread scope | beginDrop thread scope => exact none_new (bounds_modifyScope scope Scope.bounds_drain)
  | leave thread => exact none_new (bounds_leave sound enabled)
  | endLogic thread outcome => exact none_new (bounds_endLogic thread outcome)
  | complete thread => exact none_new (bounds_complete thread)
  | attach | detach | acquire | dropLease | passLease | dispatch | free | endJob | vacate | next | die | makePool
  | dropPool | bar | makeFactory | reroute | register | configure | start | finish =>
    exact none_new (congrArg (List.map Scope.bounds) (scopes_of_spares rfl))

theorem length_perform (sound : system.picture.Sound events) (enabled : system.Enabled action) :
    (system.perform action).scopes.length = system.scopes.length + (system.births action).length := by
  have more := (moves_perform sound enabled).length_le
  rw [← births_perform sound enabled, List.length_drop]
  omega

/-- A scope that was not there before is one that is added, or is not there yet. -/
theorem scope_born (sound : system.picture.Sound events) (enabled : system.Enabled action)
    (new : system.scopes.length ≤ id) :
    (system.perform action).scope id = ((system.births action)[id - system.scopes.length]?).getD default := by
  rw [← births_perform sound enabled, List.getElem?_drop, Nat.add_sub_cancel' new]
  rfl

/-- A scope that is added has no logics yet. -/
theorem fresh_of_mem_births {record : Scope} (born : record ∈ system.births action) :
    ∃ parent within pool concurrency, record = { parent, within, pool, concurrency } := by
  cases action with
  | enter thread tenure =>
    rcases List.mem_append.mp born with root | child
    · have made := Option.mem_toList.mp root
      simp only [suppliedRoot?] at made
      split_ifs at made <;> split at made <;> first | exact absurd made.symm (Option.some_ne_none _) | skip
      all_goals
        obtain rfl := Option.some.inj made
        exact ⟨none, none, _, _, rfl⟩
    · obtain rfl := List.mem_singleton.mp child
      exact ⟨_, _, _, _, rfl⟩
  | enterIn thread parent tenure =>
    obtain rfl := List.mem_singleton.mp born
    exact ⟨_, _, _, _, rfl⟩
  | makeRoot pool concurrency =>
    obtain rfl := List.mem_singleton.mp born
    exact ⟨none, none, _, _, rfl⟩
  | reduce | submit | beginExit | beginDrop | leave | attach | detach | acquire | dropLease | passLease | dispatch
  | free | endLogic | endJob | vacate | complete | next | die | makePool | dropPool | bar | makeFactory | reroute
  | register | configure | start | finish => exact absurd born List.not_mem_nil

/-- A scope that was not there before has no logics yet, whether it is there now or not. -/
theorem scope_fresh (sound : system.picture.Sound events) (enabled : system.Enabled action)
    (new : system.scopes.length ≤ id) :
    ∃ parent within pool concurrency, (system.perform action).scope id = { parent, within, pool, concurrency } := by
  rw [scope_born sound enabled new]
  cases born : (system.births action)[id - system.scopes.length]? with
  | none => exact ⟨none, none, 0, 0, rfl⟩
  | some record => exact fresh_of_mem_births (List.mem_of_getElem? born)

/-! ## Scopes that are there -/

/-- A change of one scope is seen at it, if it is there, and nowhere else. -/
private theorem scope_changed (bound : id < system.scopes.length) (scope : ScopeId) (change : Scope → Scope) :
    (system.modifyScope scope change).scope id = if scope = id then change (system.scope id) else system.scope id := by
  rw [scope_modifyScope]
  by_cases here : scope = id
  · rw [if_pos ⟨here.symm, here ▸ bound⟩, if_pos here]
  · rw [if_neg fun both => here both.1.symm, if_neg here]

private theorem scope_of_scopes {after : System} (same : after.scopes = system.scopes) :
    after.scope id = system.scope id := by
  rw [scope, scope, same]

/-- Whether a slot is had does not depend on what a scope has counted. -/
private theorem acquire_modifyScope (system : System) (scope : ScopeId) (change : Scope → Scope) (pool : PoolId)
    (limit : Nat) : ((system.modifyScope scope change).acquire pool limit).1 = (system.acquire pool limit).1 := by
  cases tried : (system.pool pool).tryAcquire limit system.threads.length with
  | mk acquired changed =>
    have same : ((system.modifyScope scope change).pool pool).tryAcquire limit
        (system.modifyScope scope change).threads.length = (acquired, changed) := tried
    simp only [acquire, tried, same]
    split
    · rfl
    · rfl
    · split <;> rfl

theorem scope_submit (bound : id < system.scopes.length) (scope : ScopeId) :
    (system.submit thread scope).2.scope id =
      if scope = id then system.submitted (system.scope id) else system.scope id := by
  let counted := system.modifyScope scope Scope.countDispatched
  have asked := system.acquire_modifyScope scope Scope.countDispatched (system.scope scope).pool
    (system.scope scope).concurrency
  have scopes := scopes_of_backdrop
    (@backdrop_acquire counted (system.scope scope).pool (system.scope scope).concurrency)
  have once : counted.scope id = if scope = id then (system.scope id).countDispatched else system.scope id :=
    scope_changed bound scope _
  have twice {granted : System} (scopes : granted.scopes = counted.scopes) (change : Scope → Scope) :
      (granted.modifyScope scope change).scope id =
        if scope = id then change (system.scope id).countDispatched else system.scope id := by
    have inside : id < granted.scopes.length := by
      rw [scopes]
      exact Nat.lt_of_lt_of_eq bound (List.length_modify _ _ _).symm
    rw [scope_changed inside, scope_of_scopes scopes, once]
    split_ifs <;> rfl
  simp only [submit]
  split <;> rename_i found <;> simp only [found] at asked scopes
  case' h_1 => rw [scope_of_scopes scopes, once]
  case' h_2 =>
    refine (scope_of_scopes (scopes_of_backdrop (backdrop_handOver _ _ _ _))).trans ?_
    refine (twice scopes Scope.countPooled).trans ?_
  case' h_3 =>
    refine (scope_of_scopes (scopes_of_backdrop (backdrop_beginWork _ _ _))).trans ?_
    refine (twice scopes Scope.countInlined).trans ?_
  all_goals
    split_ifs with here
    · subst here
      simp only [submitted, ← asked]
    · rfl

/-- What becomes of a scope in one action, whoever takes it. -/
theorem scope_perform (sound : system.picture.Sound events) (enabled : system.Enabled action)
    (bound : id < system.scopes.length) :
    (system.perform action).scope id = system.fate action id (system.scope id) := by
  cases action with
  | enter thread tenure =>
    have kept : (system.enclosing thread).2.scope id = system.scope id := scope_enclosing bound
    have there := Nat.lt_of_lt_of_le bound (moves_enclosing thread).length_le
    exact (scope_enterIn there _ tenure).trans kept
  | enterIn thread parent tenure => exact scope_enterIn bound parent tenure
  | reduce scope concurrency => exact scope_changed bound scope _
  | makeRoot pool concurrency =>
    exact (scope_addScope system _ id).trans (if_neg (Nat.ne_of_lt bound))
  | submit thread scope => exact scope_submit bound scope
  | beginExit thread scope | beginDrop thread scope => exact scope_changed bound scope Scope.drain
  | leave thread =>
    obtain ⟨activation, others, scope, departure, top, leaving, -, -, -, left⟩ := leave_cases sound enabled
    rw [left]
    refine (scope_changed bound scope fun record => record.close.2).trans ?_
    simp only [fate, top.activation_eq, Activation.leaves, leaving, Option.any_some, beq_iff_eq]
  | endLogic thread outcome =>
    obtain ⟨-, -, work, -, -, -, current, logic, -⟩ := canEnd_cases enabled
    cases kind : (system.work work).kind with
    | job => rw [kind] at logic; exact absurd logic Bool.false_ne_true
    | logic scope =>
      have kind' : ((system.endProgram thread).work work).kind = .logic scope := by rw [work_endProgram, kind]
      have recorded : (system.perform (.endLogic thread outcome)).scope id =
          ((system.endProgram thread).modifyScope scope (·.record outcome)).scope id := by
        simp only [perform, withCurrentWork, current, Option.elim_some, recordOutcome, kind']
        rfl
      have inside : id < (system.endProgram thread).scopes.length := by
        rwa [scopes_of_backdrop (backdrop_endProgram thread)]
      rw [recorded, scope_changed inside, scope_endProgram]
      simp only [fate, currentLogic?, current, Option.bind_some, kind, Option.some.injEq]
  | complete thread =>
    obtain ⟨-, -, work, -, -, current, -⟩ := isEnding_cases enabled
    cases kind : (system.work work).kind with
    | job =>
      simp only [perform, withCurrentWork, current, Option.elim_some, completeWork, kind, fate, currentLogic?,
        Option.bind_some, reduceCtorEq, ↓reduceIte]
      rfl
    | logic scope =>
      have counted : (system.perform (.complete thread)).scope id =
          (system.modifyScope scope (·.countOver (system.work work).unwound)).scope id := by
        simp only [perform, withCurrentWork, current, Option.elim_some, completeWork, kind]
        rfl
      rw [counted, scope_changed bound]
      simp only [fate, currentLogic?, isUnwound, current, Option.bind_some, Option.any_some, kind, Option.some.injEq]
  | attach | detach | acquire | dropLease | passLease | dispatch | free | endJob | vacate | next | die | makePool
  | dropPool | bar | makeFactory | reroute | register | configure | start | finish =>
    exact scope_of_scopes (scopes_of_spares rfl)

end System

end ScopedWork
