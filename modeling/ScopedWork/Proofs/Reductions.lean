import ScopedWork.Proofs.Discipline
import ScopedWork.Proofs.Fates

/-! # Concurrency only falls

A scope starts with the concurrency that its pool allows, or that the scope has in which it is entered. From then
on nothing but its own reductions changes it, and it is the least of all these numbers, in whatever order they come.
No reduction is ever taken back; but a thread that has left what it had entered is again in the scope that it was
in, and finds the concurrency there that it had left there.
-/

namespace ScopedWork

/-- The number that a moment reduces a scope to. -/
def Moment.reduction? (moment : Moment) (scope : ScopeId) : Option Nat :=
  match moment.action with
  | .reduce target concurrency => if target = scope then some concurrency else none
  | _ => none

def reductions (history : List Moment) (scope : ScopeId) : List Nat :=
  history.filterMap (·.reduction? scope)

theorem reductions_cons (moment : Moment) (history : List Moment) (scope : ScopeId) :
    reductions (moment :: history) scope = (moment.reduction? scope).toList ++ reductions history scope := by
  rw [reductions, List.filterMap_cons]
  cases moment.reduction? scope <;> rfl

theorem reductions_eq_nil {history : List Moment} {scope : ScopeId}
    (unreduced : ∀ moment ∈ history, ∀ concurrency, moment.action ≠ .reduce scope concurrency) :
    reductions history scope = [] := by
  refine List.filterMap_eq_nil_iff.mpr fun moment member => ?_
  have spared := unreduced moment member
  rw [Moment.reduction?]
  split
  · rename_i target concurrency reduces
    exact if_neg fun same : target = scope => spared concurrency (same ▸ reduces)
  · rfl

namespace System

variable {system after : System} {events : List Event} {action : Action} {thread : ThreadId} {scope : ScopeId}

/-- What the root is asked for that a thread is given who looks for the scope of a new context: a factory of new roots
names the pool and the number itself, and the root of the process is over its pool, with the number of its setting. -/
def AsksFor (system looked : System) (pool : PoolId) (asked : Nat) : Prop :=
  system.rootSource = .fresh pool asked ∨
    system.rootSource = .standard ∧ looked.globalPool = some pool ∧ asked = system.setting.concurrency.1

/-- How an action founds a scope of a number, and what the scope has of a parent, of a pool and of concurrency at
first. -/
inductive Founds (system : System) (scope : ScopeId) : Action → Option ScopeId × PoolId × Nat → Prop
  /-- A root over a pool may ask for more than the pool has slots for, but does not get it. -/
  | root (pool : PoolId) (asked : Nat) (last : scope = system.scopes.length) :
    Founds system scope (.makeRoot pool asked) (none, pool, min asked (system.pool pool).capacity)
  /-- The same goes for the root that a thread without a scope is given. -/
  | supplied (thread : ThreadId) (tenure : Tenure) (pool : PoolId) (asked : Nat) (last : scope = system.scopes.length)
    (parent : (system.enclosing thread).1 = scope) (asks : system.AsksFor (system.enclosing thread).2 pool asked) :
    Founds system scope (.enter thread tenure)
      (none, pool, min asked ((system.enclosing thread).2.pool pool).capacity)
  | entered (thread : ThreadId) (tenure : Tenure) (parent : ScopeId) (last : scope = system.scopes.length) :
    Founds system scope (.enterIn thread parent tenure)
      (some parent, (system.scope parent).pool, (system.scope parent).concurrency)
  /-- Or it is entered in the thread's current scope. -/
  | nested (thread : ThreadId) (tenure : Tenure) (parent : ScopeId) (found : System)
    (current : system.enclosing thread = (parent, found)) (last : scope = found.scopes.length) :
    Founds system scope (.enter thread tenure)
      (some parent, (found.scope parent).pool, (found.scope parent).concurrency)

/-! ## What changes the bounds of a scope -/

/-- Of the bounds of a scope that is there, an action changes the concurrency at most, and this by reducing it. -/
theorem bounds_fate (record : Scope) : (system.fate action scope record).bounds =
    (record.parent, record.pool,
      (Moment.reduction? ⟨system, action⟩ scope).toList.foldr min record.concurrency) := by
  cases action with
  | reduce target concurrency =>
    simp only [fate, Moment.reduction?]
    split_ifs
    · exact congrArg (fun least => (record.parent, record.pool, least)) (Nat.min_comm _ _)
    · rfl
  | submit thread target =>
    simp only [fate, submitted]
    split_ifs
    · split <;> rfl
    · rfl
  | beginExit thread target | beginDrop thread target =>
    simp only [fate]
    split_ifs
    · exact record.bounds_drain
    · rfl
  | endLogic thread outcome =>
    simp only [fate]
    split_ifs
    · exact record.bounds_record outcome
    · rfl
  | complete thread =>
    simp only [fate]
    split_ifs
    · exact record.bounds_countOver _
    · rfl
  | leave =>
    simp only [fate]
    split_ifs <;> rfl
  | enter | enterIn | attach | detach | acquire | dropLease | passLease | dispatch | free | endJob | vacate | next | die
  | makePool | dropPool | bar | makeRoot | makeFactory | reroute | register | configure | start | finish => rfl

/-! ## How scopes are founded -/

theorem globalPool_getGlobalPool (system : System) :
    system.getGlobalPool.2.globalPool = some system.getGlobalPool.1 := by
  rw [getGlobalPool]
  split
  · assumption
  · rfl

/-- The standard root is new if it has been missing, and is over the pool of the process. -/
theorem newStandardRoot_bounds (missing : system.standardRoot = none) :
    system.getStandardRoot.1 = system.scopes.length ∧ ∃ pool, system.getStandardRoot.2.globalPool = some pool ∧
      system.newStandardRoot.bounds =
        (none, pool, min system.setting.concurrency.1 (system.getStandardRoot.2.pool pool).capacity) := by
  let fixed : System := { system with setting := system.setting.concurrency.2 }
  have same : fixed.getGlobalPool.2.scopes = system.scopes := scopes_getGlobalPool
  rw [getStandardRoot_of_missing missing]
  exact ⟨congrArg List.length same, _, fixed.globalPool_getGlobalPool, rfl⟩

/-- The root that a thread is given is new, has what it was asked for, and keeps to its pool. -/
theorem enclosing_of_supplied {record : Scope} (supplied : system.suppliedRoot? thread = some record) :
    (system.enclosing thread).1 = system.scopes.length ∧
      ∃ pool asked, system.AsksFor (system.enclosing thread).2 pool asked ∧
        record.bounds = (none, pool, min asked ((system.enclosing thread).2.pool pool).capacity) := by
  rw [suppliedRoot?] at supplied
  rw [enclosing]
  cases current : (system.stack thread).currentScope? with
  | some scope =>
    rw [current] at supplied
    exact absurd supplied.symm (Option.some_ne_none record)
  | none =>
    obtain ⟨factories, found⟩ := system.supplyRoot_eq
    simp only [current, found, Option.isSome_none, Bool.false_eq_true, ↓reduceIte] at supplied ⊢
    cases source : system.rootSource with
    | scope root => simp [source] at supplied
    | fresh pool asked =>
      simp only [source, Option.some.injEq] at supplied
      exact ⟨rfl, pool, asked, .inl source, supplied ▸ rfl⟩
    | standard =>
      have missing : system.standardRoot = none := by
        by_contra made
        simp [source, Option.isSome_iff_ne_none.mpr made] at supplied
      simp only [source, missing, Option.isSome_none, Bool.false_eq_true, ↓reduceIte, Option.some.injEq] at supplied
      obtain ⟨last, pool, shared, bounds⟩ := @newStandardRoot_bounds { system with factories } missing
      rw [newStandardRoot_factories, supplied] at bounds
      exact ⟨last, pool, _, .inr ⟨source, shared, rfl⟩, bounds⟩

/-- A scope that is new after an action has been founded by it. -/
theorem founds_of_new (sound : system.picture.Sound events) (enabled : system.Enabled action)
    (new : system.scopes.length ≤ scope) (there : scope < (system.perform action).scopes.length) :
    system.Founds scope action ((system.perform action).scope scope).bounds := by
  rw [length_perform sound enabled] at there
  rw [scope_born sound enabled new]
  obtain ⟨index, rfl⟩ := Nat.exists_eq_add_of_le new
  rw [Nat.add_sub_cancel_left]
  have inside : index < (system.births action).length := Nat.lt_of_add_lt_add_left there
  cases action with
  | enter thread tenure =>
    have added := system.scopes_enclosing thread
    cases supplied : system.suppliedRoot? thread with
    | none =>
      simp only [births, supplied, Option.toList_none, List.nil_append, List.length_singleton,
        Nat.lt_one_iff] at inside ⊢
      subst inside
      rw [supplied, Option.toList_none, List.append_nil] at added
      exact .nested thread tenure _ _ rfl (by rw [added]; rfl)
    | some record =>
      rw [supplied] at added
      simp only [births, supplied, Option.toList_some, List.singleton_append, List.length_cons] at inside ⊢
      match index, inside with
      | 0, _ =>
        obtain ⟨parent, pool, asked, asks, bounds⟩ := enclosing_of_supplied supplied
        simp only [List.getElem?_cons_zero, Option.getD_some]
        rw [bounds]
        exact .supplied thread tenure pool asked rfl parent asks
      | 1, _ =>
        refine .nested thread tenure _ _ rfl ?_
        rw [added, List.length_append]
        rfl
  | enterIn thread parent tenure =>
    obtain rfl := Nat.lt_one_iff.mp inside
    exact .entered thread tenure parent rfl
  | makeRoot pool asked =>
    obtain rfl := Nat.lt_one_iff.mp inside
    exact .root pool asked rfl
  | reduce | submit | beginExit | beginDrop | leave | attach | detach | acquire | dropLease | passLease | dispatch
  | free | endLogic | endJob | vacate | complete | next | die | makePool | dropPool | bar | makeFactory | reroute
  | register | configure | start | finish => exact absurd inside (Nat.not_lt_zero index)

/-! ## The current scope -/

/-- The scope in which a thread would enter a context, if it is there: the nearest one on its stack, or else the
root that it would be given. -/
def current? (system : System) (thread : ThreadId) : Option ScopeId :=
  (system.stack thread).currentScope?.or (match system.rootSource with
    | .scope root => some root
    | .fresh _ _ => none
    | .standard => system.standardRoot)

/-- A thread finds its current scope, and the scopes as they are. -/
theorem enclosing_of_current (current : system.current? thread = some scope) :
    (system.enclosing thread).1 = scope ∧ (system.enclosing thread).2.scopes = system.scopes := by
  rw [current?] at current
  rw [enclosing]
  cases top : (system.stack thread).currentScope? with
  | some nearest =>
    rw [top, Option.some_or] at current
    exact ⟨Option.some.inj current, rfl⟩
  | none =>
    obtain ⟨factories, found⟩ := system.supplyRoot_eq
    rw [top, Option.none_or] at current
    dsimp only
    rw [found]
    cases source : system.rootSource with
    | scope root =>
      rw [source] at current
      exact ⟨Option.some.inj current, rfl⟩
    | fresh pool asked =>
      rw [source] at current
      exact absurd current.symm (Option.some_ne_none scope)
    | standard =>
      rw [source] at current
      rw [rootFrom, @getStandardRoot_of_made { system with factories } scope current]
      exact ⟨rfl, rfl⟩

theorem currentConcurrency_of_current (current : system.current? thread = some scope) :
    (system.currentConcurrency thread).1 = (system.scope scope).concurrency := by
  obtain ⟨found, scopes⟩ := enclosing_of_current current
  change ((system.enclosing thread).2.scope (system.enclosing thread).1).concurrency = _
  rw [found, System.scope, scopes, System.scope]

theorem standardRoot_of_backdrop (same : after.backdrop = system.backdrop) :
    after.standardRoot = system.standardRoot := by
  have standard (system : System) : system.backdrop.standardRoot = system.standardRoot := rfl
  rw [← standard, same, standard]

/-- The standard root stays once it is made. -/
theorem standardRoot_perform (sound : system.picture.Sound events) (enabled : system.Enabled action)
    (made : system.standardRoot = some scope) : (system.perform action).standardRoot = some scope := by
  have kept {after : System} (same : after.backdrop = system.backdrop) : after.standardRoot = some scope :=
    (standardRoot_of_backdrop same).trans made
  cases action with
  | enter thread tenure =>
    change (system.enclosing thread).2.standardRoot = some scope
    rw [enclosing]
    split
    · exact made
    · obtain ⟨factories, found⟩ := system.supplyRoot_eq
      rw [found]
      cases system.rootSource with
      | scope root => exact made
      | fresh pool asked => exact made
      | standard =>
        rw [rootFrom, @getStandardRoot_of_made { system with factories } scope made]
        exact made
  | submit thread target =>
    let counted := system.modifyScope target Scope.countDispatched
    have acquired := standardRoot_of_backdrop
      (@backdrop_acquire counted (system.scope target).pool (system.scope target).concurrency)
    have there := acquired.trans made
    simp only [perform, submit]
    split
    · exact there
    · exact (standardRoot_of_backdrop (backdrop_handOver _ _ _ _)).trans there
    · exact (standardRoot_of_backdrop (backdrop_beginWork _ _ _)).trans there
  | leave thread =>
    obtain ⟨-, -, target, -, -, -, -, -, -, left⟩ := leave_cases sound enabled
    rw [left]
    exact made
  | endLogic thread outcome =>
    simp only [perform, withCurrentWork]
    cases system.currentWork? thread with
    | none => exact made
    | some work =>
      have ended := kept (backdrop_endProgram thread)
      simp only [Option.elim_some, recordOutcome]
      split <;> exact ended
  | complete thread =>
    simp only [perform, withCurrentWork]
    cases system.currentWork? thread with
    | none => exact made
    | some work =>
      simp only [Option.elim_some, completeWork]
      split <;> exact made
  | enterIn | reduce | beginExit | beginDrop | makeRoot | makeFactory | reroute | register | configure => exact made
  | attach | detach | acquire | dropLease | passLease | dispatch | free | endJob | vacate | next | die | makePool
  | dropPool | bar | start | finish => exact kept (backdrop_of_spares rfl rfl)

end System

section Runs

variable {setting : Setting.State} {past history : List Moment} {first system : System} {scope : ScopeId}

/-- Between two moments of a run a scope keeps its parent and its pool, and its concurrency comes to the least of
what it was and what it has been reduced to. -/
theorem Reaches.bounds_eq (reached : Reaches (.initial setting) past first) (continued : Reaches first history system)
    (existing : scope < first.scopes.length) : (system.scope scope).bounds = ((first.scope scope).parent,
      (first.scope scope).pool, (reductions history scope).foldr min (first.scope scope).concurrency) := by
  induction continued with
  | start => rfl
  | @step history system action continued enabled ih =>
    have bound := Nat.lt_of_lt_of_le existing (reached.moves continued).length_le
    obtain ⟨parent, rest⟩ := Prod.mk.inj ih
    obtain ⟨pool, concurrency⟩ := Prod.mk.inj rest
    rw [System.scope_perform (reached.trans continued).sound enabled bound, System.bounds_fate, reductions_cons,
      List.foldr_append, parent, pool, concurrency]

/-- A scope that is there was founded at a moment of the run, and has been reduced since. -/
theorem Reaches.founded (reached : Reaches (.initial setting) history system)
    (existing : scope < system.scopes.length) :
    ∃ later moment earlier parent pool initial, history = later ++ moment :: earlier ∧
      moment.before.Founds scope moment.action (parent, pool, initial) ∧
      (system.scope scope).bounds = (parent, pool, (reductions later scope).foldr min initial) := by
  induction reached with
  | start => exact absurd existing (Nat.not_lt_zero scope)
  | @step history system action reached enabled ih =>
    by_cases old : scope < system.scopes.length
    · obtain ⟨later, moment, earlier, parent, pool, initial, rfl, founds, bounds⟩ := ih old
      refine ⟨⟨system, action⟩ :: later, moment, earlier, parent, pool, initial, rfl, founds, ?_⟩
      obtain ⟨same, rest⟩ := Prod.mk.inj bounds
      obtain ⟨pool_eq, concurrency⟩ := Prod.mk.inj rest
      have none_before : reductions [] scope = [] := rfl
      rw [reached.bounds_eq (Reaches.start.step enabled) old, same, pool_eq, concurrency, ← List.foldr_append,
        reductions_cons, reductions_cons, none_before, List.append_nil]
    · exact ⟨[], ⟨system, action⟩, history, _, _, _, rfl,
        System.founds_of_new reached.sound enabled (Nat.le_of_not_lt old) existing, rfl⟩

theorem Reaches.standardRoot (reached : Reaches (.initial setting) past first)
    (continued : Reaches first history system) (made : first.standardRoot = some scope) :
    system.standardRoot = some scope := by
  induction continued with
  | start => exact made
  | step continued enabled ih => exact System.standardRoot_perform (reached.trans continued).sound enabled ih

/-- A thread that has its stack again has its current scope again, if the registry has not turned to another root. -/
theorem Reaches.current?_eq {thread : ThreadId} (reached : Reaches (.initial setting) past first)
    (continued : Reaches first history system) (current : first.current? thread = some scope)
    (stack : system.stack thread = first.stack thread)
    (rooted : (first.stack thread).currentScope? = none → system.rootSource = first.rootSource) :
    system.current? thread = some scope := by
  rw [System.current?, stack]
  rw [System.current?] at current
  cases top : (first.stack thread).currentScope? with
  | some nearest => rwa [top, Option.some_or] at current
  | none =>
    rw [top, Option.none_or] at current
    rw [rooted top, Option.none_or]
    cases source : first.rootSource with
    | scope root => rwa [source] at current
    | fresh pool asked => rwa [source] at current
    | standard =>
      rw [source] at current
      exact reached.standardRoot continued current

/-- A thread that has left all that it has entered has its stack again. -/
theorem Within.restored {thread : ThreadId} (within : Within thread first history system)
    (reached : Reaches (.initial setting) past first) (active : (first.thread thread).activations ≠ [])
    (emptied : openContexts history thread = []) : system.stack thread = first.stack thread := by
  obtain ⟨top, below, chain⟩ := List.exists_cons_of_ne_nil active
  rw [(within.grown reached chain).stack_eq, emptied, Stack.raise_nil]

/-- Numbers that only lower another can be taken in any order. -/
theorem foldr_min_perm {numbers order : List Nat} (same : order.Perm numbers) (initial : Nat) :
    order.foldr min initial = numbers.foldr min initial :=
  same.foldr_eq initial

theorem foldr_min_le (numbers : List Nat) (initial : Nat) : numbers.foldr min initial ≤ initial := by
  induction numbers with
  | nil => exact Nat.le_refl initial
  | cons number rest ih => exact Nat.le_trans (Nat.min_le_right _ _) ih

end Runs

/-- What the concurrency of a scope has come to in the course of a run, and what it can come to. -/
structure System.Restrained (system : System) (history : List Moment) (scope : ScopeId) : Prop where
  /-- The scope was founded at a moment of the run, and its concurrency is the least of what it had then and of all
  that it has been reduced to since, in whatever order. -/
  least : ∃ later moment earlier parent pool initial, history = later ++ moment :: earlier ∧
    moment.before.Founds scope moment.action (parent, pool, initial) ∧ (system.scope scope).parent = parent ∧
    (system.scope scope).pool = pool ∧ (system.scope scope).concurrency ≤ initial ∧
    ∀ order : List Nat, order.Perm (reductions later scope) →
      (system.scope scope).concurrency = order.foldr min initial
  capacity : (system.scope scope).concurrency ≤ (system.pool (system.scope scope).pool).capacity
  /-- Only a reduction of the scope itself changes it. -/
  apart : ∀ action, system.Enabled action → (∀ concurrency, action ≠ .reduce scope concurrency) →
    ((system.perform action).scope scope).concurrency = (system.scope scope).concurrency
  falls : ∀ more after, Reaches system more after →
    (after.scope scope).concurrency ≤ (system.scope scope).concurrency
  /-- If the scope is a thread's current one, then so it is again when the thread has left what it has entered, and
  if it is not reduced in the meantime, the thread finds the same concurrency. A root is found again as long as the
  registry has the thread given it. -/
  restored : ∀ thread more after, (system.thread thread).activations ≠ [] →
    system.current? thread = some scope → Within thread system more after → openContexts more thread = [] →
    (∀ moment ∈ more, ∀ concurrency, moment.action ≠ .reduce scope concurrency) →
    ((system.stack thread).currentScope? = none → after.rootSource = system.rootSource) →
    (after.currentConcurrency thread).1 = (system.currentConcurrency thread).1

/-- Every scope of every process is restrained. -/
theorem concurrency_restrained {setting : Setting.State} {history : List Moment} {system : System}
    (reached : Reaches (.initial setting) history system) {scope : ScopeId} (existing : scope < system.scopes.length) :
    system.Restrained history scope := by
  have onward {more : List Moment} {after : System} (continued : Reaches system more after) :
      (after.scope scope).concurrency = (reductions more scope).foldr min (system.scope scope).concurrency :=
    congrArg (·.2.2) (reached.bounds_eq continued existing)
  constructor
  case least =>
    obtain ⟨later, moment, earlier, parent, pool, initial, split, founds, bounds⟩ := reached.founded existing
    obtain ⟨same, rest⟩ := Prod.mk.inj bounds
    obtain ⟨pool_eq, concurrency⟩ := Prod.mk.inj rest
    refine ⟨later, moment, earlier, parent, pool, initial, split, founds, same, pool_eq, ?_, fun order any => ?_⟩
    · rw [concurrency]
      exact foldr_min_le _ initial
    · rw [concurrency, foldr_min_perm any]
  case capacity => exact reached.bounded.capacity scope
  case apart =>
    intro action enabled spared
    have unreduced := @reductions_eq_nil [⟨system, action⟩] scope fun moment member concurrency =>
      List.mem_singleton.mp member ▸ spared concurrency
    rw [onward (Reaches.start.step enabled), unreduced]
    rfl
  case falls =>
    intro more after continued
    rw [onward continued]
    exact foldr_min_le _ _
  case restored =>
    intro thread more after active current within emptied unreduced rooted
    have again := reached.current?_eq within.reaches current (within.restored reached active emptied) rooted
    rw [System.currentConcurrency_of_current again, System.currentConcurrency_of_current current,
      onward within.reaches, reductions_eq_nil unreduced]
    rfl

/-- A root asks for more than its pool has, and what is entered in it is reduced twice. -/
def reducedTwice : List Action :=
  [.makePool 3 {}, .makeRoot 0 5, .enterIn 0 0 (.owned "outer"), .reduce 1 2, .reduce 1 4]

/-- Two contexts are entered on top of each other and reduced, and the lower one is left first. -/
def reducedInside : List Action :=
  [.enter 0 (.owned "inner"), .reduce 2 1, .enter 0 (.owned "innermost"), .reduce 3 0, .reduce 0 2, .beginExit 0 2,
    .leave 0, .beginDrop 0 3, .leave 0]

theorem concurrency_restrained_reducedInside :
    let first := System.initial { hardware := 4 }
    let system := first.performAll reducedTwice
    let more := system.moments [] reducedInside
    let after := system.performAll reducedInside
    Reaches first (first.moments [] reducedTwice) system ∧ 1 < system.scopes.length ∧
      system.Restrained (first.moments [] reducedTwice) 1 ∧ (system.scope 0).concurrency = 3 ∧
      reductions (first.moments [] reducedTwice) 1 = [4, 2] ∧ (system.scope 1).concurrency = 2 ∧
      Within 0 system more after ∧ openContexts more 0 = [] ∧ (after.currentConcurrency 0).1 = 2 := by
  have allowed : (System.initial { hardware := 4 }).allows reducedTwice = true := by decide
  have reached := Reaches.start.performAll allowed
  let system := (System.initial { hardware := 4 }).performAll reducedTwice
  have start : Within 0 system [] system := .start system
  have within : Within 0 system (system.moments [] reducedInside) (system.performAll reducedInside) :=
    start.performAll (by decide)
  exact ⟨reached, by decide, concurrency_restrained reached (by decide), by decide, by decide, by decide, within,
    by decide, by decide⟩

end ScopedWork
