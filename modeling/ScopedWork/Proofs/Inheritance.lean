import ScopedWork.Proofs.Occupancy

/-! # What scopes inherit

A scope has its pool and its concurrency from the scope that its context was entered in, as they were
at that moment; a root has them from the one who makes it, cut at the pool's capacity. From then on
only a reduction changes the concurrency, and nothing changes the pool.

A snapshot may hold any scope, also one that does not exist yet. A scope entered there is a stray: it
has the concurrency of no scope, which is none, and so has everything entered inside.
-/

namespace ScopedWork

namespace Scope

/-- What bounds the logics of a scope, and of those entered in it. -/
def bounds (scope : Scope) : Option ScopeId × PoolId × Nat :=
  (scope.parent, scope.pool, scope.concurrency)

variable {scope other : Scope}

theorem parent_of_bounds (same : other.bounds = scope.bounds) : other.parent = scope.parent :=
  congrArg Prod.fst same

theorem pool_of_bounds (same : other.bounds = scope.bounds) : other.pool = scope.pool :=
  congrArg (·.2.1) same

theorem concurrency_of_bounds (same : other.bounds = scope.bounds) : other.concurrency = scope.concurrency :=
  congrArg (·.2.2) same

theorem bounds_drain (scope : Scope) : scope.drain.bounds = scope.bounds := by
  rw [drain]
  split <;> rfl

theorem bounds_record (scope : Scope) (outcome : Except Failure.TaskError Unit) :
    (scope.record outcome).bounds = scope.bounds := by
  obtain ⟨_, _, recorded⟩ := scope.record_rest outcome
  rw [recorded]
  rfl

theorem bounds_countOver (scope : Scope) (unwound : Bool) : (scope.countOver unwound).bounds = scope.bounds := by
  rw [countOver_eq]
  rfl

end Scope

def Action.sparesScopes : Action → Bool
  | .enter .. | .enterIn .. | .reduce .. | .submit .. | .beginExit .. | .beginDrop .. | .leave _ | .endLogic ..
  | .complete _ | .makeRoot .. => false
  | _ => true

/-- Whether an action changes the registry or the setting. -/
def Action.isOutside : Action → Bool
  | .makeFactory _ | .reroute .. | .register _ | .configure _ => true
  | _ => false

namespace System

variable {system after : System}

/-- What can happen to the bounds of scopes at once. -/
inductive Move (system : System) : System → Prop
  | keep {after : System} (bounds : after.scopes.map Scope.bounds = system.scopes.map Scope.bounds)
    (stocks : system.Stocks after) : Move system after
  | reduce (scope : ScopeId) (concurrency : Nat) : Move system (system.reduceConcurrency scope concurrency)
  | root (pool : PoolId) (concurrency : Nat) : Move system (system.newRoot pool concurrency).2
  | child (parent : ScopeId) (within : Option WorkId) :
    Move system (system.addScope ((system.scope parent).child parent within)).2

/-- Processes that a course of such changes leads from one to the other. -/
def Moves (system after : System) : Prop :=
  Relation.ReflTransGen Move system after

/-! ## Bounds that stay -/

theorem bounds_scope (system : System) (scope : ScopeId) :
    (system.scope scope).bounds = ((system.scopes.map Scope.bounds)[scope]?).getD (none, 0, 0) := by
  rw [System.scope, List.getElem?_map]
  cases system.scopes[scope]? <;> rfl

theorem bounds_eq (same : after.scopes.map Scope.bounds = system.scopes.map Scope.bounds) (scope : ScopeId) :
    (after.scope scope).bounds = (system.scope scope).bounds := by
  rw [bounds_scope, bounds_scope, same]

theorem bounds_modifyScope (scope : ScopeId) {change : Scope → Scope}
    (same : ∀ record, (change record).bounds = record.bounds) :
    (system.modifyScope scope change).scopes.map Scope.bounds = system.scopes.map Scope.bounds :=
  (map_modify_of_comm same system.scopes scope).trans (List.modify_id scope _)

theorem capacity_le_of_stocks (stocks : system.Stocks after) (pool : PoolId) :
    (system.pool pool).capacity ≤ (after.pool pool).capacity := by
  by_cases bound : pool < system.pools.length
  · exact Nat.le_of_eq (stocks.kept pool bound).capacity_eq.symm
  · rw [pool_of_not_lt bound]
    exact Nat.zero_le _

/-! ## How bounds move -/

namespace Move

theorem length_le (move : system.Move after) : system.scopes.length ≤ after.scopes.length := by
  cases move with
  | keep bounds => simpa only [List.length_map] using Nat.le_of_eq (congrArg List.length bounds).symm
  | reduce => exact Nat.le_of_eq (List.length_modify _ _ _).symm
  | root => simp [newRoot, addScope]
  | child => simp [addScope]

theorem scope_reduce (system : System) (scope other : ScopeId) (concurrency : Nat) :
    ((system.reduceConcurrency scope concurrency).scope other).parent = (system.scope other).parent ∧
      ((system.reduceConcurrency scope concurrency).scope other).pool = (system.scope other).pool ∧
      ((system.reduceConcurrency scope concurrency).scope other).concurrency ≤ (system.scope other).concurrency := by
  rw [reduceConcurrency, scope_modifyScope]
  split_ifs
  · exact ⟨rfl, rfl, Nat.min_le_left _ _⟩
  · exact ⟨rfl, rfl, Nat.le_refl _⟩

/-- A scope keeps its parent and its pool, and its concurrency only falls. -/
theorem old (move : system.Move after) {scope : ScopeId} (bound : scope < system.scopes.length) :
    (after.scope scope).parent = (system.scope scope).parent ∧
      (after.scope scope).pool = (system.scope scope).pool ∧
      (after.scope scope).concurrency ≤ (system.scope scope).concurrency := by
  cases move with
  | keep bounds =>
    have same := bounds_eq bounds scope
    exact ⟨Scope.parent_of_bounds same, Scope.pool_of_bounds same, Nat.le_of_eq (Scope.concurrency_of_bounds same)⟩
  | reduce => exact scope_reduce _ _ _ _
  | root =>
    rw [newRoot, scope_addScope, if_neg (Nat.ne_of_lt bound)]
    exact ⟨rfl, rfl, Nat.le_refl _⟩
  | child =>
    rw [scope_addScope, if_neg (Nat.ne_of_lt bound)]
    exact ⟨rfl, rfl, Nat.le_refl _⟩

end Move

/-! ## Strays -/

def Link (system : System) (outer inner : ScopeId) : Prop :=
  (system.scope inner).parent = some outer

instance (outer inner : ScopeId) : Decidable (system.Link outer inner) :=
  inferInstanceAs (Decidable (_ = _))

/-- Whether a scope was entered in one that did not exist, or inside such a one. -/
def Stray (system : System) (scope : ScopeId) : Prop :=
  ∃ top outer, system.Link outer top ∧ top ≤ outer ∧ Relation.ReflTransGen system.Link top scope

theorem Link.lt {outer inner : ScopeId} (link : system.Link outer inner) : inner < system.scopes.length :=
  lt_of_parent (by rw [show (system.scope inner).parent = some outer from link]; exact Option.some_ne_none outer)

theorem Stray.extend {outer inner : ScopeId} (stray : system.Stray outer) (link : system.Link outer inner) :
    system.Stray inner := by
  obtain ⟨top, above, first, late, below⟩ := stray
  exact ⟨top, above, first, late, below.tail link⟩

theorem Stray.lt {scope : ScopeId} (stray : system.Stray scope) : scope < system.scopes.length := by
  obtain ⟨top, above, first, -, below⟩ := stray
  cases below with
  | refl => exact first.lt
  | tail _ link => exact link.lt

/-- What holds of every scope's bounds: it has at most the concurrency that its pool has slots for, and a
stray has none. -/
structure Bounded (system : System) : Prop where
  capacity : ∀ scope, (system.scope scope).concurrency ≤ (system.pool (system.scope scope).pool).capacity
  stray : ∀ scope, system.Stray scope → (system.scope scope).concurrency = 0

/-- Links stay as they are, apart from the one that a new scope has. -/
theorem link_addScope {record : Scope} {outer inner : ScopeId}
    (link : (system.addScope record).2.Link outer inner) :
    system.Link outer inner ∨ inner = system.scopes.length ∧ record.parent = some outer := by
  rw [Link, scope_addScope] at link
  split_ifs at link with last
  · exact .inr ⟨last, link⟩
  · exact .inl link

/-- With a new scope there are no new strays but perhaps itself. -/
theorem stray_addScope {record : Scope} {scope : ScopeId} (stray : (system.addScope record).2.Stray scope) :
    system.Stray scope ∨ scope = system.scopes.length ∧
      ∃ outer, record.parent = some outer ∧ (system.Stray outer ∨ system.scopes.length ≤ outer) := by
  obtain ⟨top, above, first, late, below⟩ := stray
  induction below with
  | refl =>
    rcases link_addScope first with old | ⟨rfl, parent⟩
    · exact .inl ⟨top, above, old, late, .refl⟩
    · exact .inr ⟨rfl, above, parent, .inr late⟩
  | @tail outer inner _ link ih =>
    rcases link_addScope link with old | ⟨rfl, parent⟩
    · rcases ih with stray | ⟨rfl, -⟩
      · exact .inl (stray.extend old)
      · exact .inl ⟨inner, _, old, Nat.le_of_lt old.lt, .refl⟩
    · refine .inr ⟨rfl, outer, parent, ?_⟩
      rcases ih with stray | ⟨rfl, -⟩
      · exact .inl stray
      · exact .inr (Nat.le_refl _)

theorem stray_of_parents (same : ∀ scope, (after.scope scope).parent = (system.scope scope).parent) {scope : ScopeId}
    (stray : after.Stray scope) : system.Stray scope := by
  have links : after.Link = system.Link := by
    funext outer inner
    rw [Link, Link, same]
  obtain ⟨top, outer, first, late, below⟩ := stray
  rw [links] at first below
  exact ⟨top, outer, first, late, below⟩

/-- A new scope keeps to the bounds if it has at most what its pool and its parent have. -/
theorem Bounded.addScope (bounded : system.Bounded) {record : Scope}
    (capacity : record.concurrency ≤ (system.pool record.pool).capacity)
    (inherited : ∀ outer, record.parent = some outer → record.concurrency ≤ (system.scope outer).concurrency) :
    (system.addScope record).2.Bounded where
  capacity scope := by
    rw [scope_addScope]
    split_ifs
    · exact capacity
    · exact bounded.capacity scope
  stray scope stray := by
    rw [scope_addScope]
    rcases stray_addScope stray with old | ⟨last, outer, parent, above⟩
    · rw [if_neg (Nat.ne_of_lt old.lt)]
      exact bounded.stray scope old
    · rw [if_pos last]
      have empty : (system.scope outer).concurrency = 0 := by
        rcases above with stray | beyond
        · exact bounded.stray outer stray
        · rw [scope_of_not_lt system (Nat.not_lt.mpr beyond)]
          rfl
      exact Nat.le_zero.mp (empty ▸ inherited outer parent)

theorem Bounded.move (bounded : system.Bounded) (move : system.Move after) : after.Bounded := by
  cases move with
  | keep bounds stocks =>
    have same := bounds_eq bounds
    constructor
    · intro scope
      rw [Scope.concurrency_of_bounds (same scope), Scope.pool_of_bounds (same scope)]
      exact Nat.le_trans (bounded.capacity scope) (capacity_le_of_stocks stocks _)
    · intro scope stray
      rw [Scope.concurrency_of_bounds (same scope)]
      exact bounded.stray scope (stray_of_parents (fun other => Scope.parent_of_bounds (same other)) stray)
  | reduce target concurrency =>
    constructor
    · intro scope
      obtain ⟨-, pool, fallen⟩ := Move.scope_reduce system target scope concurrency
      rw [pool]
      exact Nat.le_trans fallen (bounded.capacity scope)
    · intro scope stray
      obtain ⟨-, -, fallen⟩ := Move.scope_reduce system target scope concurrency
      have before := bounded.stray scope
        (stray_of_parents (fun other => (Move.scope_reduce _ target other concurrency).1) stray)
      exact Nat.le_zero.mp (before ▸ fallen)
  | root pool concurrency =>
    exact bounded.addScope (Nat.min_le_right _ _) fun outer parent => absurd parent.symm (Option.some_ne_none outer)
  | child parent within =>
    refine bounded.addScope (bounded.capacity parent) fun outer same => ?_
    obtain rfl := Option.some.inj same
    exact Nat.le_refl _

theorem Bounded.moves (bounded : system.Bounded) (moves : system.Moves after) : after.Bounded := by
  induction moves with
  | refl => exact bounded
  | tail _ move ih => exact ih.move move

/-! ## Scopes nested in another since -/

/-- Whether a scope is linked to another by contexts that were entered since there were `count` scopes. -/
def NestedSince (system : System) (count : Nat) (scope inner : ScopeId) : Prop :=
  Relation.ReflTransGen (fun outer inner => count ≤ inner ∧ system.Link outer inner) scope inner

/-- A scope has at most the concurrency that another once had, in the same pool, or none at all. -/
structure Below (system : System) (pool : PoolId) (concurrency : Nat) (scope : ScopeId) : Prop where
  concurrency_le : (system.scope scope).concurrency ≤ concurrency
  pool_eq : (system.scope scope).concurrency ≠ 0 → (system.scope scope).pool = pool

theorem Below.of_zero {pool : PoolId} {concurrency : Nat} {scope : ScopeId}
    (zero : (system.scope scope).concurrency = 0) : system.Below pool concurrency scope :=
  ⟨zero ▸ Nat.zero_le _, fun some_left => (some_left zero).elim⟩

theorem Below.move {pool : PoolId} {concurrency : Nat} {scope : ScopeId} (below : system.Below pool concurrency scope)
    (move : system.Move after) (bound : scope < system.scopes.length) : after.Below pool concurrency scope := by
  obtain ⟨-, same, fallen⟩ := move.old bound
  refine ⟨Nat.le_trans fallen below.concurrency_le, fun some_left => same.trans (below.pool_eq fun none_left => ?_)⟩
  rw [none_left] at fallen
  exact some_left (Nat.le_zero.mp fallen)

/-- A move makes no link but that of a scope that is entered now. -/
theorem Move.link {outer inner : ScopeId} (move : system.Move after) (link : after.Link outer inner) :
    system.Link outer inner ∨ inner = system.scopes.length ∧
      ∃ within, after = (system.addScope ((system.scope outer).child outer within)).2 := by
  cases move with
  | keep bounds =>
    rw [Link, Scope.parent_of_bounds (bounds_eq bounds inner)] at link
    exact .inl link
  | reduce target concurrency =>
    rw [Link, (Move.scope_reduce _ target inner concurrency).1] at link
    exact .inl link
  | root =>
    rcases link_addScope link with old | ⟨-, parent⟩
    · exact .inl old
    · exact absurd parent.symm (Option.some_ne_none outer)
  | child parent within =>
    rcases link_addScope link with old | ⟨last, same⟩
    · exact .inl old
    · obtain rfl := Option.some.inj same
      exact .inr ⟨last, within, rfl⟩

/-- A move leaves the nest of a scope as it is, but for strays and a scope that is entered in it now. -/
theorem nestedSince_move {count : Nat} {scope inner : ScopeId} (move : system.Move after)
    (nested : after.NestedSince count scope inner) :
    system.NestedSince count scope inner ∨ after.Stray inner ∨
      inner = system.scopes.length ∧ ∃ outer within, system.NestedSince count scope outer ∧
        after = (system.addScope ((system.scope outer).child outer within)).2 := by
  induction nested with
  | refl => exact .inl .refl
  | @tail outer inner _ step ih =>
    obtain ⟨since, link⟩ := step
    rcases move.link link with old | ⟨last, within, entered⟩
    · rcases ih with nested | stray | ⟨rfl, -⟩
      · exact .inl (nested.tail ⟨since, old⟩)
      · exact .inr (.inl (stray.extend link))
      · exact .inr (.inl ⟨inner, _, link, Nat.le_of_lt old.lt, .refl⟩)
    · rcases ih with nested | stray | ⟨rfl, -⟩
      · exact .inr (.inr ⟨last, outer, within, nested, entered⟩)
      · exact .inr (.inl (stray.extend link))
      · exact .inr (.inl ⟨inner, _, link, Nat.le_of_eq last, .refl⟩)

theorem NestedSince.lt {count : Nat} {scope inner : ScopeId} (nested : system.NestedSince count scope inner)
    (bound : scope < system.scopes.length) : inner < system.scopes.length := by
  cases nested with
  | refl => exact bound
  | tail _ link => exact link.2.lt

theorem Moves.length_le (moves : system.Moves after) : system.scopes.length ≤ after.scopes.length := by
  induction moves with
  | refl => exact Nat.le_refl _
  | tail _ move ih => exact Nat.le_trans ih move.length_le

/-- A scope does not turn into a stray. -/
theorem stray_moves {scope : ScopeId} (moves : system.Moves after) (bound : scope < system.scopes.length)
    (stray : after.Stray scope) : system.Stray scope := by
  induction moves with
  | refl => exact stray
  | @tail middle after moves move ih =>
    have there := Nat.lt_of_lt_of_le bound (Moves.length_le moves)
    have new {record : Scope} (stray : (middle.addScope record).2.Stray scope) : system.Stray scope :=
      ih ((stray_addScope stray).resolve_right fun last => absurd last.1 (Nat.ne_of_lt there))
    cases move with
    | keep bounds => exact ih (stray_of_parents (fun other => Scope.parent_of_bounds (bounds_eq bounds other)) stray)
    | reduce target concurrency =>
      exact ih (stray_of_parents (fun other => (Move.scope_reduce _ target other concurrency).1) stray)
    | root => exact new stray
    | child => exact new stray

/-- A scope that was there does not come to be in a nest, unless it is a stray. -/
theorem nestedSince_moves {count : Nat} {scope inner : ScopeId} (moves : system.Moves after)
    (bound : inner < system.scopes.length) (nested : after.NestedSince count scope inner) :
    system.NestedSince count scope inner ∨ system.Stray inner := by
  induction moves with
  | refl => exact .inl nested
  | @tail middle after moves move ih =>
    have there := Nat.lt_of_lt_of_le bound (Moves.length_le moves)
    rcases nestedSince_move move nested with old | stray | ⟨last, -⟩
    · exact ih old
    · exact .inr (stray_moves (moves.tail move) bound stray)
    · exact absurd last (Nat.ne_of_lt there)

/-- What a scope allows at one moment bounds the whole nest that grows in it from then on. -/
theorem Bounded.below (bounded : system.Bounded) (moves : system.Moves after) {scope inner : ScopeId}
    (existing : scope < system.scopes.length) (nested : after.NestedSince system.scopes.length scope inner) :
    after.Below (system.scope scope).pool (system.scope scope).concurrency inner := by
  induction moves generalizing inner with
  | refl =>
    cases nested with
    | refl => exact ⟨Nat.le_refl _, fun _ => rfl⟩
    | tail _ link => exact absurd link.2.lt (Nat.not_lt.mpr link.1)
  | @tail middle after moves move ih =>
    rcases nestedSince_move move nested with old | stray | ⟨rfl, outer, within, old, rfl⟩
    · exact (ih old).move move (old.lt (Nat.lt_of_lt_of_le existing (Moves.length_le moves)))
    · exact .of_zero (((bounded.moves moves).move move).stray inner stray)
    · obtain ⟨concurrency_le, pool_eq⟩ := ih old
      constructor
      · rw [scope_addScope, if_pos rfl]
        exact concurrency_le
      · rw [scope_addScope, if_pos rfl]
        exact pool_eq

/-! ## Every action -/

theorem Move.of_same (scopes : after.scopes = system.scopes) (stocks : system.Stocks after) : system.Move after :=
  .keep (congrArg (List.map Scope.bounds) scopes) stocks

theorem moves_of_same (scopes : after.scopes = system.scopes) (pools : after.pools = system.pools) :
    system.Moves after :=
  .single (.of_same scopes (.of_pools pools))

theorem scopes_getGlobalPool : system.getGlobalPool.2.scopes = system.scopes := by
  rw [getGlobalPool]
  split <;> rfl

theorem moves_getStandardRoot : system.Moves system.getStandardRoot.2 := by
  rw [getStandardRoot]
  split
  · exact .refl
  · let fixed : System := { system with setting := system.setting.concurrency.2 }
    have fix : system.Moves fixed := moves_of_same rfl rfl
    have made : system.Moves fixed.getGlobalPool.2 := fix.tail (.of_same scopes_getGlobalPool stocks_getGlobalPool)
    exact (made.tail (.root _ _)).tail (.of_same rfl (.of_pools rfl))

theorem moves_enclosing (thread : ThreadId) : system.Moves (system.enclosing thread).2 := by
  rw [enclosing]
  split
  · exact .refl
  · rw [supplyRoot]
    split
    · rename_i id factory _
      have counted : system.Moves (system.countLookup id) := moves_of_same rfl rfl
      cases source : factory.source with
      | scope root => exact counted
      | fresh pool concurrency => exact counted.tail (.root pool concurrency)
      | standard => exact counted.trans moves_getStandardRoot
    · exact moves_getStandardRoot

theorem moves_enterIn (thread : ThreadId) (parent : ScopeId) (tenure : Tenure) :
    system.Moves (system.enterIn thread parent tenure).2 := by
  have entered : system.Move (system.addScope _).2 := .child parent (system.activation thread).within
  exact (Relation.ReflTransGen.single entered).tail (.of_same rfl (.of_pools rfl))

variable {events : List Event}

/-- What an action leaves alone that is only about works, their leases and those who run them. -/
def backdrop (system : System) : System :=
  { system with pools := [], works := [], threads := [] }

theorem scopes_of_backdrop (same : after.backdrop = system.backdrop) : after.scopes = system.scopes := by
  have scopes (system : System) : system.backdrop.scopes = system.scopes := rfl
  rw [← scopes after, same, scopes]

theorem backdrop_acquire (pool : PoolId) (limit : Nat) : (system.acquire pool limit).2.backdrop = system.backdrop := by
  rw [acquire]
  dsimp only
  split
  · rfl
  · rfl
  · split <;> rfl

theorem backdrop_beginWork (thread : ThreadId) (work : WorkId) (snapshot : Option Stack) :
    (system.beginWork thread work snapshot).backdrop = system.backdrop := by
  cases snapshot <;> rfl

theorem backdrop_handOver (thread : ThreadId) (lease : Lease) (work : WorkId) (snapshot : Option Stack) :
    (system.handOver thread lease work snapshot).2.backdrop = system.backdrop := by
  rw [handOver]
  dsimp only
  split <;> first | exact backdrop_beginWork _ _ _ | rfl

theorem backdrop_endProgram (thread : ThreadId) : (system.endProgram thread).backdrop = system.backdrop := by
  rw [endProgram]
  split <;> rfl

theorem backdrop_vacate (work : WorkId) : (system.vacate work).backdrop = system.backdrop := by
  simp only [vacate]
  split <;> rfl

theorem backdrop_helperNext (helper : ThreadId) (station : Lease) :
    (system.helperNext helper station).2.backdrop = system.backdrop := by
  simp only [helperNext]
  split
  · exact backdrop_beginWork _ _ _
  · split <;> rfl

theorem backdrop_helperDies (helper : ThreadId) (station : Lease) :
    (system.helperDies helper station).2.backdrop = system.backdrop := by
  simp only [helperDies]
  split
  · rfl
  · exact backdrop_vacate _

theorem backdrop_foldl_retire (helpers : List ThreadId) (system : System) :
    (helpers.foldl retire system).backdrop = system.backdrop := by
  induction helpers generalizing system with
  | nil => rfl
  | cons helper rest ih => exact ih (system.retire helper)

/-- A logic that is submitted is counted in its scope. -/
theorem bounds_submit (thread : ThreadId) (scope : ScopeId) :
    (system.submit thread scope).2.scopes.map Scope.bounds = system.scopes.map Scope.bounds := by
  have counted (change : Scope → Scope) (same : ∀ record, (change record).bounds = record.bounds) :
      (((system.modifyScope scope Scope.countDispatched).acquire (system.scope scope).pool
        (system.scope scope).concurrency).2.modifyScope scope change).scopes.map Scope.bounds =
          system.scopes.map Scope.bounds := by
    rw [bounds_modifyScope scope same, scopes_of_backdrop (backdrop_acquire _ _)]
    exact bounds_modifyScope scope fun _ => rfl
  rw [submit]
  dsimp only
  split
  · rw [scopes_of_backdrop (backdrop_acquire _ _)]
    exact bounds_modifyScope scope fun _ => rfl
  · refine (congrArg (List.map Scope.bounds) (scopes_of_backdrop (backdrop_handOver _ _ _ _))).trans ?_
    exact counted Scope.countPooled fun _ => rfl
  · refine (congrArg (List.map Scope.bounds) (scopes_of_backdrop (backdrop_beginWork _ _ _))).trans ?_
    exact counted Scope.countInlined fun _ => rfl

theorem bounds_recordOutcome (work : WorkId) (outcome : Except Failure.TaskError Unit) (unwound : Bool) :
    (system.recordOutcome work outcome unwound).scopes.map Scope.bounds = system.scopes.map Scope.bounds := by
  simp only [recordOutcome]
  split
  · exact bounds_modifyScope _ fun record => record.bounds_record outcome
  · rfl

theorem bounds_completeWork (work : WorkId) :
    (system.completeWork work).scopes.map Scope.bounds = system.scopes.map Scope.bounds := by
  simp only [completeWork]
  split
  · exact bounds_modifyScope _ fun record => record.bounds_countOver _
  · rfl

/-- A scope that is left is closed. -/
theorem bounds_leave (sound : system.picture.Sound events) {thread : ThreadId}
    (enabled : system.Enabled (.leave thread)) :
    (system.perform (.leave thread)).scopes.map Scope.bounds = system.scopes.map Scope.bounds := by
  obtain ⟨-, -, scope, -, -, -, -, -, -, left⟩ := leave_cases sound enabled
  rw [left]
  exact bounds_modifyScope scope fun _ => rfl

theorem bounds_endLogic (thread : ThreadId) (outcome : Except Failure.TaskError Unit) :
    (system.perform (.endLogic thread outcome)).scopes.map Scope.bounds = system.scopes.map Scope.bounds := by
  simp only [perform, withCurrentWork]
  cases system.currentWork? thread with
  | none => rfl
  | some work =>
    have ended := scopes_of_backdrop (@backdrop_endProgram system thread)
    exact (bounds_recordOutcome work outcome _).trans (congrArg _ ended)

theorem bounds_complete (thread : ThreadId) :
    (system.perform (.complete thread)).scopes.map Scope.bounds = system.scopes.map Scope.bounds := by
  simp only [perform, withCurrentWork]
  cases system.currentWork? thread with
  | none => rfl
  | some work => exact bounds_completeWork work

/-- An action that has to do with no scope, and not with the registry or the setting, leaves the backdrop alone. -/
theorem backdrop_of_spares {action : Action} (spares : action.sparesScopes = true) (apart : action.isOutside = false) :
    (system.perform action).backdrop = system.backdrop := by
  cases action with
  | detach thread =>
    simp only [perform, detach]
    split <;> rfl
  | acquire thread pool limit name =>
    have had := @backdrop_acquire system pool limit
    simp only [perform, acquireFor]
    split <;> rename_i found <;> rw [found] at had <;> exact had
  | dropLease thread name | passLease thread other name =>
    simp only [perform, withLease]
    cases system.lease? thread name <;> rfl
  | dispatch thread name =>
    simp only [perform, withLease]
    cases system.lease? thread name with
    | none => rfl
    | some lease => exact backdrop_handOver _ _ _ _
  | free thread | vacate thread =>
    simp only [perform, withCurrentWork]
    cases system.currentWork? thread with
    | none => rfl
    | some work => exact backdrop_vacate work
  | endJob thread =>
    simp only [perform, withCurrentWork]
    cases system.currentWork? thread with
    | none => rfl
    | some work => exact (backdrop_vacate work).trans (backdrop_endProgram thread)
  | next station =>
    simp only [perform, withHelper]
    split
    · exact backdrop_helperNext _ station
    · exact backdrop_helperNext _ station
    · rfl
  | die station =>
    simp only [perform, withHelper]
    split
    · exact backdrop_helperDies _ station
    · exact backdrop_helperDies _ station
    · rfl
  | dropPool pool => exact backdrop_foldl_retire _ _
  | attach | makePool | bar | start | finish => rfl
  | makeFactory | reroute | register | configure => exact Bool.noConfusion apart
  | enter | enterIn | reduce | submit | beginExit | beginDrop | leave | endLogic | complete | makeRoot =>
    exact Bool.noConfusion spares

/-- An action that has to do with no scope leaves them all as they are. -/
theorem scopes_of_spares {action : Action} (spares : action.sparesScopes = true) :
    (system.perform action).scopes = system.scopes := by
  cases apart : action.isOutside with
  | false => exact scopes_of_backdrop (backdrop_of_spares spares apart)
  | true => cases action <;> first | rfl | exact Bool.noConfusion apart

/-- Every action moves bounds only by entering contexts, making roots and reducing. -/
theorem moves_perform (sound : system.picture.Sound events) {action : Action} (enabled : system.Enabled action) :
    system.Moves (system.perform action) := by
  have stocks := stocks_perform sound enabled
  have kept (bounds : (system.perform action).scopes.map Scope.bounds = system.scopes.map Scope.bounds) :
      system.Moves (system.perform action) := .single (.keep bounds stocks)
  cases action with
  | enter thread tenure => exact (moves_enclosing thread).trans (moves_enterIn thread _ tenure)
  | enterIn thread parent tenure => exact moves_enterIn thread parent tenure
  | reduce scope concurrency => exact .single (.reduce scope concurrency)
  | makeRoot pool concurrency => exact .single (.root pool concurrency)
  | submit thread scope => exact kept (bounds_submit thread scope)
  | beginExit thread scope | beginDrop thread scope => exact kept (bounds_modifyScope scope Scope.bounds_drain)
  | leave thread => exact kept (bounds_leave sound enabled)
  | endLogic thread outcome => exact kept (bounds_endLogic thread outcome)
  | complete thread => exact kept (bounds_complete thread)
  | attach | detach | acquire | dropLease | passLease | dispatch | free | endJob | vacate | next | die | makePool
  | dropPool | bar | makeFactory | reroute | register | configure | start | finish =>
    exact .single (.of_same (scopes_of_spares rfl) stocks)

end System

theorem Reaches.trans {first middle last : System} {history more : List Moment} (reached : Reaches first history middle)
    (continued : Reaches middle more last) : Reaches first (more ++ history) last := by
  induction continued with
  | start => exact reached
  | step _ enabled ih => exact ih.step enabled

theorem Reaches.bounded {setting : Setting.State} {history : List Moment} {system : System}
    (reached : Reaches (.initial setting) history system) : system.Bounded := by
  induction reached with
  | start =>
    refine ⟨fun _ => Nat.le_refl 0, fun scope stray => ?_⟩
    exact absurd stray.lt (Nat.not_lt_zero scope)
  | step reached enabled ih => exact ih.moves (System.moves_perform reached.sound enabled)

/-- Between two points of a run the bounds of scopes only move. -/
theorem Reaches.moves {setting : Setting.State} {past history : List Moment} {before system : System}
    (reached : Reaches (.initial setting) past before) (continued : Reaches before history system) :
    before.Moves system := by
  induction continued with
  | start => exact .refl
  | step continued enabled ih =>
    exact ih.trans (System.moves_perform (reached.trans continued).sound enabled)

end ScopedWork
