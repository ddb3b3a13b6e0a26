import ScopedWork.System.Dispatch

/-! # What is still referred to

A scope lives as long as someone refers to it: a context, a shared name, a frame of a stack or of
a snapshot, a factory, or a logic on its way through a helper. A scope does not keep its parent
alive. A pool lives as long as it is named or a living scope or a factory uses it; when it is no
longer, its helpers are dismissed.
-/

namespace ScopedWork

def Activation.refersTo (activation : Activation) (scope : ScopeId) : Bool :=
  activation.handles.any (·.scope == scope) || activation.saved.any (·.holds (.scope scope))

def Thread.refersTo (thread : Thread) (scope : ScopeId) : Bool :=
  thread.stack.holds (.scope scope) || thread.activations.any (·.refersTo scope)

def Work.refersTo (work : Work) (scope : ScopeId) : Bool :=
  match work.phase, work.station with
  | .over, _ | .discarded, _ | _, none => false
  | _, some _ =>
    work.kind == .logic scope || match work.snapshot with
      | some stack => stack.holds (.scope scope)
      | none => false

def Entry.refersTo (entry : Entry) (scope : ScopeId) : Bool :=
  match entry with
  | .scope id => id == scope
  | .snapshot stack => stack.holds (.scope scope)
  | .pool _ | .object _ | .factory _ => false

def Factory.uses (factory : Factory) (pool : PoolId) : Bool :=
  match factory.source with
  | .fresh used _ => used == pool
  | .scope _ | .standard => false

namespace System

variable (system : System)

def isAlive (scope : ScopeId) : Bool :=
  system.standardRoot == some scope
    || system.directory.any (·.2.refersTo scope)
    || system.factories.any (·.source == .scope scope)
    || system.threads.any (·.refersTo scope)
    || system.works.any (·.refersTo scope)

/-- The parent of a scope, if it is still alive. -/
def livingParent? (scope : ScopeId) : Option ScopeId :=
  (system.scope scope).parent.filter system.isAlive

/-- Whether a pool is still referred to by anything but a lease. -/
def isOwned (pool : PoolId) : Bool :=
  system.globalPool == some pool
    || system.directory.any (·.2 == .pool pool)
    || system.factories.any (·.uses pool)
    || (List.range system.scopes.length).any fun scope =>
        (system.scope scope).pool == pool && system.isAlive scope

/-- The pool is dropped: its helpers are dismissed, and those that were idle leave at once. -/
def shutdown (pool : PoolId) : System :=
  let leaving := (system.pool pool).slots.filterMap fun slot => match slot.helper with
    | .idle thread => some thread
    | .absent | .busy _ _ => none
  leaving.foldl retire (system.modifyPool pool Pool.shutdown)

/-- A pool that nothing refers to any more, but whose helpers have not been dismissed. -/
def abandonedPool? : Option PoolId :=
  (List.range system.pools.length).find? fun pool =>
    (system.pool pool).isConnected && !system.isOwned pool

/-- Dismisses the helpers of at most `count` pools, one pool after the other. -/
def dismissUpTo (system : System) : (count : Nat) → System
  | 0 => system
  | count + 1 =>
    match system.abandonedPool? with
    | none => system
    | some pool => dismissUpTo (system.shutdown pool) count

/-- Dismisses the helpers of every pool that nothing refers to any more. A helper that leaves takes
its stack along, so that the last reference to another pool may vanish with it. -/
def dismiss : System :=
  system.dismissUpTo system.pools.length

end System

end ScopedWork
