import ScopedWork.System.Ownership

/-! # Names

A program finds a context among its own first and then among the shared scopes. The names of a
program's contexts and leases and all shared names exclude each other.
-/

namespace ScopedWork

/-- The name under which a context may be used. -/
def Tenure.name? : Tenure → Option String
  | owned name | lent name => some name
  | hidden => none

/-- Whether a context belongs to the program itself, under this name. -/
def Handle.isOwnedAs (handle : Handle) (name : String) : Bool :=
  handle.tenure == .owned name

namespace System

variable (system : System) (thread : ThreadId)

def entry? (name : String) : Option Entry :=
  system.directory.lookup name

def isTaken (name : String) : Bool :=
  (system.activation thread).handles.any (·.tenure.name? == some name)
    || (system.activation thread).leases.any (·.1 == name)
    || (system.entry? name).isSome

def context? (name : String) : Option ScopeId :=
  (system.activation thread).handles.findSome? fun handle =>
    if handle.tenure.name? = some name then some handle.scope else none

def ownContext? (name : String) : Option ScopeId :=
  (system.activation thread).handles.findSome? fun handle =>
    if handle.isOwnedAs name then some handle.scope else none

def scope? (name : String) : Option ScopeId :=
  match system.context? thread name, system.entry? name with
  | some scope, _ => some scope
  | none, some (.scope scope) => some scope
  | none, _ => none

def object? (name : String) : Option Context :=
  match system.scope? thread name, system.entry? name with
  | some scope, _ => some (.scope scope)
  | none, some (.object kind) => some (.object kind name)
  | none, _ => none

def lease? (name : String) : Option Lease :=
  (system.activation thread).leases.lookup name

def pool? (name : String) : Option PoolId :=
  match system.entry? name with
  | some (.pool pool) => some pool
  | _ => none

def snapshot? (name : String) : Option Stack :=
  match system.entry? name with
  | some (.snapshot stack) => some stack
  | _ => none

def factory? (name : String) : Option FactoryId :=
  match system.entry? name with
  | some (.factory factory) => some factory
  | _ => none

def share (name : String) (entry : Entry) : System :=
  { system with directory := (name, entry) :: system.directory }

def unshare (name : String) : System :=
  { system with directory := system.directory.filter (·.1 ≠ name) }

def keepLease (name : String) (lease : Lease) : System :=
  system.modifyActivation thread fun a => { a with leases := (name, lease) :: a.leases }

def takeLease (name : String) : System :=
  system.modifyActivation thread fun a => { a with leases := a.leases.filter (·.1 ≠ name) }

def dropLeases : System :=
  let leases := (system.activation thread).leases
  (leases.foldl (fun system lease => system.release lease.2) system).modifyActivation thread
    ({ · with leases := [] })

end System

end ScopedWork
