import ScopedWork.Program.Op

/-! # Acts on the stack of the running thread

Contexts of any kind are pushed, popped, removed and looked up, and the stack as it is can be
shared as a snapshot.
-/

namespace ScopedWork.Program

variable (system : System) (thread : ThreadId)

def withObject (name : String) (answer : Context → Reply × System) : Reply × System :=
  match system.object? thread name with
  | none => (.fault (.noSuch .object), system)
  | some context => answer context

def StackAct.perform : StackAct → Reply × System
  | .object name kind =>
    if system.isTaken thread name then (.fault .nameInUse, system)
    else
      match kind with
      | none => (.fault .unknownKind, system)
      | some kind => (.ok, system.share name (.object kind))
  | .push name =>
    withObject system thread name fun context =>
      (.ok, system.setStack thread ((system.stack thread).push context))
  | .pop name =>
    withObject system thread name fun context =>
      match (system.stack thread).pop context with
      | .error error => (.checked (some error), system)
      | .ok stack => (.checked none, system.setStack thread stack)
  | .remove name =>
    withObject system thread name fun context =>
      match (system.stack thread).remove? context with
      | none => (.flag false, system)
      | some stack => (.flag true, system.setStack thread stack)
  | .ensure name =>
    withObject system thread name fun context =>
      match (system.stack thread).ensureCurrent context with
      | .error error => (.checked (some error), system)
      | .ok () => (.checked none, system)
  | .isCurrent name =>
    withObject system thread name fun context =>
      (.flag ((system.stack thread).isCurrent context), system)
  | .current none => (.fault .unknownKind, system)
  | .current (some kind) => (.context ((system.stack thread).find? kind), system)
  | .depth => (.number (system.stack thread).depth, system)
  | .snapshot name empty =>
    if system.isTaken thread name then (.fault .nameInUse, system)
    else
      let stack := if empty then {} else system.stack thread
      (.number stack.depth, system.share name (.snapshot stack))
  | .snapshotInfo name =>
    match system.snapshot? name with
    | none => (.fault (.noSuch .snapshot), system)
    | some stack => (.snapshot stack, system)
  | .dropSnapshot name =>
    match system.snapshot? name with
    | none => (.fault (.noSuch .snapshot), system)
    | some _ => (.ok, system.unshare name)

end ScopedWork.Program
