import ScopedWork.Program.Reply

/-! # Programs

A program is a list of operations. Most operations are *acts*: they look at the process or change
it and are over at once. The others run programs, wait for work to be over, or may panic. A logic
or a job is a program with a label and an ending.
-/

namespace ScopedWork.Program

open Failure (Payload)

inductive PoolAct where
  | make (name : String) (capacity : Nat) (choices : List Setting.Choice)
  | makeStandard (name : String)
  | info (name : String)
  | leaseInfo (lease : String)
  | dropLease (lease : String)
  | free
  deriving DecidableEq, Repr

inductive ScopeAct where
  | root (name pool : String) (concurrency : Nat)
  | enter (name : String)
  | enterIn (scope name : String)
  | set (context : String) (concurrency : Nat)
  | reduce (scope : String) (concurrency : Nat)
  | concurrency (context : String)
  | currentConcurrency
  | stats (scope : String)
  | info (scope : String)
  | contextForm (context : String)
  | parent (scope : String)
  | samePool (first second : String)
  | lastError
  | takePayload
  | resume
  | keep (scope name : String)
  | forget (name : String)
  deriving DecidableEq, Repr

inductive StackAct where
  | object (name : String) (kind : Option ObjectKind)
  | push (name : String)
  | pop (name : String)
  | remove (name : String)
  | ensure (name : String)
  | isCurrent (name : String)
  | current (kind : Option Capability)
  | depth
  | snapshot (name : String) (empty : Bool)
  | snapshotInfo (name : String)
  | dropSnapshot (name : String)
  deriving DecidableEq, Repr

/-- What a new factory is to supply. -/
inductive FactorySpec where
  | root (scope : String)
  | fresh (pool : String) (concurrency : Nat)
  | standard
  deriving DecidableEq, Repr

inductive RegistryAct where
  | factory (name : String) (spec : FactorySpec)
  | register (name : String)
  | unregister
  | isRegistered
  | root
  | lookups (name : String)
  deriving DecidableEq, Repr

/-- Acts on the setting of the process, its global pool and its standard root. -/
inductive SettingAct where
  | setEnvironment (text : Option String)
  | fromEnvironment
  | read
  | fix (choices : List Setting.Choice)
  | reconfigure (concurrency : Nat)
  | concurrency
  | hardware
  | globalPool
  | standardRoot (name : String)
  deriving DecidableEq, Repr

/-- Operations that are over at once. -/
inductive Act where
  | pools (act : PoolAct)
  | scopes (act : ScopeAct)
  | stacks (act : StackAct)
  | registry (act : RegistryAct)
  | setting (act : SettingAct)
  | note (value : String)
  | threadName
  | add (counter : String) (amount : Nat)
  | unknown (title : Title)
  deriving DecidableEq, Repr

/-- An error that a logic can be told to return. -/
inductive Failing where
  | text (text : String)
  | coded (code : Int) (text : String)
  deriving DecidableEq, Repr

/-- How a logic or a job ends once its operations are over. -/
inductive Ending where
  | success
  | panic (payload : Payload)
  | fail (failing : Failing)
  /-- As its last error says: the panic in it goes on, or else the error is returned. -/
  | rethrow
  /-- With the panic in its last error, if there is one. -/
  | repanic
  /-- With a panic that kills the helper it reaches. -/
  | bomb
  deriving DecidableEq, Repr

/-- How a logic ends that has no way to return an error: what would be an error is success. -/
def Ending.withoutError : Ending → Ending
  | success => .success
  | panic payload => .panic payload
  | fail _ => .success
  | rethrow => .repanic
  | repanic => .repanic
  | bomb => .bomb

structure Logic (Op : Type) where
  label : String
  /-- A quiet one leaves nothing in the log but its holds. -/
  quiet : Bool
  body : List Op
  ending : Ending

instance {Op : Type} : Inhabited (Logic Op) :=
  ⟨{ label := "", quiet := false, body := [], ending := .success }⟩

/-- An operation of a program. -/
inductive Op where
  | act (act : Act)
  | acquire (pool lease : String) (limit : Nat)
  /-- Waits to be released, if the program runs on another thread than its submitter's. -/
  | hold
  | release (label : String)
  | exec (context : String) (logic : Logic Op)
  | executeAll (logics : List (Logic Op))
  | concurrent (logics : List (Logic Op))
  | dispatch (lease : String) (job : Logic Op)
  | exit (context : String)
  | drop (context : String)
  | withContext (name : String) (body : List Op) (value : String) (panic : Option Payload)
  | attach (snapshot : String) (body : List Op) (panic : Option Payload)
  | thread (snapshot : Option String) (body : List Op)
  | repeated (count : Nat) (body : List Op)
  | burst (context : String) (count failEvery : Nat)
  | sum (low high leaf : Nat)
  | dropPool (pool : String) (release : Bool)

instance : Inhabited Op := ⟨.hold⟩

/-! ## Names of operations -/

def PoolAct.name : PoolAct → String
  | .make .. => "pool"
  | .makeStandard _ => "g_new_pool"
  | .info _ => "pool_info"
  | .leaseInfo _ => "lease_info"
  | .dropLease _ => "drop_lease"
  | .free => "free"

def ScopeAct.name : ScopeAct → String
  | .root .. => "root"
  | .enter _ => "enter"
  | .enterIn .. => "enter_in"
  | .set .. => "set"
  | .reduce .. => "reduce"
  | .concurrency _ => "concurrency"
  | .currentConcurrency => "current_concurrency"
  | .stats _ => "stats"
  | .info _ => "scope_info"
  | .contextForm _ => "ctx_debug"
  | .parent _ => "parent"
  | .samePool .. => "same_pool"
  | .lastError => "error"
  | .takePayload => "take_payload"
  | .resume => "resume"
  | .keep .. => "keep"
  | .forget _ => "forget"

def StackAct.name : StackAct → String
  | .object .. => "object"
  | .push _ => "push"
  | .pop _ => "pop"
  | .remove _ => "remove"
  | .ensure _ => "ensure"
  | .isCurrent _ => "is_current"
  | .current _ => "current"
  | .depth => "depth"
  | .snapshot .. => "snapshot"
  | .snapshotInfo _ => "snap_info"
  | .dropSnapshot _ => "drop_snap"

def RegistryAct.name : RegistryAct → String
  | .factory .. => "factory"
  | .register _ => "register"
  | .unregister => "unregister"
  | .isRegistered => "is_registered"
  | .root => "registry_root"
  | .lookups _ => "lookups"

def SettingAct.name : SettingAct → String
  | .setEnvironment _ => "g_set_env"
  | .fromEnvironment => "g_from_env"
  | .read => "g_get"
  | .fix _ => "g_init"
  | .reconfigure _ => "g_reconfigure"
  | .concurrency => "g_concurrency"
  | .hardware => "g_hardware"
  | .globalPool => "g_pool"
  | .standardRoot _ => "g_default_root"

def Act.title : Act → Title
  | .pools act => .word act.name
  | .scopes act => .word act.name
  | .stacks act => .word act.name
  | .registry act => .word act.name
  | .setting act => .word act.name
  | .note _ => .word "note"
  | .threadName => .word "thread_name"
  | .add .. => .word "add"
  | .unknown title => title

def Op.title : Op → Title
  | .act a => a.title
  | .acquire .. => .word "acquire"
  | .hold => .word "hold"
  | .release _ => .word "release"
  | .exec .. => .word "exec"
  | .executeAll _ => .word "exec_all"
  | .concurrent _ => .word "concurrent"
  | .dispatch .. => .word "dispatch"
  | .exit _ => .word "exit"
  | .drop _ => .word "drop"
  | .withContext .. => .word "with_context"
  | .attach .. => .word "attach"
  | .thread .. => .word "thread"
  | .repeated .. => .word "repeat"
  | .burst .. => .word "burst"
  | .sum .. => .word "sum"
  | .dropPool .. => .word "drop_pool"

/-! ## Pauses -/

mutual

/-- How often the operation can pause a work: each work submitted may have to wait for its helper
once, and each hold stops it once more. -/
def Op.pauses : Op → Nat
  | .act _ | .acquire .. | .release _ | .exit _ | .drop _ | .dropPool .. => 0
  | .hold => 1
  | .exec _ logic | .dispatch _ logic => Op.pausesOfLogic logic
  | .executeAll logics | .concurrent logics => Op.pausesOfLogics logics
  | .withContext _ body _ _ | .attach _ body _ | .thread _ body => Op.pausesOfBody body
  | .repeated count body => count * Op.pausesOfBody body
  | .burst _ count _ => count
  | .sum low high _ => 2 * (high - low)

def Op.pausesOfBody : List Op → Nat
  | [] => 0
  | op :: rest => op.pauses + Op.pausesOfBody rest

def Op.pausesOfLogic : Logic Op → Nat
  | ⟨_, _, body, _⟩ => 1 + Op.pausesOfBody body

def Op.pausesOfLogics : List (Logic Op) → Nat
  | [] => 0
  | logic :: rest => Op.pausesOfLogic logic + Op.pausesOfLogics rest

end

end ScopedWork.Program
