import ScopedWork.Setting.Config

/-! # The setting of the process

A process fixes its configuration once: explicitly, before anything has read it, or by its first
reader, who takes it from the environment. From then on every reader sees the same configuration
and every attempt to fix it again is refused.
-/

namespace ScopedWork.Setting

/-- The setting of one process and what it is taken from. -/
structure State where
  /-- How many helpers the hardware suggests: one fewer than its cores. -/
  hardware : Nat
  /-- The text of the environment variable; `none` when it is unset or not text. -/
  environment : Option String := none
  /-- The system has no stack of this many bytes or more; `none` if it has all. -/
  stackBound : Option Nat := none
  /-- The configuration, once it is fixed. -/
  fixed : Option Config := none
  deriving DecidableEq, Repr

namespace State

/-- The configuration the environment asks for. -/
def fromEnvironment (process : State) : Except Refusal Config :=
  match process.environment with
  | none => .ok {}
  | some text =>
    match readConcurrency text with
    | .ok value => .ok { concurrency := some value }
    | .error refusal => .error refusal

/-- What a first reader fixes: the environment's configuration, or the standard one if the
environment asks for nonsense. -/
def defaultConfig (process : State) : Config :=
  match process.fromEnvironment with
  | .ok config => config.resolved process.hardware
  | .error _ => Config.resolved process.hardware {}

/-- The configuration in force, fixing it if nobody has. -/
def read (process : State) : Config × State :=
  match process.fixed with
  | some config => (config, process)
  | none =>
    let config := process.defaultConfig
    (config, { process with fixed := some config })

/-- Fixes the configuration, unless it is fixed already. -/
def fix (process : State) (config : Config) : Except Refusal State :=
  match process.fixed with
  | some _ => .error .alreadyFixed
  | none => .ok { process with fixed := some (config.resolved process.hardware) }

/-- A fixed concurrency cannot be changed, and an open one not in this way. -/
def reconfigure (_process : State) (_concurrency : Nat) : Except Refusal State :=
  .error .alreadyFixed

/-- The concurrency in force, fixing the configuration if nobody has. -/
def concurrency (process : State) : Nat × State :=
  let (config, process) := process.read
  (config.effective process.hardware, process)

def setEnvironment (process : State) (text : Option String) : State :=
  { process with environment := text }

end State

end ScopedWork.Setting
