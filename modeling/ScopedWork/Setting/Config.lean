import ScopedWork.Setting.Number
import ScopedWork.Text.Form

/-! # The configuration of helper threads

How many helpers a process may use, what their names begin with, and how large their stacks are.
A concurrency that is left open is the hardware's; any concurrency is cut at `limit`.
-/

namespace ScopedWork.Setting

/-- The variable of the environment that gives the concurrency. -/
def variableName : String := "CONCURRENT_CONTEXT_CONCURRENCY"

/-- No process uses more helpers than this. -/
def limit : Nat := 65536

def clamp (value : Nat) : Nat :=
  min value limit

/-- Why a setting was refused. -/
inductive Refusal where
  /-- The setting is fixed once and has been fixed already. -/
  | alreadyFixed
  /-- The text given under the key is no number of helpers. -/
  | notANumber (key value : String)
  deriving DecidableEq, Repr

/-- Reads a concurrency; a refused text is quoted as it was given, blanks included. -/
def readConcurrency (text : String) : Except Refusal Nat :=
  match readWord? text with
  | some value => .ok value
  | none => .error (.notANumber variableName text)

/-- What a pool of helpers is made from. -/
structure Config where
  /-- The number of helpers; `none` leaves it to the hardware. -/
  concurrency : Option Nat := none
  /-- The beginning of every helper's name. -/
  nameStem : String := "concurrent-context"
  /-- The size of a helper's stack in bytes; `none` leaves it to the system. -/
  stackSize : Option Nat := none
  deriving DecidableEq, Repr

/-- One setting of a configuration; a later one of the same kind replaces an earlier one. -/
inductive Choice where
  | concurrency (value : Nat)
  | nameStem (stem : String)
  | stackSize (bytes : Nat)
  deriving DecidableEq, Repr

namespace Config

def choose (config : Config) : Choice → Config
  | .concurrency value => { config with concurrency := some value }
  | .nameStem stem => { config with nameStem := stem }
  | .stackSize bytes => { config with stackSize := some bytes }

/-- The standard configuration with the choices applied in turn. -/
def ofChoices (choices : List Choice) : Config :=
  choices.foldl choose {}

/-- The number of helpers this configuration comes to on hardware that offers `hardware`. -/
def effective (hardware : Nat) (config : Config) : Nat :=
  clamp (config.concurrency.getD hardware)

def resolved (hardware : Nat) (config : Config) : Config :=
  { config with concurrency := some (config.effective hardware) }

def form (config : Config) : String :=
  Text.record "ContextConfig"
    [("concurrency", Text.optional (config.concurrency.map toString)),
     ("thread_name_prefix", Text.quoted config.nameStem),
     ("stack_size", Text.optional (config.stackSize.map toString))]

end Config

namespace Refusal

def message : Refusal → String
  | alreadyFixed => "concurrency reconfiguration not supported"
  | notANumber key value =>
    "invalid value " ++ Text.quoted value ++ " for " ++ key ++ ": expected a non-negative integer"

def form : Refusal → String
  | alreadyFixed => "ReconfigurationNotSupported"
  | notANumber key value =>
    Text.record "InvalidValue" [("key", Text.quoted key), ("value", Text.quoted value)]

end Refusal

end ScopedWork.Setting
