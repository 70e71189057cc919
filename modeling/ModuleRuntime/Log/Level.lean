/-!
# Log levels

Five levels from the gravest to the most detailed, and thresholds, which admit the levels up to one
of them or none.
-/

set_option autoImplicit false

namespace ModuleRuntime.Log

/-- How grave a record is. -/
inductive Level where
  | error
  | warn
  | info
  | debug
  | trace
  deriving DecidableEq, Repr

/-- The rank of a level; a more detailed level has a higher one. -/
def Level.rank : Level → Nat
  | error => 1
  | warn => 2
  | info => 3
  | debug => 4
  | trace => 5

/-- The name of a level. -/
def Level.name : Level → String
  | error => "ERROR"
  | warn => "WARN"
  | info => "INFO"
  | debug => "DEBUG"
  | trace => "TRACE"

/-- Up to which level records are admitted. -/
inductive Threshold where
  | off
  | upTo (level : Level)
  deriving DecidableEq, Repr

namespace Threshold

/-- The rank of the most detailed level that is admitted. -/
def rank : Threshold → Nat
  | off => 0
  | upTo level => level.rank

/-- The name of a threshold. -/
def name : Threshold → String
  | off => "OFF"
  | upTo level => level.name

/-- Whether a level is admitted. -/
def admits (t : Threshold) (level : Level) : Bool :=
  decide (level.rank ≤ t.rank)

/-- The threshold that admits more. -/
def max (s t : Threshold) : Threshold :=
  if s.rank ≤ t.rank then t else s

/-- The threshold of a name in any case; a name that is none counts as `INFO`. -/
def ofName (name : String) : Threshold :=
  match String.ofList (name.toList.map Char.toUpper) with
  | "OFF" => off
  | "ERROR" => upTo .error
  | "WARN" => upTo .warn
  | "WARNING" => upTo .warn
  | "DEBUG" => upTo .debug
  | "TRACE" => upTo .trace
  | "VERBOSE" => upTo .trace
  | _ => upTo .info

end Threshold

end ModuleRuntime.Log
