import ModuleRuntime.Log.Logger

/-!
# The gate of a process

A process logs through a gate: a filter and behind it the logger, if one is installed. A text that
the filter does not admit does not reach the logger. Installing a logger sets the filter to what any
target may log.
-/

set_option autoImplicit false

namespace ModuleRuntime.Log

/-- The logger of a process, and the filter before it. -/
structure Gate where
  logger : Option Logger
  filter : Threshold

namespace Gate

/-- Makes a logger the one of the process, if it has none yet, and sets the filter for it. -/
def install (g : Gate) (l : Logger) : Result Gate :=
  (l.install g.logger).map fun installed => ⟨some installed, installed.config.maxThreshold⟩

/-- The gate after a text was logged at a time. -/
def log (g : Gate) (level : Level) (target text : String) (timestamp : Nat) : Gate :=
  if g.filter.admits level then
    { g with logger := g.logger.map (·.log level target text timestamp) }
  else g

end Gate

end ModuleRuntime.Log
