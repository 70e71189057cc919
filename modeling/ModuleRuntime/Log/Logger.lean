import ModuleRuntime.Error
import ModuleRuntime.Log.Config
import ModuleRuntime.Log.Record

/-!
# Loggers

A logger keeps the records that its configuration admits. A process has one logger, and the first
that is installed stays.
-/

set_option autoImplicit false

namespace ModuleRuntime.Log

/-- A configuration, and the records kept so far. -/
structure Logger where
  config : Config
  records : List Record

namespace Logger

/-- A logger without records. -/
def new (config : Config) : Logger :=
  ⟨config, []⟩

/-- Whether a record would be kept. -/
def enabled (l : Logger) (level : Level) (target : String) : Bool :=
  l.config.admits target level

/-- The logger after a text was logged at a time. -/
def log (l : Logger) (level : Level) (target text : String) (timestamp : Nat) : Logger :=
  if l.enabled level target then
    { l with records := l.records ++ [.parse level target text timestamp] }
  else l

/-- The kept records of an event. -/
def events (l : Logger) (event : String) : List Record :=
  l.records.filter fun r => r.event == event

/-- The logger without its records. -/
def clear (l : Logger) : Logger :=
  { l with records := [] }

/-- Makes a logger the one of the process, which may have one already. -/
def install (installed : Option Logger) (l : Logger) : Result Logger :=
  match installed with
  | some _ => .error .loggerInstalled
  | none => .ok l

end Logger

end ModuleRuntime.Log
