import ModuleRuntime.Journaled
import ModuleRuntime.Log.Entry

/-!
# The gauge of open inspections

A live reload may only end while no inspection is open. It arms the gauge, and when the last of the
open inspections closes while the gauge is armed, the gauge is ready.
-/

set_option autoImplicit false

namespace ModuleRuntime.Module

/-- How many inspections are open, whether somebody waits for the last of them to close, and whether
it has closed since. -/
structure Gauge where
  openCount : Nat
  isWaiting : Bool
  isReady : Bool
  deriving DecidableEq

namespace Gauge

/-- No inspection is open and nobody waits. -/
def idle : Gauge :=
  ⟨0, false, false⟩

/-- One more inspection is open. -/
def acquire (g : Gauge) : Gauge :=
  { g with openCount := g.openCount + 1 }

/-- The entry for the last inspection that closes while somebody waits. -/
def drained : Log.Entry :=
  ⟨.debug, "rtx.mod.loader", "mod.inspector.drained",
    "last inspector closed while a reload was waiting", []⟩

/-- An inspection closes. -/
def release (g : Gauge) : Journaled Log.Entry Gauge :=
  if g.openCount = 1 ∧ g.isWaiting then do
    Journaled.tell drained
    return ⟨0, false, true⟩
  else return { g with openCount := g.openCount - 1 }

/-- Waits for the open inspections to close, unless none is open. Answers whether none is. -/
def arm (g : Gauge) : Bool × Gauge :=
  if g.openCount = 0 then (true, ⟨0, false, false⟩) else (false, ⟨g.openCount, true, false⟩)

/-- Whether the last inspection has closed since somebody waited; asked again, it has not. -/
def takeReady (g : Gauge) : Bool × Gauge :=
  (g.isReady, { g with isReady := false })

end Gauge

end ModuleRuntime.Module
