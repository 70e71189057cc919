/-!
# Handles

A loaded module is known by its context, the generation of that context and its slot. A context that
is unloaded starts another generation, so old handles name nothing in it.
-/

set_option autoImplicit false

namespace ModuleRuntime.Module

/-- Where a module is loaded. -/
structure Handle where
  context : UInt32
  generation : UInt32
  slot : UInt32
  deriving DecidableEq

/-- The parts of a handle, with colons between them. -/
def Handle.text (h : Handle) : String :=
  s!"{h.context.toNat}:{h.generation.toNat}:{h.slot.toNat}"

end ModuleRuntime.Module
