import ModuleRuntime.Module.Descriptor

/-!
# The order of a batch

A module of a batch is loaded behind the modules of the batch to which it refers. Of several modules
with one name the first is meant. The next module is always the first one whose dependencies have
been placed; the modules that are never placed stand in a cycle of references or refer to such.
-/

set_option autoImplicit false

namespace ModuleRuntime.Module.LoadOrder

/-- The first module with a name. -/
def holder? (ds : List Descriptor) (name : String) : Option Nat :=
  ds.findIdx? fun d => d.isNamed name

/-- The other modules to which a module refers. -/
def dependencies (ds : List Descriptor) (i : Nat) : List Nat :=
  match ds[i]? with
  | some d => (d.references.filterMap (holder? ds)).filter (· ≠ i)
  | none => []

/-- Whether a module can be placed next. -/
def isReady (ds : List Descriptor) (placed : List Nat) (i : Nat) : Bool :=
  !placed.contains i && (dependencies ds i).all placed.contains

/-- Places at most a number of modules behind others. -/
def extend (ds : List Descriptor) : Nat → List Nat → List Nat
  | 0, placed => placed
  | n + 1, placed =>
    match (List.range ds.length).find? (isReady ds placed) with
    | some i => extend ds n (placed ++ [i])
    | none => placed

/-- The modules that can be placed, in their order. -/
def order (ds : List Descriptor) : List Nat :=
  extend ds ds.length []

/-- The modules that cannot be placed. -/
def cyclic (ds : List Descriptor) : List Nat :=
  (List.range ds.length).filter fun i => !(order ds).contains i

end ModuleRuntime.Module.LoadOrder
