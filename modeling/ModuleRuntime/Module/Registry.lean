import ModuleRuntime.Dictionary
import ModuleRuntime.Error
import ModuleRuntime.Journaled
import ModuleRuntime.Log.Entry
import ModuleRuntime.Module.Descriptor
import ModuleRuntime.Module.Handle

/-!
# The registry of modules

Every module has two identities, its id and the name of its assembly, and no identity may be held
twice: not by the core, not by modules that are being loaded, not by loaded ones. A reservation
claims both identities of a module; promoting it makes the module a loaded one. The order in which
modules were promoted is kept in a list of its own.
-/

set_option autoImplicit false

namespace ModuleRuntime.Module

/-- A loaded module. -/
structure Loaded where
  descriptor : Descriptor
  handle : Handle
  isDynamic : Bool
  deriving DecidableEq

/-- The set that holds a loaded module. -/
def Loaded.holder (m : Loaded) : Holder :=
  if m.isDynamic then .dynamicLoaded else .staticLoaded

/-- Why a reservation was refused: an identity of the module is held already. -/
structure Conflict where
  moduleId : String
  name : String
  holder : Holder
  deriving DecidableEq

namespace Conflict

/-- A module with an identity of the core was packed wrongly. -/
def isFatal (c : Conflict) : Bool :=
  c.holder == .core

/-- The failure of a load that met a conflict. -/
def error (c : Conflict) : Error :=
  .conflict c.moduleId (.identity c.name c.holder)

end Conflict

/-- The names of the core, the modules that are being loaded, the loaded modules, their ids in the
order in which they were promoted, and whose handle is whose. -/
structure Registry where
  core : List String
  staticPending : Dictionary String Descriptor
  dynamicPending : Dictionary String Descriptor
  loaded : Dictionary String Loaded
  loadOrder : List String
  owners : Dictionary Handle String

namespace Registry

/-- The registry that holds nothing but the core. -/
def new (core : List String) : Registry :=
  ⟨core, .empty, .empty, .empty, [], .empty⟩

/-! ## Questions -/

/-- Whether a name is one of the core. -/
def isCore (r : Registry) (name : String) : Bool :=
  r.core.contains name

/-- The set that holds a module id, the core apart. -/
def holderOfId? (r : Registry) (id : String) : Option Holder :=
  if r.staticPending.contains id then some .staticPending
  else if r.dynamicPending.contains id then some .dynamicPending
  else (r.loaded.find? id).map (·.holder)

/-- The set that holds the name of an assembly, the core apart. -/
def holderOfAssembly? (r : Registry) (assembly : String) : Option Holder :=
  if r.staticPending.values.any (·.assembly == assembly) then some .staticPending
  else if r.dynamicPending.values.any (·.assembly == assembly) then some .dynamicPending
  else (r.loaded.values.find? (·.descriptor.assembly == assembly)).map (·.holder)

/-- Whether a module id is pending or loaded. -/
def contains (r : Registry) (id : String) : Bool :=
  (r.holderOfId? id).isSome

/-- Whether a name is one of the core, or the id or assembly of a pending or loaded module. -/
def knows (r : Registry) (name : String) : Bool :=
  r.isCore name || r.contains name || (r.holderOfAssembly? name).isSome

/-- The loaded module with a handle. -/
def owner? (r : Registry) (h : Handle) : Option Loaded :=
  (r.owners.find? h).bind r.loaded.find?

/-- Whether a handle is that of a dynamic module that supports reloads. -/
def isReloadable (r : Registry) (h : Handle) : Bool :=
  (r.owner? h).any fun m => m.isDynamic && m.descriptor.supportsReload

/-- What the module with a handle is. -/
def kindOf? (r : Registry) (h : Handle) : Option Kind :=
  (r.owner? h).map (·.descriptor.kind)

/-- The handle of a loaded module. -/
def handleOf? (r : Registry) (id : String) : Option Handle :=
  (r.loaded.find? id).map (·.handle)

/-- The descriptor of a loaded or pending module. -/
def descriptor? (r : Registry) (id : String) : Option Descriptor :=
  ((r.loaded.find? id).map (·.descriptor)) <|> r.staticPending.find? id
    <|> r.dynamicPending.find? id

/-- The loaded modules in the order in which they were loaded, with their handles. -/
def inLoadOrder (r : Registry) : List Loaded :=
  r.loadOrder.filterMap r.loaded.find?

/-- The descriptors of the loaded modules in the order in which they were loaded. -/
def list (r : Registry) : List Descriptor :=
  r.inLoadOrder.map (·.descriptor)

/-- The ids of the loaded modules in the order in which they were loaded. -/
def loadedIds (r : Registry) : List String :=
  r.list.map (·.id)

/-- The number of modules that are being loaded. -/
def pendingCount (r : Registry) : Nat :=
  r.staticPending.size + r.dynamicPending.size

/-! ## Changes -/

/-- The conflict of a module with what is held: its id is looked for before its assembly, and the
core before all others. -/
def conflict? (r : Registry) (d : Descriptor) : Option Conflict :=
  if r.isCore d.id then some ⟨d.id, d.id, .core⟩
  else if r.isCore d.assembly then some ⟨d.id, d.assembly, .core⟩
  else ((r.holderOfId? d.id).map fun holder => ⟨d.id, d.id, holder⟩)
    <|> ((r.holderOfAssembly? d.assembly).map fun holder => ⟨d.id, d.assembly, holder⟩)

/-- The registry with one more module that is being loaded. -/
def addPending (r : Registry) (d : Descriptor) (isDynamic : Bool) : Registry :=
  if isDynamic then { r with dynamicPending := r.dynamicPending.put d.id d }
  else { r with staticPending := r.staticPending.put d.id d }

/-- The module with an id that is being loaded, whether it is dynamic, and the registry without
it. -/
def takePending? (r : Registry) (id : String) : Option (Descriptor × Bool × Registry) :=
  match r.staticPending.find? id with
  | some d => some (d, false, { r with staticPending := r.staticPending.erase id })
  | none => (r.dynamicPending.find? id).map fun d =>
      (d, true, { r with dynamicPending := r.dynamicPending.erase id })

/-- The loaded module with an id, and the registry without it. -/
def takeLoaded? (r : Registry) (id : String) : Option (Descriptor × Registry) :=
  (r.loaded.find? id).map fun m =>
    (m.descriptor, { r with
      loaded := r.loaded.erase id
      loadOrder := r.loadOrder.filter (· ≠ id)
      owners := r.owners.erase m.handle })

/-- Logs what becomes of a module. -/
def log (level : Log.Level) (event message : String) (fields : List (String × String)) :
    Journaled Log.Entry PUnit :=
  Journaled.tell ⟨level, "rtx.mod", event, message, fields⟩

/-- Claims the identities of a module. -/
def reserve (r : Registry) (d : Descriptor) (isDynamic : Bool) :
    Journaled Log.Entry (Except Conflict Registry) :=
  match r.conflict? d with
  | some c => do
    log .error "mod.registry.conflict" "module identity already taken"
      [("module", d.id), ("assembly", d.assembly), ("name", c.name), ("against", c.holder.name)]
    return .error c
  | none => do
    log .debug "mod.registry.reserved" "module id reserved"
      [("module", d.id), ("set", if isDynamic then "DynamicPending" else "StaticPending")]
    return .ok (r.addPending d isDynamic)

/-- Makes a pending module a loaded one. -/
def promote (r : Registry) (id : String) (h : Handle) : Result Registry :=
  match r.takePending? id with
  | none => .error (.misplaced (.notPending id))
  | some (d, isDynamic, r) =>
    .ok { r with
      loaded := r.loaded.put id ⟨d, h, isDynamic⟩
      loadOrder := r.loadOrder ++ [id]
      owners := r.owners.put h id }

/-- Gives up the claim of a pending module. Answers whether there was one. -/
def giveUp (r : Registry) (id : String) : Journaled Log.Entry (Bool × Registry) :=
  match r.takePending? id with
  | none => return (false, r)
  | some (_, _, r) => do
    log .debug "mod.registry.released" "pending reservation released" [("module", id)]
    return (true, r)

/-- Forgets a loaded module. -/
def forget (r : Registry) (id : String) :
    Journaled Log.Entry (Option Descriptor × Registry) :=
  match r.takeLoaded? id with
  | none => return (none, r)
  | some (d, r) => do
    log .debug "mod.registry.unloaded" "loaded module released" [("module", id)]
    return (some d, r)

/-- The ids of the dynamic modules in the order in which they were loaded. -/
def dynamicIds (r : Registry) : List String :=
  r.loadOrder.filter fun id => (r.loaded.find? id).any (·.isDynamic)

/-- Forgets the dynamic modules. Answers with them in the order in which they were loaded. -/
def forgetDynamic (r : Registry) : List Descriptor × Registry :=
  r.dynamicIds.foldl (fun (released, r) id =>
    match r.takeLoaded? id with
    | some (d, r) => (released ++ [d], r)
    | none => (released, r)) ([], r)

end Registry

end ModuleRuntime.Module
