import ModuleRuntime.Module.Host
import ModuleRuntime.Module.Linker

/-!
# Load contexts

A context holds modules in the order in which they were loaded, each with its entry points, and
passes calls on to them in that order. A context that supports reloads can be unloaded as a whole:
every entry point is shut down, then every entry point is disposed of, and the next generation
begins, so that handles of the last one name nothing any more.
-/

set_option autoImplicit false

namespace ModuleRuntime.Module

/-- A module in a context. -/
structure Slot where
  descriptor : Descriptor
  image : Image
  handle : Handle
  hosts : List Host
  deriving DecidableEq

/-- A module that was unloaded, with the image from which it was loaded. -/
structure Unloaded where
  descriptor : Descriptor
  image : Image
  deriving DecidableEq

/-- The modules of a context, what it gives to the entry points that it creates, and where it is in
its life. -/
structure Context where
  id : UInt32
  name : String
  supportsReload : Bool
  generation : UInt32
  isReloading : Bool
  linkers : LinkerSequence
  dependencies : Dependencies
  callbacks : List Service
  pending : Dictionary String Descriptor
  loaded : Dictionary String Descriptor
  slots : List Slot

namespace Context

/-- A context without modules. -/
def new (id : UInt32) (name : String) (supportsReload : Bool) (linkers : LinkerSequence) :
    Context :=
  ⟨id, name, supportsReload, 0, false, linkers, .none, [], .empty, .empty, []⟩

/-! ## Questions -/

/-- The number of modules. -/
def moduleCount (c : Context) : Nat :=
  c.slots.length

/-- All entry points in the order of their modules. -/
def hosts (c : Context) : List Host :=
  c.slots.flatMap (·.hosts)

/-- Whether a module with an id is loaded. -/
def contains (c : Context) (id : String) : Bool :=
  c.loaded.contains id

/-- Whether a handle names a module of the current generation. -/
def isLive (c : Context) (h : Handle) : Bool :=
  h.context == c.id && h.generation == c.generation && h.slot.toNat < c.slots.length

/-- The module with a handle. -/
def slot? (c : Context) (h : Handle) : Option Slot :=
  if c.isLive h then c.slots[h.slot.toNat]? else none

/-- The descriptor of the module with a handle. -/
def descriptor? (c : Context) (h : Handle) : Option Descriptor :=
  (c.slot? h).map (·.descriptor)

/-- How far the entry points of the module with a handle have come. -/
def states? (c : Context) (h : Handle) : Option (List EntryState) :=
  (c.slot? h).map fun s => s.hosts.map (·.state)

/-- The handles of all modules. -/
def handles (c : Context) : List Handle :=
  c.slots.map (·.handle)

/-- All modules in the order in which they were loaded. -/
def list (c : Context) : List Descriptor :=
  c.slots.map (·.descriptor)

/-- The context as diagnostics show it. -/
def debugText (c : Context) : String :=
  "RtLoadContext \x7b id: " ++ toString c.id.toNat ++ ", name: " ++ Text.quoted c.name
    ++ ", supports_reload: " ++ (if c.supportsReload then "true" else "false")
    ++ ", generation: " ++ toString c.generation.toNat
    ++ ", modules: " ++ toString c.moduleCount ++ " \x7d"

/-! ## Settings -/

/-- What entry points are given that are created from now on. -/
def withDependencies (c : Context) (dependencies : Dependencies) : Context :=
  { c with dependencies := dependencies }

/-- What entry points are given for tests that are created from now on. -/
def withCallbacks (c : Context) (callbacks : List Service) : Context :=
  { c with callbacks := callbacks }

/-- Whether entry points start as after a reload, which needs a context that supports reloads. -/
def withReloading (c : Context) (isReloading : Bool) : Context :=
  { c with isReloading := isReloading && c.supportsReload }

/-! ## Loading -/

/-- Logs what becomes of the context. -/
def log (c : Context) (level : Log.Level) (event message : String)
    (fields : List (String × String)) : Journaled Activity PUnit :=
  Journaled.tell (.logged ⟨level, "rtx.mod.context", event, message,
    [("context", c.name)] ++ fields⟩)

/-- The handle of the next module. -/
def nextHandle (c : Context) : Handle :=
  ⟨c.id, c.generation, UInt32.ofNat c.slots.length⟩

/-- Creates the entry points of a module. -/
def createHosts (c : Context) (id : String) (entryPoints : List EntryPoint) :
    Journaled Activity (List Host) :=
  entryPoints.zipIdx.mapM fun (entry, index) =>
    Host.new c.nextHandle id index entry c.dependencies c.callbacks

/-- The context with one more module. -/
def addSlot (c : Context) (d : Descriptor) (image : Image) (hosts : List Host) : Context :=
  { c with
    pending := c.pending.erase d.id
    loaded := c.loaded.put d.id d
    slots := c.slots ++ [⟨d, image, c.nextHandle, hosts⟩] }

/-- The context after a call of the linker. -/
def afterCall (c : Context) : Context :=
  { c with linkers := c.linkers.tail }

/-- Links a module and creates its entry points. -/
def load (c : Context) (d : Descriptor) (image : Image) :
    Journaled Activity (Result Handle × Context) :=
  if c.contains d.id || c.pending.contains d.id then do
    c.log .error "mod.context.duplicate" "module already present in context" [("module", d.id)]
    return (.error (.conflict d.id (.context c.name)), c)
  else
    let answer := c.linkers.head.link d image
    let c := { c.afterCall with pending := c.pending.put d.id d }
    match answer with
    | .error e => do
      c.log .error "mod.context.link_failed" "module could not be linked"
        [("module", d.id), ("error", e.text)]
      return (.error e, { c with pending := c.pending.erase d.id })
    | .ok linked => do
      let hosts ← c.createHosts d.id linked.entryPoints
      c.log .info "mod.context.loaded" "module loaded"
        [("module", d.id), ("version", d.version.text), ("entry_points", toString hosts.length),
          ("handle", c.nextHandle.text)]
      return (.ok c.nextHandle, c.addSlot d image hosts)

/-! ## Calls to all entry points -/

/-- Changes every entry point in turn. -/
def forEach (c : Context) (f : Host → Journaled Activity Host) : Journaled Activity Context := do
  let slots ← c.slots.mapM fun s => do
    let hosts ← s.hosts.mapM f
    return { s with hosts := hosts }
  return { c with slots := slots }

/-- Tells every entry point something in turn. -/
def tellEach (c : Context) (f : Host → Journaled Activity PUnit) : Journaled Activity PUnit :=
  c.hosts.forM f

/-- Lets every entry point enter a level. -/
def enterLevel (c : Context) (level : RunLevel) : Journaled Activity Context :=
  if level = .error then do
    c.log .error "mod.context.unknown_run_level" "Unknown RunLevel" [("level", level.name)]
    return c
  else c.forEach fun h => h.enter level c.isReloading

/-- Updates every entry point that runs. -/
def update (c : Context) (level : UpdateLevel) (frame : Frame) : Journaled Activity PUnit :=
  c.tellEach fun h => h.update level frame

/-- Shuts down every entry point that is up, and then disposes of all that have shut down. -/
def tearDown (c : Context) : Journaled Activity Context := do
  let c ← c.forEach fun h => if h.state.isUp then h.shutdown else pure h
  c.forEach fun h => if h.state = .shuttingDown then h.dispose else pure h

/-- Tears down every entry point. The modules stay where they are. -/
def shutdown (c : Context) : Journaled Activity Context := do
  let c ← c.tearDown
  c.log .info "mod.context.shutdown" "context shut down" [("modules", toString c.moduleCount)]
  return c

/-- The context without its modules, in its next generation. -/
def emptied (c : Context) : Context :=
  { c with
    generation := c.generation + 1
    isReloading := false
    pending := .empty
    loaded := .empty
    slots := [] }

/-- Tears down every entry point and drops all modules. Answers with them in the order in which they
were loaded. -/
def unload (c : Context) : Journaled Activity (Result (List Unloaded) × Context) :=
  if c.supportsReload then do
    let c ← c.tearDown
    let unloaded := c.slots.map fun s => (⟨s.descriptor, s.image⟩ : Unloaded)
    c.emptied.log .info "mod.context.unloaded" "context unloaded"
      [("modules", toString unloaded.length), ("regions", toString c.moduleCount),
        ("generation", toString c.emptied.generation.toNat)]
    return (.ok unloaded, c.emptied)
  else do
    c.log .error "mod.context.unload_rejected" "context does not support unloading" []
    return (.error (.misplaced (.unloading c.name)), c)

/-- Tells all listeners something about a reload, which needs a context that supports reloads. -/
def notify (c : Context) (operation : String) (f : Host → Journaled Activity PUnit) :
    Journaled Activity (Result Unit) :=
  if c.supportsReload then do
    c.tellEach f
    return .ok ()
  else return .error (.misplaced (.unsupported operation c.name))

/-- Tells all listeners that a reload begins. -/
def announceReload (c : Context) : Journaled Activity (Result Unit) :=
  c.notify "reload start" Host.announceReload

/-- Tells all listeners that a reload is over. -/
def announceReloadEnd (c : Context) : Journaled Activity (Result Unit) :=
  c.notify "reload completion" Host.announceReloadEnd

end Context

end ModuleRuntime.Module
