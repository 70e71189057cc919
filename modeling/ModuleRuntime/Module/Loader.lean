import ModuleRuntime.Config
import ModuleRuntime.Module.Context
import ModuleRuntime.Module.Inspector
import ModuleRuntime.Module.Registry

/-!
# The loader of modules

A loader inspects a module, checks what it refers to, claims its identities, loads it into one of
two contexts, and promotes the claim. Modules that support reloads go to the dynamic context if live
reload is on; all others go to the static one. A load that fails gives its claim up.
-/

set_option autoImplicit false

namespace ModuleRuntime.Module

/-- The state of a loader: its configuration, who holds which identity, how it inspects and how many
inspections are open, both contexts, whether a reload has not ended yet, and the images that stand
ready for the next one. -/
structure Loader where
  config : Config
  registry : Registry
  inspector : Inspector
  gauge : Gauge
  staticContext : Context
  dynamicContext : Context
  isMidReload : Bool
  staged : Dictionary String Image

/-- Why a module was not loaded, and whether that ends a batch. -/
structure LoadFailure where
  error : Error
  isFatal : Bool
  deriving DecidableEq

namespace Loader

variable {α : Type}

/-- A loader without modules. Both contexts call the same linkers: to which of them a module goes
depends on the module only, so the linkers can tell the calls of one from those of the other. -/
def new (config : Config) (linkers : LinkerSequence) : Loader where
  config := config
  registry := .new config.coreModules
  inspector := ⟨config.contentPrefix, false⟩
  gauge := .idle
  staticContext := .new 0 "static" false linkers
  dynamicContext := .new 1 "dynamic" true linkers
  isMidReload := false
  staged := .empty

/-! ## Questions -/

/-- The context in which a handle is live. -/
def contextOf? (l : Loader) (h : Handle) : Option Context :=
  [l.staticContext, l.dynamicContext].find? fun c => c.isLive h

/-- Whether a module belongs in the dynamic context. -/
def isDynamic (l : Loader) (d : Descriptor) : Bool :=
  l.config.liveReload && d.supportsReload

/-- Whether a sandboxed module may refer to a name: it is known, it is in the batch that is being
loaded, or the policy allows it. -/
def mayReferTo (l : Loader) (batch : List String) (name : String) : Bool :=
  l.registry.knows name || batch.contains name || l.config.sandbox.allows name

/-! ## Settings -/

/-- What entry points are given that are created from now on. -/
def withDependencies (l : Loader) (dependencies : Dependencies) : Loader :=
  { l with
    staticContext := l.staticContext.withDependencies dependencies
    dynamicContext := l.dynamicContext.withDependencies dependencies }

/-- What entry points are given for tests that are created from now on. -/
def withCallbacks (l : Loader) (callbacks : List Service) : Loader :=
  { l with
    staticContext := l.staticContext.withCallbacks callbacks
    dynamicContext := l.dynamicContext.withCallbacks callbacks }

/-! ## Loading -/

/-- Logs what the loader does. -/
def log (level : Log.Level) (event message : String) (fields : List (String × String)) :
    Journaled Activity PUnit :=
  Journaled.tell (.logged ⟨level, "rtx.mod.loader", event, message, fields⟩)

/-- Inspects an image in a session of its own. A panic would take whoever asked for the inspection
with it: what a loader is given are images of which reading the metadata does not panic. -/
def inspect (l : Loader) (image : Image) : Journaled Activity (Result Descriptor × Loader) := do
  let (r, gauge) ← (l.inspector.inspect l.gauge image).mapJournal .logged
  return (r, { l with gauge := gauge })

/-- Checks what a sandboxed module refers to. -/
def vetReferences (l : Loader) (d : Descriptor) (batch : List String) :
    Journaled Activity (Result Unit) :=
  if l.config.sandboxing && d.isSandboxed then
    match d.references.find? fun name => !l.mayReferTo batch name with
    | some name => do
      log .error "mod.sandbox.rejected" "sandboxed module references a disallowed module"
        [("module", d.id), ("reference", name)]
      return .error (.sandbox d.id name)
    | none => return .ok ()
  else return .ok ()

/-- Loads a module into the context in which it belongs. -/
def place (l : Loader) (d : Descriptor) (image : Image) :
    Journaled Activity (Result Handle × Loader) :=
  if l.isDynamic d then do
    let (r, c) ← l.dynamicContext.load d image
    return (r, { l with dynamicContext := c })
  else do
    let (r, c) ← l.staticContext.load d image
    return (r, { l with staticContext := c })

/-- Loads a module whose identities are claimed, and promotes the claim or gives it up. -/
def settle (l : Loader) (d : Descriptor) (image : Image) :
    Journaled Activity (Result Handle × Loader) := do
  let (r, l) ← l.place d image
  match r with
  | .ok h =>
    match l.registry.promote d.id h with
    | .ok registry => return (.ok h, { l with registry := registry })
    | .error e => return (.error e, l)
  | .error e =>
    let (_, registry) ← (l.registry.giveUp d.id).mapJournal .logged
    return (.error e, { l with registry := registry })

/-- Loads an inspected module. A conflict with the core is fatal. -/
def loadInspected (l : Loader) (d : Descriptor) (image : Image) (batch : List String) :
    Journaled Activity (Except LoadFailure Handle × Loader) := do
  match ← l.vetReferences d batch with
  | .error e => return (.error ⟨e, false⟩, l)
  | .ok _ =>
    match ← (l.registry.reserve d (l.isDynamic d)).mapJournal .logged with
    | .error c => return (.error ⟨c.error, c.isFatal⟩, l)
    | .ok registry =>
      let (r, l) ← settle { l with registry := registry } d image
      return (r.mapError fun e => ⟨e, false⟩, l)

/-- Inspects and loads a module. -/
def load (l : Loader) (image : Image) : Journaled Activity (Result Handle × Loader) := do
  let (r, l) ← l.inspect image
  match r with
  | .error e => return (.error e, l)
  | .ok d =>
    let (r, l) ← l.loadInspected d image []
    return (r.mapError (·.error), l)

/-! ## Calls to all entry points -/

/-- Lets every entry point enter a level, the static ones first. -/
def enterLevel (l : Loader) (level : RunLevel) : Journaled Activity Loader := do
  let staticContext ← l.staticContext.enterLevel level
  let dynamicContext ← l.dynamicContext.enterLevel level
  return { l with staticContext := staticContext, dynamicContext := dynamicContext }

/-- Updates every entry point that runs, the static ones first. Until a reload has ended, the
dynamic ones are left out. -/
def update (l : Loader) (level : UpdateLevel) (frame : Frame) : Journaled Activity PUnit := do
  l.staticContext.update level frame
  if !l.isMidReload then l.dynamicContext.update level frame

/-- Tears down every entry point, the static ones first. -/
def shutdown (l : Loader) : Journaled Activity Loader := do
  let staticContext ← l.staticContext.shutdown
  let dynamicContext ← l.dynamicContext.shutdown
  return { l with staticContext := staticContext, dynamicContext := dynamicContext }

end Loader

end ModuleRuntime.Module
