import ModuleRuntime.Module.LoadOrder
import ModuleRuntime.Module.Progress

/-!
# Batches

Images that are loaded together. All are inspected first; then the modules are loaded in the order
of their references. Modules that cannot be loaded are skipped, and so are those that refer to them.
A conflict with the core ends the batch, and what was loaded before it stays.
-/

set_option autoImplicit false

namespace ModuleRuntime.Module

/-- What became of a batch: the modules that were loaded and those that were not. -/
structure BatchReport where
  loaded : List (String × Handle)
  skipped : List Skipped
  deriving DecidableEq

namespace Loader

/-- Inspects images one after the other. -/
def inspectAll (l : Loader) :
    List Image → Journaled Activity (List (Image × Result Descriptor) × Loader)
  | [] => return ([], l)
  | image :: rest => do
    let (r, l) ← l.inspect image
    let (inspected, l) ← l.inspectAll rest
    return ((image, r) :: inspected, l)

end Loader

namespace Progress

/-- Sorts inspected images into modules and images that were refused, which are skipped. -/
def sift (p : Progress) :
    List (Image × Result Descriptor) → Journaled Activity (List (Descriptor × Image) × Progress)
  | [] => return ([], p)
  | (image, .ok d) :: rest => do
    let (candidates, p) ← p.sift rest
    return ((d, image) :: candidates, p)
  | (image, .error e) :: rest => do
    Loader.log .error "mod.batch.inspect_failed" "module image rejected"
      [("path", image.shownPath), ("error", e.text)]
    sift { p with skipped := p.skipped ++ [⟨image.shownPath, e⟩] } rest

/-- Skips a module that cannot be placed. -/
def skipCyclic (p : Progress) (d : Descriptor) : Journaled Activity Progress := do
  Loader.log .error "mod.batch.cycle" "module is part of a reference cycle" [("module", d.id)]
  return p.skip d.id d (.invalid (.circularReference d.id))

/-- Loads modules in their order. -/
def loadEach (batch : List String) (p : Progress) :
    List (Descriptor × Image) → Journaled Activity (Result Unit × Progress)
  | [] => return (.ok (), p)
  | (d, image) :: rest =>
    match p.missingReference? d with
    | some name => do
      Loader.log .warn "mod.batch.dependency_skipped"
        "module skipped because a dependency failed" [("module", d.id), ("dependency", name)]
      loadEach batch (p.skip d.id d (.link d.id (.dependencyNotLoaded name))) rest
    | none => do
      let (r, l) ← p.loader.loadInspected d image batch
      let p := { p with loader := l }
      match r with
      | .ok h => loadEach batch (p.addLoaded d.id h) rest
      | .error failure =>
        if failure.isFatal then do
          Loader.log .error "mod.batch.aborted"
            "module clashes with a core module, batch aborted"
            [("module", d.id), ("loaded", toString p.loaded.length)]
          return (.error failure.error, p)
        else loadEach batch (p.skip d.id d failure.error) rest

end Progress

namespace Loader

/-- Loads images together. -/
def loadBatch (l : Loader) (images : List Image) :
    Journaled Activity (Result BatchReport × Loader) := do
  let (inspected, l) ← l.inspectAll images
  let (candidates, p) ← (Progress.start l).sift inspected
  let ds := candidates.map Prod.fst
  let p ← ((LoadOrder.cyclic ds).filterMap (ds[·]?)).foldlM Progress.skipCyclic p
  let (r, p) ← p.loadEach (ds.flatMap (·.names)) ((LoadOrder.order ds).filterMap (candidates[·]?))
  match r with
  | .error e => return (.error e, p.loader)
  | .ok _ =>
    log .info "mod.batch.done" "batch load finished"
      [("loaded", toString p.loaded.length), ("skipped", toString p.skipped.length)]
    return (.ok ⟨p.loaded, p.skipped⟩, p.loader)

end Loader

end ModuleRuntime.Module
