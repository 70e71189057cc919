import ModuleRuntime.Module.Progress

/-!
# Live reload

A live reload unloads the dynamic context and loads its modules again, each from its image or from
the one that was staged in its place. When the new entry points have started, the reload ends at
once if no inspection is open; else it ends when it is asked again after the last inspection has
closed. Dynamic entry points are not updated before it has ended.
-/

set_option autoImplicit false

namespace ModuleRuntime.Module

/-- What became of a reload: the modules that were loaded again and those that were not, under the
ids that they had, and whether it has ended. -/
structure ReloadReport where
  reloaded : List String
  failed : List Skipped
  isFinished : Bool
  deriving DecidableEq

namespace Loader

/-- Stages an image from which a dynamic module is loaded at the next reload. -/
def stage (l : Loader) (id : String) (image : Image) : Result Loader :=
  if l.dynamicContext.contains id then .ok { l with staged := l.staged.put id image }
  else .error (.invalid (.notDynamic id))

/-- Logs what becomes of a reload. -/
def logReload (level : Log.Level) (event message : String) (fields : List (String × String)) :
    Journaled Activity PUnit :=
  Journaled.tell (.logged ⟨level, "rtx.mod", event, message, fields⟩)

/-- The size and the generation of the dynamic context. -/
def dynamicFields (l : Loader) : List (String × String) :=
  [("modules", toString l.dynamicContext.moduleCount),
    ("generation", toString l.dynamicContext.generation.toNat)]

/-- What an unloaded module is loaded from: the image staged for it, which is inspected, or what it
was loaded from before. -/
def replacement (l : Loader) (u : Unloaded) :
    Journaled Activity (Result (Descriptor × Image) × Loader) :=
  match l.staged.find? u.descriptor.id with
  | none => return (.ok (u.descriptor, u.image), l)
  | some image => do
    let (r, l) ← inspect { l with staged := l.staged.erase u.descriptor.id } image
    return (r.map fun d => (d, image), l)

end Loader

namespace Progress

/-- Loads an unloaded module again. -/
def reload (batch : List String) (p : Progress) (u : Unloaded) : Journaled Activity Progress := do
  let id := u.descriptor.id
  let (r, l) ← p.loader.replacement u
  let p := { p with loader := l }
  match r with
  | .error e => return p.skip id u.descriptor e
  | .ok (d, image) =>
    if !d.supportsReload then return p.skip id d (.invalid .reloadSupportLost)
    else match p.missingReference? d with
      | some name =>
        Loader.logReload .warn "mod.reload.dependency_skipped"
          "module not reloaded because a dependency failed" [("module", id), ("dependency", name)]
        return p.skip id d (.link id (.dependencyNotReloaded name))
      | none =>
        let (r, l) ← p.loader.loadInspected d image batch
        let p := { p with loader := l }
        match r with
        | .ok h => return p.addLoaded id h
        | .error failure =>
          Loader.logReload .error "mod.reload.module_failed" "module could not be reloaded"
            [("module", id), ("error", failure.error.text)]
          return p.skip id d failure.error

end Progress

namespace Loader

/-- Loads the modules of the last generation again, and forgets what was staged. -/
def reloadAll (l : Loader) (unloaded : List Unloaded) : Journaled Activity Progress := do
  let batch := unloaded.flatMap fun u => u.descriptor.names
  let p ← unloaded.foldlM (Progress.reload batch) (Progress.start l)
  return { p with loader := { p.loader with staged := .empty } }

/-- Starts the dynamic entry points as after a reload. -/
def restart (l : Loader) : Journaled Activity Loader := do
  let c ← [RunLevel.preInit, .init, .postInit].foldlM Context.enterLevel
    (l.dynamicContext.withReloading true)
  return { l with dynamicContext := c.withReloading false }

/-- Ends a reload. -/
def endReload (l : Loader) : Journaled Activity (Result Unit × Loader) :=
  if l.isMidReload then do
    let l := { l with isMidReload := false }
    match ← l.dynamicContext.announceReloadEnd with
    | .error e => return (.error e, l)
    | .ok _ =>
      logReload .info "mod.reload.complete" "live reload finished" l.dynamicFields
      return (.ok (), l)
  else return (.ok (), l)

/-- Ends a reload if no inspection is open, and else waits for the open ones. Answers whether it has
ended. -/
def endOrWait (l : Loader) : Journaled Activity (Result Bool × Loader) := do
  let (isFree, gauge) := l.gauge.arm
  let l := { l with gauge := gauge }
  if isFree then
    let (r, l) ← l.endReload
    return (r.map fun _ => true, l)
  else
    logReload .info "mod.reload.waiting" "reload waits for open inspectors"
      [("open", toString gauge.openCount)]
    return (.ok false, l)

/-- Drops the dynamic modules. Answers with them in the order in which they were loaded. -/
def dropDynamic (l : Loader) : Journaled Activity (Result (List Unloaded) × Loader) := do
  match ← l.dynamicContext.announceReload with
  | .error e => return (.error e, l)
  | .ok _ =>
    let (r, c) ← l.dynamicContext.unload
    let registry := match r with
      | .ok _ => l.registry.forgetDynamic.2
      | .error _ => l.registry
    return (r, { l with dynamicContext := c, registry := registry })

/-- Reloads the dynamic modules. -/
def startReload (l : Loader) : Journaled Activity (Result ReloadReport × Loader) :=
  if !l.config.liveReload then do
    logReload .warn "mod.reload.disabled"
      "live reload requested but disabled in configuration" []
    return (.error (.misplaced .reloadDisabled), l)
  else if l.isMidReload then do
    logReload .warn "mod.reload.busy" "a live reload is already in progress" []
    return (.error (.misplaced .reloadInProgress), l)
  else do
    let l := { l with isMidReload := true }
    logReload .info "mod.reload.start" "live reload started" l.dynamicFields
    let (r, l) ← l.dropDynamic
    match r with
    | .error e => return (.error e, l)
    | .ok unloaded =>
      let p ← l.reloadAll unloaded
      let l ← p.loader.restart
      let (r, l) ← l.endOrWait
      return (r.map fun isFinished => ⟨p.loaded.map Prod.fst, p.skipped, isFinished⟩, l)

/-- Ends a reload that waits, if the last of the open inspections has closed. Answers whether it has
ended by this. -/
def endWaiting (l : Loader) : Journaled Activity (Result Bool × Loader) :=
  if l.isMidReload then
    let (isReady, gauge) := l.gauge.takeReady
    let l := { l with gauge := gauge }
    if isReady then do
      let (r, l) ← l.endReload
      return (r.map fun _ => true, l)
    else return (.ok false, l)
  else return (.ok false, l)

end Loader

end ModuleRuntime.Module
