import ModuleRuntime.Proofs.Inspection.Packing
import ModuleRuntime.Proofs.Reload.Start

/-!
# Operations and runs

Everything that a host can ask of a loader, one thing after the other. An operation that fails still
leaves a loader behind, with which the run goes on. To the layout an operation does one of three
things: it adds modules, it stages an image for a dynamic module, or it drops the dynamic modules
and adds others.
-/

set_option autoImplicit false

namespace ModuleRuntime.Module

/-- What a host can ask of a loader. -/
inductive Operation where
  | load (image : Image)
  | loadStream (stream : Stream) (path : Option String)
  | loadBatch (images : List Image)
  | stage (id : String) (image : Image)
  | startReload
  | endWaiting
  | enterLevel (level : RunLevel)
  | update (level : UpdateLevel) (frame : Frame)
  | shutdown
  | withDependencies (dependencies : Dependencies)
  | withCallbacks (callbacks : List Service)
  | openInspection
  | closeInspection

/-- The linker of some modules that have no entry points. -/
def Linker.bare (assemblies : List String) : Linker :=
  .ofTable (.ofList (assemblies.map fun assembly => (assembly, [])))

namespace Loader

/-- The loader after an operation, whether or not it succeeded. -/
def perform (l : Loader) : Operation → Journaled Activity Loader
  | .load image => Prod.snd <$> l.load image
  | .loadStream stream path => Prod.snd <$> l.load (Image.ofStream stream path).1
  | .loadBatch images => Prod.snd <$> l.loadBatch images
  | .stage id image =>
    match l.stage id image with
    | .ok l' => pure l'
    | .error _ => pure l
  | .startReload => Prod.snd <$> l.startReload
  | .endWaiting => Prod.snd <$> l.endWaiting
  | .enterLevel level => l.enterLevel level
  | .update level frame => do
    l.update level frame
    return l
  | .shutdown => l.shutdown
  | .withDependencies dependencies => pure (l.withDependencies dependencies)
  | .withCallbacks callbacks => pure (l.withCallbacks callbacks)
  | .openInspection => pure { l with gauge := l.gauge.acquire }
  | .closeInspection =>
    if l.gauge.openCount = 0 then pure l
    else do
      let gauge ← l.gauge.release.mapJournal .logged
      return { l with gauge := gauge }

/-- The loader after several operations. -/
def run (l : Loader) (ops : List Operation) : Journaled Activity Loader :=
  ops.foldlM perform l

/-- The loader that was created with a configuration and linkers, after several operations. -/
def after (config : Config) (linkers : LinkerSequence) (ops : List Operation) : Loader :=
  ((new config linkers).run ops).value

/-- A run goes on with what its first operation has left. -/
theorem value_run_cons (l : Loader) (op : Operation) (ops : List Operation) :
    (l.run (op :: ops)).value = ((l.perform op).value.run ops).value := rfl

/-- Nothing is asked of the loader. -/
@[simp]
theorem after_nil (config : Config) (linkers : LinkerSequence) :
    after config linkers [] = new config linkers := rfl

/-- The last operation is performed on what the others have left. -/
theorem after_concat (config : Config) (linkers : LinkerSequence) (ops : List Operation)
    (op : Operation) :
    after config linkers (ops ++ [op]) = ((after config linkers ops).perform op).value := by
  unfold after run
  simp only [Journaled.value_foldlM, List.foldl_append, List.foldl_cons, List.foldl_nil]

/-- What holds of a new loader and is kept by every operation holds after every run. -/
theorem after_induction {P : Loader → Prop} {config : Config} {linkers : LinkerSequence}
    (hnew : P (new config linkers)) (hstep : ∀ (l : Loader) (op : Operation), P l →
      P (l.perform op).value) (ops : List Operation) : P (after config linkers ops) := by
  suffices hrun : ∀ l : Loader, P l → P (l.run ops).value from hrun _ hnew
  unfold run
  simp only [Journaled.value_foldlM]
  induction ops with
  | nil => exact fun l hl => hl
  | cons op rest ih => exact fun l hl => ih (l.perform op).value (hstep l op hl)

/-! ## What an operation does to the layout -/

namespace Layout

/-- How an operation changes a layout. -/
inductive Step (l : Layout) : Layout → Prop where
  | grow {m : Layout} (h : l.Grown m) : Step l m
  | stage (id : String) (image : Image) (h : l.dynamicContext.loaded.contains id = true) :
      Step l (l.withStaged (l.staged.put id image))
  | reload {m : Layout} (h : (l.dropped.withStaged .empty).Grown m) : Step l m

/-- A layout that is left as it was has grown by nothing. -/
theorem Step.same {l m : Layout} (h : m = l) : l.Step m := by
  subst h
  exact .grow .refl

/-- As modules are added, what decides on a load stays as it is. -/
theorem Grown.frame {l m : Layout} (h : l.Grown m) :
    m.config = l.config ∧ m.inspector = l.inspector ∧ m.registry.core = l.registry.core := by
  induction h with
  | refl => exact ⟨rfl, rfl, rfl⟩
  | add d image _ _ ih => exact ih

/-- Whatever is done, what decides on a load stays as it is. -/
theorem Step.frame {l m : Layout} (h : l.Step m) :
    m.config = l.config ∧ m.inspector = l.inspector ∧ m.registry.core = l.registry.core := by
  cases h with
  | grow h => exact h.frame
  | stage id image h => exact ⟨rfl, rfl, rfl⟩
  | reload h =>
    obtain ⟨hconfig, hinspector, hcore⟩ := h.frame
    exact ⟨hconfig, hinspector, hcore.trans (Registry.forgetDynamic_frame l.registry).1⟩

end Layout

/-- Staging either fails or puts the image for a module of the dynamic context. -/
theorem step_stage (l : Loader) (id : String) (image : Image) :
    l.layout.Step (l.perform (.stage id image)).value.layout := by
  simp only [perform, stage]
  cases h : l.dynamicContext.contains id with
  | true => exact .stage id image h
  | false => exact .same rfl

/-- A reload either is refused or drops the dynamic modules and adds those that come back. -/
theorem step_startReload (l : Loader) (h : l.dynamicContext.supportsReload = true) :
    l.layout.Step l.startReload.value.2.layout := by
  rcases startReload_cases h with ⟨-, e, hv⟩ | ⟨-, -, dropped, l', isFinished, hd, hv, hl⟩
  · rw [hv]
    exact .same rfl
  · rw [hv]
    refine .reload ?_
    rw [← hd, hl]
    exact dropped.grown_tryAll _

/-- Closing an inspection does not change the layout. -/
theorem layout_closeInspection (l : Loader) :
    (l.perform .closeInspection).value.layout = l.layout := by
  simp only [perform]
  split
  case isTrue => rfl
  case isFalse => rfl

/-- Every operation does one of the three things to the layout. -/
theorem step_perform (l : Loader) (op : Operation) (h : l.dynamicContext.supportsReload = true) :
    l.layout.Step (l.perform op).value.layout := by
  cases op with
  | load image => exact .grow (l.grown_load image)
  | loadStream stream path => exact .grow (l.grown_load _)
  | loadBatch images => exact .grow (l.grown_loadBatch images)
  | stage id image => exact l.step_stage id image
  | startReload => exact l.step_startReload h
  | endWaiting => exact .same (layout_endWaiting h)
  | enterLevel level => exact .same (l.layout_enterLevel level)
  | update level frame => exact .same rfl
  | shutdown => exact .same l.layout_shutdown
  | withDependencies dependencies => exact .same (l.layout_withDependencies dependencies)
  | withCallbacks callbacks => exact .same (l.layout_withCallbacks callbacks)
  | openInspection => exact .same rfl
  | closeInspection => exact .same l.layout_closeInspection

end Loader

end ModuleRuntime.Module
