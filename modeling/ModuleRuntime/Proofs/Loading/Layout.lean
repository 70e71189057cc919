import ModuleRuntime.Module.Loader
import ModuleRuntime.Proofs.Registry.Change

/-!
# Layouts

The layout of a loader says which modules stand where: it leaves out the entry points with what they
are given, the linkers, the gauge and the logs. Calls to entry points do not change it, a load that
fails does not change it, and a load that succeeds adds one module to one context and to the
registry.
-/

set_option autoImplicit false

namespace ModuleRuntime.Module

/-- A module in a context, apart from its entry points. -/
structure Placed where
  descriptor : Descriptor
  image : Image
  handle : Handle

/-- What stands in a slot, apart from the entry points. -/
def Slot.placed (s : Slot) : Placed :=
  ⟨s.descriptor, s.image, s.handle⟩

/-! ## Layouts of contexts -/

/-- Which modules stand in a context, and in which generation. -/
structure Context.Layout where
  id : UInt32
  supportsReload : Bool
  generation : UInt32
  pending : Dictionary String Descriptor
  loaded : Dictionary String Descriptor
  modules : List Placed

namespace Context

/-- The layout of a context. -/
def layout (c : Context) : Layout :=
  ⟨c.id, c.supportsReload, c.generation, c.pending, c.loaded, c.slots.map Slot.placed⟩

namespace Layout

/-- The handle of the next module. -/
def nextHandle (c : Layout) : Handle :=
  ⟨c.id, c.generation, UInt32.ofNat c.modules.length⟩

/-- The layout with one more module. -/
def add (c : Layout) (d : Descriptor) (image : Image) : Layout :=
  { c with
    loaded := c.loaded.put d.id d
    modules := c.modules ++ [⟨d, image, c.nextHandle⟩] }

/-- The layout without modules, in the next generation. -/
def emptied (c : Layout) : Layout :=
  { c with generation := c.generation + 1, pending := .empty, loaded := .empty, modules := [] }

end Layout

variable {c : Context} {d : Descriptor} {image : Image}

/-- The handle that the next module gets can be told from the layout. -/
@[simp]
theorem nextHandle_layout (c : Context) : c.layout.nextHandle = c.nextHandle := by
  unfold layout Layout.nextHandle nextHandle
  simp

/-- A context lists the descriptors of its modules. -/
theorem list_eq_map_modules (c : Context) : c.list = c.layout.modules.map (·.descriptor) := by
  unfold list layout
  rw [List.map_map]
  rfl

/-- The layout of a context that was emptied. -/
@[simp]
theorem layout_emptied (c : Context) : c.emptied.layout = c.layout.emptied := rfl

/-- Whether a context is reloading is no part of its layout. -/
@[simp]
theorem layout_withReloading (c : Context) (isReloading : Bool) :
    (c.withReloading isReloading).layout = c.layout := rfl

/-- The slots after something was done with every host. -/
theorem slots_forEach (c : Context) (f : Host → Journaled Activity Host) :
    (c.forEach f).value.slots =
      c.slots.map fun s => { s with hosts := s.hosts.map fun h => (f h).value } := by
  unfold forEach
  simp only [Journaled.value_bind, Journaled.value_pure, Journaled.value_mapM]

/-- Whatever is done to the entry points, the modules stay where they are. -/
@[simp]
theorem layout_forEach (c : Context) (f : Host → Journaled Activity Host) :
    (c.forEach f).value.layout = c.layout := by
  unfold forEach layout
  simp only [Journaled.value_bind, Journaled.value_pure, Journaled.value_mapM, List.map_map]
  congr 1

/-- Entering a level does not change the layout. -/
@[simp]
theorem layout_enterLevel (c : Context) (level : RunLevel) :
    (c.enterLevel level).value.layout = c.layout := by
  unfold enterLevel
  split
  · rfl
  · exact layout_forEach c _

/-- A teardown does not change the layout. -/
@[simp]
theorem layout_tearDown (c : Context) : c.tearDown.value.layout = c.layout := by
  unfold tearDown
  simp only [Journaled.value_bind, layout_forEach]

/-- A shutdown does not change the layout. -/
@[simp]
theorem layout_shutdown (c : Context) : c.shutdown.value.layout = c.layout := by
  unfold shutdown
  simp only [Journaled.value_bind, Journaled.value_pure, layout_tearDown]

/-- A load either fails and leaves the layout as it was, or it adds the module, which no module of
its id stood in the way of. -/
theorem load_cases (c : Context) (d : Descriptor) (image : Image) :
    (∃ e, (c.load d image).value.1 = .error e ∧ (c.load d image).value.2.layout = c.layout) ∨
      ((c.load d image).value.1 = .ok c.nextHandle ∧ c.contains d.id = false ∧
        (c.load d image).value.2.layout = c.layout.add d image) := by
  unfold load
  split
  case isTrue => exact .inl ⟨_, rfl, rfl⟩
  case isFalse hfree =>
    rw [Bool.or_eq_true, not_or, Bool.not_eq_true, Bool.not_eq_true] at hfree
    have hpending : d.id ∉ c.pending.keys := by
      rw [← Dictionary.contains_iff, hfree.2]
      simp
    have hback : (c.pending.put d.id d).erase d.id = c.pending :=
      Dictionary.erase_put_of_not_mem hpending d
    dsimp only
    cases c.linkers.head.link d image with
    | error e =>
      refine .inl ⟨e, rfl, ?_⟩
      simp [layout, afterCall, hback]
    | ok linked =>
      refine .inr ⟨rfl, hfree.1, ?_⟩
      simp [layout, afterCall, addSlot, Layout.add, hback, Slot.placed, ← nextHandle_layout]
      rfl

/-- A context that supports reloads hands out its modules and begins the next generation. -/
theorem value_unload (c : Context) (h : c.supportsReload = true) :
    c.unload.value.1 = .ok (c.layout.modules.map fun m => ⟨m.descriptor, m.image⟩) ∧
      c.unload.value.2.layout = c.layout.emptied := by
  unfold unload
  rw [if_pos h]
  have hl : c.tearDown.value.layout = c.layout := layout_tearDown c
  simp only [Journaled.value_bind, Journaled.value_pure, layout_emptied, hl, and_true]
  rw [← hl]
  simp [layout, Function.comp_def, Slot.placed]

end Context

/-! ## Layouts of loaders -/

/-- Which modules stand where, who holds which identity, and what decides on a load. -/
structure Loader.Layout where
  config : Config
  registry : Registry
  inspector : Inspector
  staticContext : Context.Layout
  dynamicContext : Context.Layout
  staged : Dictionary String Image

namespace Loader

/-- The layout of a loader. -/
def layout (l : Loader) : Layout :=
  ⟨l.config, l.registry, l.inspector, l.staticContext.layout, l.dynamicContext.layout, l.staged⟩

namespace Layout

/-- Whether a module belongs in the dynamic context. -/
def isDynamic (l : Layout) (d : Descriptor) : Bool :=
  l.config.liveReload && d.supportsReload

/-- The context in which a module belongs. -/
def home (l : Layout) (d : Descriptor) : Context.Layout :=
  if l.isDynamic d then l.dynamicContext else l.staticContext

/-- The handle that a module gets. -/
def nextHandle (l : Layout) (d : Descriptor) : Handle :=
  (l.home d).nextHandle

/-- The layout with one more module. -/
def add (l : Layout) (d : Descriptor) (image : Image) : Layout :=
  { l with
    registry := l.registry.add d (l.isDynamic d) (l.nextHandle d)
    staticContext := if l.isDynamic d then l.staticContext else l.staticContext.add d image
    dynamicContext := if l.isDynamic d then l.dynamicContext.add d image else l.dynamicContext }

/-- Whether a sandboxed module may refer to a name. -/
def mayReferTo (l : Layout) (batch : List String) (name : String) : Bool :=
  l.registry.knows name || batch.contains name || l.config.sandbox.allows name

/-- Whether the references of a module pass the sandbox. -/
def Admits (l : Layout) (batch : List String) (d : Descriptor) : Prop :=
  l.config.sandboxing = true → d.isSandboxed = true →
    ∀ name ∈ d.references, l.mayReferTo batch name = true

end Layout

variable {l l' : Loader} {d : Descriptor} {image : Image} {batch : List String}

/-- An inspection does not change the layout of a loader. -/
@[simp]
theorem layout_inspect (l : Loader) (image : Image) :
    (l.inspect image).value.2.layout = l.layout := rfl

/-- The dependencies are no part of the layout. -/
@[simp]
theorem layout_withDependencies (l : Loader) (dependencies : Dependencies) :
    (l.withDependencies dependencies).layout = l.layout := rfl

/-- The callbacks are no part of the layout. -/
@[simp]
theorem layout_withCallbacks (l : Loader) (callbacks : List Service) :
    (l.withCallbacks callbacks).layout = l.layout := rfl

/-- Entering a level does not change the layout of a loader. -/
@[simp]
theorem layout_enterLevel (l : Loader) (level : RunLevel) :
    (l.enterLevel level).value.layout = l.layout := by
  unfold enterLevel layout
  simp only [Journaled.value_bind, Journaled.value_pure, Context.layout_enterLevel]

/-- A shutdown does not change the layout of a loader. -/
@[simp]
theorem layout_shutdown (l : Loader) : l.shutdown.value.layout = l.layout := by
  unfold shutdown layout
  simp only [Journaled.value_bind, Journaled.value_pure, Context.layout_shutdown]

/-- The check of references passes exactly the modules that the sandbox admits. -/
theorem vetReferences_eq_ok_iff (l : Loader) (d : Descriptor) (batch : List String) :
    (l.vetReferences d batch).value = .ok () ↔ l.layout.Admits batch d := by
  have hsame (name : String) : l.layout.mayReferTo batch name = l.mayReferTo batch name := rfl
  unfold vetReferences Layout.Admits
  simp only [hsame]
  split
  case isTrue hs =>
    rw [Bool.and_eq_true] at hs
    cases hf : d.references.find? fun name => !l.mayReferTo batch name with
    | some name =>
      have hmem : name ∈ d.references := List.mem_of_find?_eq_some hf
      have hbad := List.find?_some hf
      simp only [Journaled.value_bind, Journaled.value_pure, reduceCtorEq, false_iff]
      intro hall
      simp [hall hs.1 hs.2 name hmem] at hbad
    | none =>
      rw [List.find?_eq_none] at hf
      refine ⟨fun _ _ _ name hmem => ?_, fun _ => rfl⟩
      simpa using hf name hmem
  case isFalse hs =>
    refine ⟨fun _ h1 h2 => absurd ?_ hs, fun _ => rfl⟩
    rw [Bool.and_eq_true]
    exact ⟨h1, h2⟩

/-- A module that is placed goes to its context; else the layout stays as it was. -/
theorem place_cases (l : Loader) (d : Descriptor) (image : Image) :
    (∃ e, (l.place d image).value.1 = .error e ∧
        (l.place d image).value.2.layout = l.layout) ∨
      ((l.place d image).value.1 = .ok (l.layout.nextHandle d) ∧
        (l.place d image).value.2.layout =
          { l.layout.add d image with registry := l.registry }) := by
  have hdyn : l.isDynamic d = l.layout.isDynamic d := rfl
  unfold place Layout.add Layout.nextHandle Layout.home
  rw [hdyn]
  cases hd : l.layout.isDynamic d with
  | true =>
    rcases l.dynamicContext.load_cases d image with ⟨e, hr, hl⟩ | ⟨hr, -, hl⟩
    · exact .inl ⟨e, hr, by simp [layout, hl]⟩
    · exact .inr ⟨by simp [hr, layout], by simp [layout, hl]⟩
  | false =>
    rcases l.staticContext.load_cases d image with ⟨e, hr, hl⟩ | ⟨hr, -, hl⟩
    · exact .inl ⟨e, hr, by simp [layout, hl]⟩
    · exact .inr ⟨by simp [hr, layout], by simp [layout, hl]⟩

/-- A claim that is settled becomes a loaded module or is given up. -/
theorem settle_cases (l : Loader) (d : Descriptor) (image : Image)
    (hd : l.registry.contains d.id = false) :
    let claimed := { l with registry := l.registry.addPending d (l.isDynamic d) }
    (∃ e, (claimed.settle d image).value.1 = .error e ∧
        (claimed.settle d image).value.2.layout = l.layout) ∨
      ((claimed.settle d image).value.1 = .ok (l.layout.nextHandle d) ∧
        (claimed.settle d image).value.2.layout = l.layout.add d image) := by
  intro claimed
  have hdyn : l.isDynamic d = l.layout.isDynamic d := rfl
  have hreg (isDynamic : Bool) :
      ((l.registry.addPending d isDynamic).giveUp d.id).value = (true, l.registry) :=
    Registry.value_giveUp_addPending hd
  have hpro (isDynamic : Bool) (h : Handle) :
      (l.registry.addPending d isDynamic).promote d.id h = .ok (l.registry.add d isDynamic h) :=
    Registry.promote_addPending hd
  rcases claimed.place_cases d image with ⟨e, hr, hl⟩ | ⟨hr, hl⟩
  · have hregistry : (claimed.place d image).value.2.registry = claimed.registry :=
      congrArg Layout.registry hl
    refine .inl ⟨e, ?_, ?_⟩
    · unfold settle
      simp [hr]
    · unfold settle
      simp only [Journaled.value_bind, hr, hregistry, Journaled.value_mapJournal]
      simp only [claimed, hreg, Journaled.value_pure]
      rw [show l.layout = { claimed.layout with registry := l.registry } from rfl, ← hl]
      rfl
  · have hregistry : (claimed.place d image).value.2.registry = claimed.registry :=
      congrArg Layout.registry hl
    have hsettled : (claimed.settle d image).value = (.ok (l.layout.nextHandle d),
        { (claimed.place d image).value.2 with
          registry := l.registry.add d (l.isDynamic d) (l.layout.nextHandle d) }) := by
      unfold settle
      simp only [Journaled.value_bind, hr, hregistry]
      simp only [claimed, hpro]
      rfl
    refine .inr ⟨by rw [hsettled], ?_⟩
    rw [hsettled]
    show { (claimed.place d image).value.2.layout with
      registry := l.registry.add d (l.isDynamic d) (l.layout.nextHandle d) } = _
    rw [hl]
    rfl

/-- A load of an inspected module either fails and leaves the layout as it was, or the sandbox
admits the module, its identities are free, and it is added. -/
theorem loadInspected_cases (l : Loader) (d : Descriptor) (image : Image) (batch : List String) :
    (∃ f, (l.loadInspected d image batch).value.1 = .error f ∧
        (l.loadInspected d image batch).value.2.layout = l.layout) ∨
      ((l.loadInspected d image batch).value.1 = .ok (l.layout.nextHandle d) ∧
        l.layout.Admits batch d ∧ l.registry.conflict? d = none ∧
        (l.loadInspected d image batch).value.2.layout = l.layout.add d image) := by
  unfold loadInspected
  simp only [Journaled.value_bind]
  cases hv : (l.vetReferences d batch).value with
  | error e => exact .inl ⟨_, rfl, rfl⟩
  | ok u =>
    have hadmits : l.layout.Admits batch d := (vetReferences_eq_ok_iff l d batch).mp hv
    simp only [Journaled.value_bind, Journaled.value_mapJournal, Registry.value_reserve]
    cases hc : l.registry.conflict? d with
    | some c => exact .inl ⟨_, rfl, rfl⟩
    | none =>
      have hfree : l.registry.contains d.id = false :=
        ((Registry.conflict?_eq_none_iff l.registry d).mp hc).2.2.1
      rcases l.settle_cases d image hfree with ⟨e, hr, hl⟩ | ⟨hr, hl⟩
      · refine .inl ⟨⟨e, false⟩, ?_, ?_⟩
        · exact congrArg (Except.mapError _) hr
        · simpa using hl
      · refine .inr ⟨?_, hadmits, rfl, ?_⟩
        · exact congrArg (Except.mapError _) hr
        · simpa using hl

/-- An image that is loaded is inspected first; if that fails, the layout stays as it was. -/
theorem load_cases (l : Loader) (image : Image) :
    (l.load image).value.2.layout = l.layout ∨
      ∃ d, l.layout.Admits [] d ∧ l.registry.conflict? d = none ∧
        (l.load image).value.2.layout = l.layout.add d image := by
  unfold load
  simp only [Journaled.value_bind]
  cases hi : (l.inspect image).value.1 with
  | error e => exact .inl (layout_inspect l image)
  | ok d =>
    simp only [Journaled.value_bind, Journaled.value_pure]
    rcases loadInspected_cases (l.inspect image).value.2 d image [] with
      ⟨f, -, hl⟩ | ⟨-, hadmits, hc, hl⟩
    · exact .inl hl
    · exact .inr ⟨d, hadmits, hc, hl⟩

end Loader

end ModuleRuntime.Module
