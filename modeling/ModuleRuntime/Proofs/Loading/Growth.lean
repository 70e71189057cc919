import ModuleRuntime.Module.Batch
import ModuleRuntime.Module.Reload
import ModuleRuntime.Proofs.Loading.Layout
import ModuleRuntime.Proofs.Registry.Names

/-!
# How layouts grow

Whatever a loader is asked to do, its layout changes in two ways only: modules are added one after
the other, each with identities that were free, and a reload drops the dynamic modules before it
adds others. Single loads and batches only add.
-/

set_option autoImplicit false

namespace ModuleRuntime.Module

namespace Loader

namespace Layout

/-- A layout that came from another one by adding modules whose identities were free. -/
inductive Grown (l : Layout) : Layout → Prop where
  | refl : Grown l l
  | add {m : Layout} (d : Descriptor) (image : Image) (h : Grown l m)
      (hfree : m.registry.conflict? d = none) : Grown l (m.add d image)

/-- Growth goes on. -/
theorem Grown.trans {l m n : Layout} (hlm : l.Grown m) (hmn : m.Grown n) : l.Grown n := by
  induction hmn with
  | refl => exact hlm
  | add d image _ hfree ih => exact .add d image ih hfree

/-- Adding a module makes its names known, and no others. -/
theorem knows_add {l : Layout} {d : Descriptor} {image : Image}
    (hfree : l.registry.conflict? d = none) (name : String) :
    (l.add d image).registry.knows name = true ↔
      l.registry.knows name = true ∨ name ∈ d.names :=
  Registry.knows_add ((Registry.conflict?_eq_none_iff l.registry d).mp hfree).2.2.1 name

/-- Names that are known stay known as modules are added. -/
theorem Grown.knows {l m : Layout} (h : l.Grown m) {name : String}
    (hn : l.registry.knows name = true) : m.registry.knows name = true := by
  induction h with
  | refl => exact hn
  | add d image _ hfree ih => exact (knows_add hfree name).mpr (.inl ih)

/-- The layout with other images staged. -/
def withStaged (l : Layout) (staged : Dictionary String Image) : Layout :=
  { l with staged := staged }

/-- The layout after the dynamic modules were dropped. -/
def dropped (l : Layout) : Layout :=
  { l with
    registry := l.registry.forgetDynamic.2
    dynamicContext := l.dynamicContext.emptied }

end Layout

variable {batch : List String}

/-- A load lets the layout grow. -/
theorem grown_load (l : Loader) (image : Image) :
    l.layout.Grown (l.load image).value.2.layout := by
  rcases l.load_cases image with hl | ⟨d, -, hfree, hl⟩
  · rw [hl]
    exact .refl
  · rw [hl]
    exact .add d image .refl hfree

/-! ## Batches -/

/-- Inspecting images does not change the layout. -/
theorem layout_inspectAll (l : Loader) (images : List Image) :
    (l.inspectAll images).value.2.layout = l.layout := by
  induction images generalizing l with
  | nil => rfl
  | cons image rest ih =>
    unfold inspectAll
    simp only [Journaled.value_bind, Journaled.value_pure]
    rw [ih, layout_inspect]

end Loader

namespace Progress

variable {batch : List String}

/-- Skipping a module leaves the loader alone. -/
@[simp]
theorem loader_skip (p : Progress) (name : String) (d : Descriptor) (e : Error) :
    (p.skip name d e).loader = p.loader := rfl

/-- Reporting a module as loaded leaves the loader alone. -/
@[simp]
theorem loader_addLoaded (p : Progress) (name : String) (h : Handle) :
    (p.addLoaded name h).loader = p.loader := rfl

/-- Sorting inspected images does not change the loader. -/
theorem loader_sift (p : Progress) (inspected : List (Image × Result Descriptor)) :
    (p.sift inspected).value.2.loader = p.loader := by
  induction inspected generalizing p with
  | nil => rfl
  | cons entry rest ih =>
    obtain ⟨image, r⟩ := entry
    cases r with
    | ok d => simpa only [sift, Journaled.value_bind, Journaled.value_pure] using ih p
    | error e =>
      simp only [sift, Journaled.value_bind]
      rw [ih]

/-- Skipping the modules of cycles does not change the loader. -/
theorem loader_foldl_skipCyclic (ds : List Descriptor) (p : Progress) :
    (ds.foldl (fun p d => (p.skipCyclic d).value) p).loader = p.loader := by
  induction ds generalizing p with
  | nil => rfl
  | cons d rest ih =>
    rw [List.foldl_cons, ih]
    rfl

/-- Nothing to which a module refers is missing iff no missing name is among its references. -/
theorem missingReference?_eq_none_iff (p : Progress) (d : Descriptor) :
    p.missingReference? d = none ↔ ∀ name ∈ d.references, name ∉ p.missing := by
  unfold missingReference?
  rw [List.find?_eq_none]
  simp

/-- The next module of a batch is skipped, or it ends the batch, or nothing to which it refers is
missing, the sandbox admits it, its identities are free, and it is added. -/
theorem loadEach_cases (batch : List String) (p : Progress) (d : Descriptor) (image : Image)
    (rest : List (Descriptor × Image)) :
    (∃ e l', l'.layout = p.loader.layout ∧
        (p.loadEach batch ((d, image) :: rest)).value =
          (({ p with loader := l' }.skip d.id d e).loadEach batch rest).value) ∨
      (∃ e l', l'.layout = p.loader.layout ∧
        (p.loadEach batch ((d, image) :: rest)).value = (.error e, { p with loader := l' })) ∨
      ∃ h l', p.missingReference? d = none ∧ p.loader.layout.Admits batch d ∧
        p.loader.registry.conflict? d = none ∧ l'.layout = p.loader.layout.add d image ∧
        (p.loadEach batch ((d, image) :: rest)).value =
          (({ p with loader := l' }.addLoaded d.id h).loadEach batch rest).value := by
  rw [loadEach]
  cases hm : p.missingReference? d with
  | some name => exact .inl ⟨_, p.loader, rfl, rfl⟩
  | none =>
    have hcases := p.loader.loadInspected_cases d image batch
    simp only [Journaled.value_bind]
    generalize (p.loader.loadInspected d image batch).value = answer at hcases ⊢
    obtain ⟨r, l'⟩ := answer
    rcases hcases with ⟨failure, hr, hl⟩ | ⟨hr, hadmits, hfree, hl⟩
    · obtain rfl : r = .error failure := hr
      dsimp only
      split
      case isTrue => exact .inr (.inl ⟨_, l', hl, rfl⟩)
      case isFalse => exact .inl ⟨_, l', hl, rfl⟩
    · obtain rfl : r = .ok _ := hr
      exact .inr (.inr ⟨_, l', trivial, hadmits, hfree, hl, rfl⟩)

/-- Loading modules in their order lets the layout grow. -/
theorem grown_loadEach (batch : List String) (members : List (Descriptor × Image))
    (p : Progress) :
    p.loader.layout.Grown (p.loadEach batch members).value.2.loader.layout := by
  induction members generalizing p with
  | nil => exact .refl
  | cons member rest ih =>
    obtain ⟨d, image⟩ := member
    rcases p.loadEach_cases batch d image rest with
      ⟨e, l', hl, hvalue⟩ | ⟨e, l', hl, hvalue⟩ | ⟨h, l', -, -, hfree, hl, hvalue⟩
    · rw [hvalue, ← hl]
      exact ih ({ p with loader := l' }.skip d.id d e)
    · rw [hvalue, ← hl]
      exact .refl
    · rw [hvalue]
      refine Loader.Layout.Grown.trans (.add d image .refl hfree) ?_
      rw [← hl]
      exact ih ({ p with loader := l' }.addLoaded d.id h)

end Progress

namespace Loader

/-- A batch leaves what is left when its candidates have been loaded in their order, before which
the layout does not change. -/
theorem loadBatch_cases (l : Loader) (images : List Image) :
    ∃ (p : Progress) (candidates : List (Descriptor × Image)), p.loader.layout = l.layout ∧
      (l.loadBatch images).value.2 =
        (p.loadEach ((candidates.map Prod.fst).flatMap (·.names))
          ((LoadOrder.order (candidates.map Prod.fst)).filterMap
            (candidates[·]?))).value.2.loader := by
  unfold loadBatch
  simp only [Journaled.value_bind, Journaled.value_foldlM]
  have hsift := (Progress.start (l.inspectAll images).value.2).loader_sift
    (l.inspectAll images).value.1
  generalize ((Progress.start (l.inspectAll images).value.2).sift _).value = sifted at hsift ⊢
  obtain ⟨candidates, p₀⟩ := sifted
  dsimp only at hsift ⊢
  generalize hp : List.foldl _ p₀ _ = p
  refine ⟨p, candidates, ?_, ?_⟩
  · rw [← hp, Progress.loader_foldl_skipCyclic, hsift]
    exact layout_inspectAll l images
  · split
    · rfl
    · rfl

/-- A batch lets the layout grow, whether or not it is ended early. -/
theorem grown_loadBatch (l : Loader) (images : List Image) :
    l.layout.Grown (l.loadBatch images).value.2.layout := by
  obtain ⟨p, candidates, hlayout, hloader⟩ := l.loadBatch_cases images
  rw [hloader, ← hlayout]
  exact p.grown_loadEach _ _

end Loader

end ModuleRuntime.Module
