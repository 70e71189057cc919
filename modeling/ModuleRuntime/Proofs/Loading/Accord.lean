import ModuleRuntime.Proofs.Loading.Operation

/-!
# The registry and the contexts agree

The registry and the two contexts each record the loaded modules. In every layout that a run can
reach these records say the same: nothing is pending, and the modules that the registry holds as
dynamic ones, in their order, are those of the dynamic context, with the handles that name their
places there; likewise for the static ones. As long as the slots of a context can be told apart, no
handle is given twice, and the registry knows the owner of each.
-/

set_option autoImplicit false

namespace ModuleRuntime.Module

/-! ## One context -/

namespace Context.Layout

/-- The maps of a context fit its modules: none of them is pending, each is found under its id, and
its handle names its place. -/
structure IsTidy (c : Layout) : Prop where
  pending : c.pending = .empty
  loaded : c.loaded.entries = c.modules.map fun m => (m.descriptor.id, m.descriptor)
  handle : ∀ (i : Nat) (m : Placed), c.modules[i]? = some m →
    m.handle = ⟨c.id, c.generation, UInt32.ofNat i⟩

variable {c : Layout} {d : Descriptor}

/-- A module of a new id can be added. -/
theorem IsTidy.add (hc : c.IsTidy) (hd : d.id ∉ c.loaded.keys) (image : Image) :
    (c.add d image).IsTidy where
  pending := hc.pending
  loaded := by
    show (c.loaded.put d.id d).entries = (c.modules ++ [(⟨d, image, c.nextHandle⟩ : Placed)]).map _
    rw [Dictionary.entries_put_of_not_mem hd, List.map_append, hc.loaded]
    rfl
  handle := by
    intro i m hm
    change (c.modules ++ [⟨d, image, c.nextHandle⟩])[i]? = some m at hm
    rcases Nat.lt_or_ge i c.modules.length with hi | hi
    · rw [List.getElem?_append_left hi] at hm
      exact hc.handle i m hm
    · rw [List.getElem?_append_right hi, List.getElem?_singleton] at hm
      split at hm
      case isTrue hz =>
        obtain rfl : i = c.modules.length := by omega
        cases hm
        rfl
      case isFalse => cases hm

/-- The maps of a context without modules are empty. -/
theorem isTidy_emptied (c : Layout) : c.emptied.IsTidy where
  pending := rfl
  loaded := rfl
  handle := by simp [emptied]

/-- The ids under which modules are found are those of the modules. -/
theorem IsTidy.mem_keys_iff (hc : c.IsTidy) (id : String) :
    id ∈ c.loaded.keys ↔ ∃ m ∈ c.modules, m.descriptor.id = id := by
  unfold Dictionary.keys
  rw [hc.loaded, List.map_map, List.mem_map]
  rfl

/-- No two modules have one id. -/
theorem IsTidy.nodup_ids (hc : c.IsTidy) : (c.modules.map fun m => m.descriptor.id).Nodup := by
  have h := c.loaded.nodup_keys
  rw [hc.loaded, List.map_map] at h
  exact h

end Context.Layout

/-- A module of a context as the registry holds it. -/
def Placed.asLoaded (isDynamic : Bool) (m : Placed) : Loaded :=
  ⟨m.descriptor, m.handle, isDynamic⟩

namespace Loader.Layout

/-! ## Both contexts -/

/-- The dynamic or the static context. -/
def context (l : Layout) (isDynamic : Bool) : Context.Layout :=
  if isDynamic then l.dynamicContext else l.staticContext

/-- The registry and the contexts say the same. -/
structure Accord (l : Layout) : Prop where
  supportsReload : ∀ isDynamic, (l.context isDynamic).supportsReload = isDynamic
  id : ∀ isDynamic, (l.context isDynamic).id = if isDynamic then 1 else 0
  tidy : ∀ isDynamic, (l.context isDynamic).IsTidy
  staticPending : l.registry.staticPending = .empty
  dynamicPending : l.registry.dynamicPending = .empty
  ordered : l.registry.IsOrdered
  keyed : ∀ (id : String) (m : Loaded), l.registry.loaded.find? id = some m → m.descriptor.id = id
  listed : ∀ isDynamic, l.registry.loaded.values.filter (fun m => m.isDynamic == isDynamic) =
    (l.context isDynamic).modules.map (Placed.asLoaded isDynamic)
  placed : ∀ m ∈ l.registry.loaded.values, m.isDynamic = l.isDynamic m.descriptor
  staged : ∀ id ∈ l.staged.keys, id ∈ l.dynamicContext.loaded.keys

variable {l m : Layout} {d : Descriptor} {image : Image}

/-- A module goes to the context in which it belongs, and the other one stays as it was. -/
theorem context_add (l : Layout) (d : Descriptor) (image : Image) (isDynamic : Bool) :
    (l.add d image).context isDynamic =
      if l.isDynamic d = isDynamic then (l.context isDynamic).add d image
      else l.context isDynamic := by
  unfold context add
  cases l.isDynamic d <;> cases isDynamic <;> rfl

/-- The registry holds a module under an id iff the module stands in its context and has that id. -/
theorem Accord.find?_loaded_iff (ha : l.Accord) (id : String) (m : Loaded) :
    l.registry.loaded.find? id = some m ↔
      m.descriptor.id = id ∧
        ∃ p ∈ (l.context m.isDynamic).modules, p.asLoaded m.isDynamic = m := by
  have hmem : m ∈ l.registry.loaded.values ↔
      ∃ p ∈ (l.context m.isDynamic).modules, p.asLoaded m.isDynamic = m := by
    rw [← List.mem_map, ← ha.listed m.isDynamic, List.mem_filter]
    simp
  rw [← hmem, Dictionary.mem_values_iff]
  constructor
  · intro h
    exact ⟨ha.keyed id m h, id, h⟩
  · rintro ⟨hid, k, hk⟩
    rw [← hid, ha.keyed k m hk]
    exact hk

/-- An id that the registry holds for nobody is that of no module of a context. -/
theorem Accord.not_mem_keys (ha : l.Accord) {id : String} (h : id ∉ l.registry.loaded.keys)
    (isDynamic : Bool) : id ∉ (l.context isDynamic).loaded.keys := by
  intro hmem
  obtain ⟨p, hp, rfl⟩ := ((ha.tidy isDynamic).mem_keys_iff id).mp hmem
  have hfound := (ha.find?_loaded_iff p.descriptor.id (p.asLoaded isDynamic)).mpr ⟨rfl, p, hp, rfl⟩
  refine h ((Dictionary.contains_iff _ _).mp ?_)
  rw [Dictionary.contains, hfound]
  rfl

/-- The registry and the contexts agree before anything was loaded. -/
theorem accord_new (config : Config) (linkers : LinkerSequence) :
    (new config linkers).layout.Accord where
  supportsReload isDynamic := by cases isDynamic <;> rfl
  id isDynamic := by cases isDynamic <;> rfl
  tidy isDynamic := by
    have hempty : ((new config linkers).layout.context isDynamic).modules = [] := by
      cases isDynamic <;> rfl
    refine ⟨by cases isDynamic <;> rfl, by cases isDynamic <;> rfl, ?_⟩
    intro i m hm
    rw [hempty] at hm
    cases hm
  staticPending := rfl
  dynamicPending := rfl
  ordered := rfl
  keyed := by simp [layout, new, Registry.new]
  listed isDynamic := by cases isDynamic <;> rfl
  placed := by simp [layout, new, Registry.new, Dictionary.values, Dictionary.empty]
  staged := by simp [layout, new, Dictionary.keys, Dictionary.empty]

/-- A module whose identities are free is added to the registry and to its context. -/
theorem Accord.add (ha : l.Accord) (hfree : l.registry.conflict? d = none) (image : Image) :
    (l.add d image).Accord := by
  have hid := Registry.not_mem_keys_of_conflict? hfree
  have hvalues : (l.add d image).registry.loaded.values =
      l.registry.loaded.values ++ [⟨d, l.nextHandle d, l.isDynamic d⟩] :=
    Registry.values_add hid
  refine ⟨?_, ?_, ?_, ha.staticPending, ha.dynamicPending, ha.ordered.add hid, ?_, ?_, ?_, ?_⟩
  · intro isDynamic
    rw [context_add]
    split
    · exact ha.supportsReload isDynamic
    · exact ha.supportsReload isDynamic
  · intro isDynamic
    rw [context_add]
    split
    · exact ha.id isDynamic
    · exact ha.id isDynamic
  · intro isDynamic
    rw [context_add]
    split
    · exact (ha.tidy isDynamic).add (ha.not_mem_keys hid isDynamic) image
    · exact ha.tidy isDynamic
  · intro id m hm
    change (l.registry.loaded.put d.id _).find? id = some m at hm
    rw [Dictionary.find?_put] at hm
    split at hm
    case isTrue heq =>
      cases hm
      exact heq
    case isFalse => exact ha.keyed id m hm
  · intro isDynamic
    rw [hvalues, context_add, List.filter_append, ha.listed isDynamic]
    by_cases hd : l.isDynamic d = isDynamic
    · subst hd
      simp only [beq_self_eq_true, List.filter_cons_of_pos, List.filter_nil, if_true]
      show _ = ((l.context (l.isDynamic d)).modules ++ [(_ : Placed)]).map _
      rw [List.map_append]
      rfl
    · rw [if_neg hd, List.filter_cons_of_neg (by simpa using hd)]
      simp
  · intro m hm
    rw [hvalues, List.mem_append, List.mem_singleton] at hm
    rcases hm with hm | rfl
    · exact ha.placed m hm
    · rfl
  · intro id hmem
    have hold := ha.staged id hmem
    change id ∈ ((l.add d image).context true).loaded.keys
    rw [context_add]
    split
    · show id ∈ (l.dynamicContext.loaded.put d.id d).keys
      rw [Dictionary.keys_put]
      split
      · exact hold
      · exact List.mem_append_left _ hold
    · exact hold

/-- The registry and the contexts go on to agree as modules are added. -/
theorem Accord.grown (ha : l.Accord) (h : l.Grown m) : m.Accord := by
  induction h with
  | refl => exact ha
  | add d image _ hfree ih => exact ih.add hfree image

/-- When the dynamic modules are dropped, the registry and the dynamic context lose the same ones,
and none of them can have an image staged. -/
theorem Accord.dropped (ha : l.Accord) : (l.dropped.withStaged .empty).Accord := by
  obtain ⟨-, hs, hd⟩ := Registry.forgetDynamic_frame l.registry
  have hloaded := Registry.loaded_forgetDynamic ha.ordered
  have hvalues : (l.dropped.withStaged .empty).registry.loaded.values =
      l.registry.loaded.values.filter fun m => !m.isDynamic := by
    show l.registry.forgetDynamic.2.loaded.values = _
    rw [hloaded, Dictionary.values_filter]
  refine ⟨?_, ?_, ?_, hs.trans ha.staticPending, hd.trans ha.dynamicPending,
    ha.ordered.forgetDynamic, ?_, ?_, ?_, ?_⟩
  · intro isDynamic
    have h := ha.supportsReload isDynamic
    cases isDynamic <;> exact h
  · intro isDynamic
    have h := ha.id isDynamic
    cases isDynamic <;> exact h
  · intro isDynamic
    cases isDynamic with
    | false => exact ha.tidy false
    | true => exact l.dynamicContext.isTidy_emptied
  · intro id m hm
    change l.registry.forgetDynamic.2.loaded.find? id = some m at hm
    rw [hloaded, Dictionary.find?_filter, Option.filter_eq_some_iff] at hm
    exact ha.keyed id m hm.1
  · -- The static context keeps its modules, and nothing in the registry is left dynamic.
    intro isDynamic
    rw [hvalues, List.filter_filter]
    cases isDynamic with
    | false =>
      refine Eq.trans (List.filter_congr fun m _ => ?_) (ha.listed false)
      cases m.isDynamic <;> rfl
    | true =>
      refine List.filter_eq_nil_iff.mpr fun m _ => ?_
      cases m.isDynamic <;> simp
  · intro m hm
    rw [hvalues] at hm
    exact ha.placed m (List.mem_filter.mp hm).1
  · intro id hmem
    cases hmem

/-- The registry and the contexts agree after every step. -/
theorem Accord.step (ha : l.Accord) (h : l.Step m) : m.Accord := by
  cases h with
  | grow h => exact ha.grown h
  | reload h => exact ha.dropped.grown h
  | stage id image h =>
    refine ⟨ha.supportsReload, ha.id, ha.tidy, ha.staticPending, ha.dynamicPending, ha.ordered,
      ha.keyed, ha.listed, ha.placed, ?_⟩
    intro k hk
    change k ∈ (l.staged.put id image).keys at hk
    rw [Dictionary.keys_put] at hk
    split at hk
    case isTrue => exact ha.staged k hk
    case isFalse =>
      rcases List.mem_append.mp hk with hk | hk
      · exact ha.staged k hk
      · rw [List.mem_singleton] at hk
        subst hk
        exact (Dictionary.contains_iff _ _).mp h

end Loader.Layout

namespace Loader

/-- What holds of the layout of a new loader and is kept by every step from a layout in accord holds
after every run. -/
theorem layout_after_induction {P : Layout → Prop} {config : Config} {linkers : LinkerSequence}
    (hnew : P (new config linkers).layout)
    (hstep : ∀ l m : Layout, l.Accord → P l → l.Step m → P m) (ops : List Operation) :
    (after config linkers ops).layout.Accord ∧ P (after config linkers ops).layout := by
  refine after_induction (P := fun l => l.layout.Accord ∧ P l.layout)
    ⟨Layout.accord_new config linkers, hnew⟩ ?_ ops
  rintro l op ⟨ha, hp⟩
  have h := l.step_perform op (ha.supportsReload true)
  exact ⟨ha.step h, hstep _ _ ha hp h⟩

/-- After any run the registry and the contexts agree. -/
theorem accord_after (config : Config) (linkers : LinkerSequence) (ops : List Operation) :
    (after config linkers ops).layout.Accord :=
  (layout_after_induction (P := fun _ => True) trivial (fun _ _ _ _ _ => trivial) ops).1

/-- No run changes the configuration, how images are inspected, or the names of the core. -/
theorem frame_after (config : Config) (linkers : LinkerSequence) (ops : List Operation) :
    (after config linkers ops).config = config ∧
      (after config linkers ops).inspector = ⟨config.contentPrefix, false⟩ ∧
      (after config linkers ops).registry.core = config.coreModules := by
  refine (layout_after_induction (P := fun l => l.config = config ∧
    l.inspector = ⟨config.contentPrefix, false⟩ ∧ l.registry.core = config.coreModules)
    ⟨rfl, rfl, rfl⟩ ?_ ops).2
  rintro l m - ⟨hconfig, hinspector, hcore⟩ h
  obtain ⟨hconfig', hinspector', hcore'⟩ := h.frame
  exact ⟨hconfig'.trans hconfig, hinspector'.trans hinspector, hcore'.trans hcore⟩

end Loader

end ModuleRuntime.Module
