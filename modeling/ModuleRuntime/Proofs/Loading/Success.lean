import ModuleRuntime.Proofs.Loading.Accord
import ModuleRuntime.Proofs.Loading.Course

/-!
# When loads succeed

A context refuses a module only if one of its id is there or if the linker refuses it. So a dynamic
module whose references the sandbox admits and whose identities are free is loaded if it is linked,
and that it was linked once is enough if every call goes to the same linker.
-/

set_option autoImplicit false

namespace ModuleRuntime.Module

variable {d : Descriptor} {image : Image}

namespace Context

variable {c c' : Context}

/-- A module of a new id that is linked is loaded. -/
theorem load_eq_ok (hloaded : c.contains d.id = false) (hpending : c.pending.contains d.id = false)
    {linked : Linked} (hlink : c.linkers.head.link d image = .ok linked) :
    (c.load d image).value.1 = .ok c.nextHandle := by
  unfold load
  simp only [hloaded, hpending, hlink]
  rfl

/-- Every call goes to one linker, by which every module is linked that stands in the context. -/
structure LinkedBy (c : Context) (linker : Linker) : Prop where
  linkers : c.linkers = .constant linker
  modules : ∀ m ∈ c.layout.modules, ∃ linked, linker.link m.descriptor m.image = .ok linked

namespace LinkedBy

variable {linker : Linker}

/-- What is done to the entry points does not matter to the linker. -/
theorem congr (h : c.LinkedBy linker) (hlinkers : c'.linkers = c.linkers)
    (hlayout : c'.layout = c.layout) : c'.LinkedBy linker :=
  ⟨hlinkers.trans h.linkers, hlayout ▸ h.modules⟩

/-- A module that is loaded was linked. -/
theorem load (h : c.LinkedBy linker) (d : Descriptor) (image : Image) :
    (c.load d image).value.2.LinkedBy linker := by
  have htail : c.linkers.tail = .constant linker := by
    rw [h.linkers, LinkerSequence.tail_constant]
  have hhead : c.linkers.head = linker := by
    rw [h.linkers, LinkerSequence.head_constant]
  unfold Context.load
  split
  · exact h
  · dsimp only
    split
    · exact ⟨htail, h.modules⟩
    · next linked hlink =>
      refine ⟨htail, fun m hm => ?_⟩
      change m ∈ (c.slots ++ [(_ : Slot)]).map Slot.placed at hm
      rw [List.map_append, List.mem_append] at hm
      rcases hm with hm | hm
      · exact h.modules m hm
      · obtain rfl := List.mem_singleton.mp hm
        exact ⟨linked, hhead ▸ hlink⟩

end LinkedBy

/-- Whatever loaders do with a context, its modules are linked by its linker. -/
theorem Reaches.linkedBy {linker : Linker} (h : c.Reaches c') (hc : c.LinkedBy linker) :
    c'.LinkedBy linker := by
  induction h with
  | refl => exact hc
  | load d image _ ih => exact ih.load d image
  | enterLevel level _ ih =>
    refine ih.congr ?_ (layout_enterLevel _ level)
    unfold Context.enterLevel
    split <;> rfl
  | tearDown _ ih => exact ih.congr rfl (layout_tearDown _)
  | emptied _ ih => exact ⟨ih.linkers, fun m hm => absurd hm List.not_mem_nil⟩
  | withDependencies dependencies _ ih => exact ih.congr rfl rfl
  | withCallbacks callbacks _ ih => exact ih.congr rfl rfl
  | withReloading isReloading _ ih => exact ih.congr rfl rfl

end Context

namespace Loader

variable {l : Loader} {batch : List String}

/-- A dynamic module goes to the dynamic context. -/
theorem place_eq_ok (hd : l.isDynamic d = true) {h : Handle}
    (hload : (l.dynamicContext.load d image).value.1 = .ok h) :
    (l.place d image).value.1 = .ok h := by
  unfold place
  rw [if_pos hd]
  exact hload

/-- A claim is settled if the module is loaded. -/
theorem settle_eq_ok (hfree : l.registry.contains d.id = false) {h : Handle}
    (hplace : (place { l with registry := l.registry.addPending d (l.isDynamic d) } d
      image).value.1 = .ok h) :
    (settle { l with registry := l.registry.addPending d (l.isDynamic d) } d image).value.1 =
      .ok h := by
  have hregistry : (place { l with registry := l.registry.addPending d (l.isDynamic d) } d
      image).value.2.registry = l.registry.addPending d (l.isDynamic d) := by
    unfold place
    split <;> rfl
  unfold settle
  simp only [Journaled.value_bind, hplace, hregistry, Registry.promote_addPending hfree,
    Journaled.value_pure]

/-- A dynamic module that the sandbox admits, whose identities are free, and that is linked, is
loaded. -/
theorem loadInspected_eq_ok (ha : l.layout.Accord) (hd : l.isDynamic d = true)
    (hadmits : l.layout.Admits batch d) (hfree : l.registry.conflict? d = none) {linked : Linked}
    (hlink : l.dynamicContext.linkers.head.link d image = .ok linked) :
    (l.loadInspected d image batch).value.1 = .ok l.dynamicContext.nextHandle := by
  have hid : d.id ∉ l.dynamicContext.loaded.keys :=
    ha.not_mem_keys (Registry.not_mem_keys_of_conflict? hfree) true
  have hloaded : l.dynamicContext.contains d.id = false := by
    rw [← Bool.not_eq_true, Context.contains, Dictionary.contains_iff]
    exact hid
  have hpending : l.dynamicContext.pending.contains d.id = false := by
    rw [show l.dynamicContext.pending = .empty from (ha.tidy true).pending]
    rfl
  have hcontains : l.registry.contains d.id = false :=
    ((Registry.conflict?_eq_none_iff l.registry d).mp hfree).2.2.1
  have hload := l.dynamicContext.load_eq_ok hloaded hpending hlink
  have hplace := place_eq_ok
    (l := { l with registry := l.registry.addPending d (l.isDynamic d) }) hd hload
  have hsettle := settle_eq_ok hcontains hplace
  unfold loadInspected
  simp only [Journaled.value_bind, (vetReferences_eq_ok_iff l d batch).mpr hadmits,
    Journaled.value_mapJournal, Registry.value_reserve, hfree, hsettle, Journaled.value_pure]
  rfl

end Loader

end ModuleRuntime.Module
