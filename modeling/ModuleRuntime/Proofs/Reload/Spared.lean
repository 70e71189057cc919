import ModuleRuntime.Proofs.Reload.Outcome
import ModuleRuntime.Proofs.Reload.Refill

/-!
# What a reload leaves alone

A reload forgets dynamic modules and adds dynamic modules. So the static context stays what it is,
down to how far its entry points have come, and the registry holds the static modules as before, in
their order, and answers the same for each of their handles.
-/

set_option autoImplicit false

namespace ModuleRuntime.Module

/-- The loaded modules that are static, under their ids. -/
def Registry.staticPart (r : Registry) : Dictionary String Loaded :=
  r.loaded.filter fun _ m => !m.isDynamic

/-- A dynamic module is none of them. -/
theorem Registry.staticPart_add {r : Registry} {d : Descriptor} (hd : d.id ∉ r.loaded.keys)
    (h : Handle) : (r.add d true h).staticPart = r.staticPart := by
  refine Dictionary.ext ?_
  show (r.loaded.put d.id ⟨d, h, true⟩).entries.filter _ = _
  rw [Dictionary.entries_put_of_not_mem hd, List.filter_append]
  exact List.append_nil _

/-- Forgetting the dynamic modules leaves the static ones. -/
theorem Registry.staticPart_forgetDynamic {r : Registry} (ho : r.IsOrdered) :
    r.forgetDynamic.2.staticPart = r.staticPart := by
  unfold staticPart
  rw [loaded_forgetDynamic ho]
  refine Dictionary.ext ?_
  simp only [Dictionary.filter, List.filter_filter, Bool.and_self]

/-- The static modules of the load order are those that the registry holds. -/
theorem Registry.IsOrdered.static_inLoadOrder {r : Registry} (ho : r.IsOrdered) :
    (r.inLoadOrder.filter fun m => !m.isDynamic) = r.staticPart.values := by
  rw [ho.inLoadOrder_eq, staticPart, Dictionary.values_filter]

namespace Loader

namespace Layout

variable {l m n : Layout} {h : Handle}

/-- A layout that came from another one by adding dynamic modules whose identities were free. -/
inductive Refilled (l : Layout) : Layout → Prop where
  | refl : Refilled l l
  | add {m : Layout} (d : Descriptor) (image : Image) (h : Refilled l m)
      (hdynamic : m.isDynamic d = true) (hfree : m.registry.conflict? d = none) :
      Refilled l (m.add d image)

/-- Some modules and then others are added. -/
theorem Refilled.trans (hlm : l.Refilled m) (hmn : m.Refilled n) : l.Refilled n := by
  induction hmn with
  | refl => exact hlm
  | add d image _ hdynamic hfree ih => exact .add d image ih hdynamic hfree

/-- Whether modules are dynamic does not change as modules are added, and neither does the id of the
dynamic context. -/
theorem Refilled.frame (h : l.Refilled m) :
    m.config = l.config ∧ m.dynamicContext.id = l.dynamicContext.id := by
  induction h with
  | refl => exact ⟨rfl, rfl⟩
  | @add k d image _ hdynamic _ ih =>
    refine ⟨ih.1, ?_⟩
    unfold Layout.add
    rw [hdynamic]
    exact ih.2

/-- The registry holds the static modules as before, and handles of other contexts than the dynamic
one keep their owners. -/
theorem Refilled.registry (hm : l.Refilled m) :
    m.registry.staticPart = l.registry.staticPart ∧
      ∀ h : Handle, h.context ≠ l.dynamicContext.id →
        m.registry.owners.find? h = l.registry.owners.find? h := by
  induction hm with
  | refl => exact ⟨rfl, fun _ _ => rfl⟩
  | @add k d image hk hdynamic hfree ih =>
    obtain ⟨hstatic, howners⟩ := ih
    have hadd : (k.add d image).registry = k.registry.add d true (k.nextHandle d) := by
      unfold Layout.add
      rw [hdynamic]
    rw [hadd]
    refine ⟨?_, fun h hh => ?_⟩
    · rw [Registry.staticPart_add (Registry.not_mem_keys_of_conflict? hfree), hstatic]
    · have hother : k.nextHandle d ≠ h := fun heq => by
        have hcontext : (k.nextHandle d).context = k.dynamicContext.id := by
          unfold nextHandle home
          rw [hdynamic]
          rfl
        rw [← heq, hcontext, hk.frame.2] at hh
        exact hh rfl
      show (k.registry.owners.put (k.nextHandle d) d.id).find? h = _
      rw [Dictionary.find?_put, if_neg hother, howners h hh]

/-- No module takes the handle of another one without owning it. -/
theorem Grown.ownersSound (hm : l.Grown m) (ho : l.registry.OwnersSound) :
    m.registry.OwnersSound := by
  induction hm with
  | refl => exact ho
  | add d image _ hfree ih => exact ih.add (Registry.not_mem_keys_of_conflict? hfree)

/-- Every step keeps the owners of handles right. -/
theorem Step.ownersSound (hm : l.Step m) (ho : l.registry.OwnersSound) :
    m.registry.OwnersSound := by
  cases hm with
  | grow hm => exact hm.ownersSound ho
  | stage id image _ => exact ho
  | reload hm => exact hm.ownersSound (l := l.dropped.withStaged .empty) ho.forgetDynamic

/-- The handles of dynamic modules are those of the dynamic context. -/
theorem Accord.context_handle (ha : l.Accord) {id : String} {k : Loaded}
    (hk : l.registry.loaded.find? id = some k) :
    k.handle.context = (l.context k.isDynamic).id := by
  obtain ⟨-, p, hp, hpk⟩ := (ha.find?_loaded_iff id k).mp hk
  obtain ⟨i, hi⟩ := List.mem_iff_getElem?.mp hp
  have hhandle : k.handle = p.handle := congrArg Loaded.handle hpk.symm
  rw [hhandle, (ha.tidy k.isDynamic).handle i p hi]

end Layout

end Loader

open Loader (Layout)

namespace Progress

/-- Where live reload is on, a step of a reload adds a dynamic module or none. -/
theorem refilled_reload (batch : List String) {p : Progress}
    (hlive : p.loader.config.liveReload = true) (u : Unloaded) :
    (p.loader.layout.withStaged .empty).Refilled
      ((p.reload batch u).value.loader.layout.withStaged .empty) := by
  rcases p.reload_cases batch u with
    ⟨e, l', hvalue, hl, -⟩ | ⟨image, l', hvalue, -, hsupport, -, hfree, hl⟩
  · rw [hvalue, loader_skip, hl]
    exact .refl
  · rw [hvalue, loader_addLoaded, hl]
    exact .add _ image .refl (Bool.and_eq_true_iff.mpr ⟨hlive, hsupport⟩) hfree

/-- By induction on the modules that are tried. -/
theorem refilled_foldl_reload (batch : List String) (us : List Unloaded) {p : Progress}
    (hlive : p.loader.config.liveReload = true) :
    (p.loader.layout.withStaged .empty).Refilled
      ((us.foldl (fun p u => (p.reload batch u).value) p).loader.layout.withStaged .empty) := by
  induction us generalizing p with
  | nil => exact .refl
  | cons u rest ih =>
    have hstep := refilled_reload batch hlive u
    have hkept : (p.reload batch u).value.loader.config = p.loader.config := hstep.frame.1
    exact hstep.trans (ih (hkept ▸ hlive))

end Progress

namespace Loader

variable {l l' : Loader} {report : ReloadReport}

/-- A reload that is accepted forgets the dynamic modules and then adds dynamic modules. -/
theorem refilled_startReload (ha : l.layout.Accord) (h : l.startReload.value = (.ok report, l')) :
    (l.layout.dropped.withStaged .empty).Refilled l'.layout := by
  rcases startReload_cases (ha.supportsReload true) with
    ⟨-, e, hv⟩ | ⟨hlive, -, dropped, l'', isFinished, hdropped, hv, hl⟩
  · rw [hv] at h
    cases h
  · rw [hv] at h
    obtain ⟨-, rfl⟩ := Prod.mk.inj h
    have hconfig : dropped.config = l.config := congrArg Layout.config hdropped
    rw [hl, ← hdropped]
    exact Progress.refilled_foldl_reload _ _ (p := Progress.start dropped) (hconfig ▸ hlive)

/-- After every run each loaded module owns its handle. -/
theorem ownersSound_after (config : Config) (linkers : LinkerSequence) (ops : List Operation) :
    (after config linkers ops).registry.OwnersSound :=
  (layout_after_induction (P := fun l => l.registry.OwnersSound)
    (fun _ _ hid => absurd hid (by simp [layout, new, Registry.new]))
    (fun _ _ _ ho hstep => hstep.ownersSound ho) ops).2

/-- What a reload leaves alone: the static context as a whole, what the registry holds of the static
modules, the order in which it lists them, and what it answers for the handles of the static
context.
-/
structure SparesStatic (l l' : Loader) : Prop where
  context : l'.staticContext = l.staticContext
  registry : l'.registry.staticPart = l.registry.staticPart
  listed : (l'.registry.inLoadOrder.filter fun m => !m.isDynamic) =
    l.registry.inLoadOrder.filter fun m => !m.isDynamic
  owner : ∀ h : Handle, h.context = l.staticContext.id →
    l'.registry.owner? h = l.registry.owner? h

/-- A static module that owns its handle does so as long as the static modules and the owners are
kept. -/
theorem owner?_eq_of_staticPart {r r' : Registry} {h : Handle} (ho : r.OwnersSound)
    (hstatic : ∀ id m, r.loaded.find? id = some m → m.handle = h → m.isDynamic = false)
    (hpart : r'.staticPart = r.staticPart) (howners : r'.owners.find? h = r.owners.find? h) :
    r'.owner? h = r.owner? h := by
  unfold Registry.owner?
  rw [howners]
  cases hid : r.owners.find? h with
  | none => rfl
  | some id =>
    obtain ⟨m, hm, hh⟩ := ho h id hid
    have hfound : r'.staticPart.find? id = some m := by
      rw [hpart, Registry.staticPart, Dictionary.find?_filter, hm]
      simp [hstatic id m hm hh]
    rw [Registry.staticPart, Dictionary.find?_filter, Option.filter_eq_some_iff] at hfound
    exact hfound.1.trans hm.symm

/-- What the registry holds of static modules is spared by a reload. -/
theorem registry_startReload (ha : l.layout.Accord) (ho : l.registry.OwnersSound)
    (h : l.startReload.value = (.ok report, l')) :
    l'.registry.staticPart = l.registry.staticPart ∧
      ∀ h : Handle, h.context = l.staticContext.id →
        l'.registry.owner? h = l.registry.owner? h := by
  obtain ⟨hpart, howners⟩ := (refilled_startReload ha h).registry
  have hpart' : l'.registry.staticPart = l.registry.staticPart :=
    hpart.trans (Registry.staticPart_forgetDynamic ha.ordered)
  have hids : l.dynamicContext.id = 1 ∧ l.staticContext.id = 0 := ⟨ha.id true, ha.id false⟩
  refine ⟨hpart', fun h hh => ?_⟩
  have hforeign (id : String) (m : Loaded) (hm : l.registry.loaded.find? id = some m)
      (hdynamic : m.isDynamic = true) : m.handle ≠ h := by
    rintro rfl
    have hcontext : m.handle.context = l.dynamicContext.id := by
      rw [ha.context_handle hm, hdynamic]
      rfl
    rw [hcontext, hids.1, hids.2] at hh
    exact absurd hh (by decide)
  refine owner?_eq_of_staticPart ho (fun id m hm heq => ?_) hpart' ?_
  · exact Bool.eq_false_iff.mpr fun hdynamic => hforeign id m hm hdynamic heq
  · have hother : h.context ≠ l.dynamicContext.id := by
      rw [hh, hids.1, hids.2]
      decide
    exact (howners h hother).trans (Registry.owners_forgetDynamic hforeign)

end Loader

end ModuleRuntime.Module
