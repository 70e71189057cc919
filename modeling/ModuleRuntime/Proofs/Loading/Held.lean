import ModuleRuntime.Proofs.Loading.Accord
import ModuleRuntime.Proofs.Registry.Identity

/-!
# What is held across a reload

A reload drops the dynamic modules, and the registry forgets them. What it held before is what it
still holds then and the modules that were dropped, and no identity is held twice. So when the
dropped modules are held again one after the other, the identities of the next one are free.
-/

set_option autoImplicit false

namespace ModuleRuntime.Module

open Loader (Layout)

/-- An unloaded module as a registry would hold it. -/
def Unloaded.entry (u : Unloaded) : String × Descriptor :=
  (u.descriptor.id, u.descriptor)

/-- Two tidy layouts of one context that have the same modules in the same order differ only in the
generation of the handles. -/
theorem Context.Layout.IsTidy.modules_eq {c c' : Context.Layout} (hc : c.IsTidy) (hc' : c'.IsTidy)
    (hid : c'.id = c.id) (h : c'.modules.map (fun m => (⟨m.descriptor, m.image⟩ : Unloaded)) =
      c.modules.map fun m => ⟨m.descriptor, m.image⟩) :
    c'.modules = c.modules.map fun m =>
      ⟨m.descriptor, m.image, { m.handle with generation := c'.generation }⟩ := by
  refine List.ext_getElem? fun i => ?_
  have hi := congrArg (·[i]?) h
  simp only [List.getElem?_map] at hi ⊢
  cases hm : c.modules[i]? with
  | none =>
    rw [hm, Option.map_none, Option.map_eq_none_iff] at hi
    rw [hi, Option.map_none]
  | some m =>
    rw [hm, Option.map_some, Option.map_eq_some_iff] at hi
    obtain ⟨m', hm', hsame⟩ := hi
    obtain ⟨hdescriptor, himage⟩ := Unloaded.mk.inj hsame
    have hhandle := hc.handle i m hm
    have hhandle' := hc'.handle i m' hm'
    rw [hm', Option.map_some, hhandle, ← hid, ← hdescriptor, ← himage, ← hhandle']

/-- With nothing pending, a registry holds what is loaded. -/
theorem Registry.held_of_no_pending {r : Registry} (hs : r.staticPending = .empty)
    (hd : r.dynamicPending = .empty) :
    r.held = r.loaded.entries.map fun e => (e.1, e.2.descriptor) := by
  unfold Registry.held
  rw [hs, hd]
  rfl

namespace Loader.Layout

variable {l m : Layout} {u : Unloaded}

/-- What is unloaded is held by the registry, as a dynamic module. -/
theorem Accord.exists_loaded (ha : l.Accord) (hu : u ∈ l.unloaded) :
    ∃ m ∈ l.registry.loaded.values, m.descriptor = u.descriptor ∧ m.isDynamic = true := by
  obtain ⟨p, hp, rfl⟩ := List.mem_map.mp hu
  have hlisted : p.asLoaded true ∈
      l.registry.loaded.values.filter fun m => m.isDynamic == true := by
    rw [ha.listed true]
    exact List.mem_map_of_mem hp
  exact ⟨p.asLoaded true, (List.mem_filter.mp hlisted).1, rfl, rfl⟩

/-- What is unloaded supports reloads, and live reload is on. -/
theorem Accord.supportsReload_of_mem (ha : l.Accord) (hu : u ∈ l.unloaded) :
    l.config.liveReload = true ∧ u.descriptor.supportsReload = true := by
  obtain ⟨m, hm, hd, hdynamic⟩ := ha.exists_loaded hu
  have hplaced := ha.placed m hm
  rw [hdynamic, hd, isDynamic, eq_comm, Bool.and_eq_true] at hplaced
  exact hplaced

/-- What is unloaded stands in the registry's load table under its id. -/
theorem Accord.map_entry_unloaded (ha : l.Accord) :
    l.unloaded.map Unloaded.entry =
      (l.registry.loaded.entries.filter fun e => e.2.isDynamic).map
        fun e => (e.1, e.2.descriptor) := by
  have hkeyed : ∀ e ∈ l.registry.loaded.entries.filter fun e => e.2.isDynamic,
      (e.1, e.2.descriptor) = (e.2.descriptor.id, e.2.descriptor) := by
    intro e he
    have hfound := (Dictionary.mem_entries_iff _ _ _).mp (List.mem_filter.mp he).1
    rw [ha.keyed e.1 e.2 hfound]
  have hlisted := ha.listed true
  simp only [beq_true] at hlisted
  have hvalues : (l.registry.loaded.entries.filter fun e => e.2.isDynamic).map Prod.snd =
      l.dynamicContext.modules.map (Placed.asLoaded true) :=
    List.filter_map.symm.trans hlisted
  rw [List.map_congr_left hkeyed, ← Function.comp_def (fun m : Loaded => (m.descriptor.id,
    m.descriptor)) Prod.snd, ← List.map_map, hvalues, unloaded, List.map_map, List.map_map]
  rfl

/-- The registry holds what it still holds when the dynamic modules are dropped, and those. -/
theorem Accord.held_perm (ha : l.Accord) :
    l.registry.held.Perm (l.dropped.registry.held ++ l.unloaded.map Unloaded.entry) := by
  obtain ⟨-, hstatic, hdynamic⟩ := Registry.forgetDynamic_frame l.registry
  have hdropped : l.dropped.registry.held =
      (l.registry.loaded.entries.filter fun e => !e.2.isDynamic).map
        fun e => (e.1, e.2.descriptor) := by
    show l.registry.forgetDynamic.2.held = _
    rw [Registry.held_of_no_pending (hstatic.trans ha.staticPending)
      (hdynamic.trans ha.dynamicPending), Registry.loaded_forgetDynamic ha.ordered]
    rfl
  rw [hdropped, ha.map_entry_unloaded, ← List.map_append,
    Registry.held_of_no_pending ha.staticPending ha.dynamicPending]
  refine List.Perm.map _ ?_
  exact (List.perm_append_comm.trans (List.filter_append_perm _ _)).symm

/-- A module that is unloaded behind others has identities that are free when those are
held again. -/
theorem Accord.conflict?_eq_none (ha : l.Accord) (hd : Distinct l.registry.core l.registry.held)
    {done rest : List Unloaded} (hsplit : l.unloaded = done ++ u :: rest) {r : Registry}
    (hcore : r.core = l.registry.core)
    (hheld : r.held = l.dropped.registry.held ++ done.map Unloaded.entry) :
    r.conflict? u.descriptor = none := by
  -- What was held before are the module itself, what is held now and what is still to come.
  have hall : l.registry.held.Perm (u.entry :: (r.held ++ rest.map Unloaded.entry)) := by
    refine ha.held_perm.trans ?_
    rw [hsplit, List.map_append, List.map_cons, ← List.append_assoc, ← hheld]
    exact List.perm_middle
  have hdistinct : Distinct r.core (u.entry :: r.held) :=
    hcore ▸ (hd.perm hall).sublist ((List.sublist_append_left ..).cons_cons _)
  rw [Registry.conflict?_eq_none_iff_held fun e he =>
    hdistinct.keyed e (List.mem_cons_of_mem _ he)]
  exact hdistinct.free_of_cons

/-- No identity is held twice as modules are added. -/
theorem Grown.distinct (h : l.Grown m) (hd : Distinct l.registry.core l.registry.held) :
    Distinct m.registry.core m.registry.held := by
  induction h with
  | refl => exact hd
  | add d image _ hfree ih => exact Registry.distinct_add ih hfree

/-- No identity is held twice, whatever is done. -/
theorem Step.distinct (h : l.Step m) (hd : Distinct l.registry.core l.registry.held) :
    Distinct m.registry.core m.registry.held := by
  cases h with
  | grow h => exact h.distinct hd
  | stage id image h => exact hd
  | reload h =>
    refine h.distinct ?_
    show Distinct l.registry.forgetDynamic.2.core l.registry.forgetDynamic.2.held
    rw [(Registry.forgetDynamic_frame l.registry).1]
    exact hd.sublist (Registry.held_forgetDynamic l.registry)

/-- Nothing becomes staged as modules are added. -/
theorem Grown.staged (h : l.Grown m) : m.staged = l.staged := by
  induction h with
  | refl => rfl
  | add d image _ _ ih => exact ih

/-- No generation begins as modules are added. -/
theorem Grown.generation (h : l.Grown m) :
    m.dynamicContext.generation = l.dynamicContext.generation := by
  induction h with
  | refl => rfl
  | @add k d image _ _ ih =>
    rw [← ih]
    unfold Layout.add
    cases k.isDynamic d <;> rfl

end Loader.Layout

end ModuleRuntime.Module
