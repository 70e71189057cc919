import Mathlib.Data.List.Dedup
import ModuleRuntime.Proofs.Registry.Names

/-!
# Identities that are held

The modules that a registry holds, pending and loaded ones together, are one list, in which each
stands with the id under which it is held. A claim adds a member to the list, a promotion moves one
inside it, and all other changes take members out. So it is enough to know of the list that no id
and no assembly stands twice in it and that no name in it is one of the core.
-/

set_option autoImplicit false

namespace ModuleRuntime

/-- The entry of a key and the entries of all others are the whole dictionary. -/
theorem Dictionary.perm_cons_erase {α β : Type} [DecidableEq α] {d : Dictionary α β} {k : α} {v : β}
    (h : d.find? k = some v) : d.entries.Perm ((k, v) :: (d.erase k).entries) := by
  have hnodup (e : Dictionary α β) : e.entries.Nodup := e.nodup_keys.of_map
  have hnot : (k, v) ∉ (d.erase k).entries := by
    rw [mem_entries_iff, find?_erase, if_pos rfl]
    exact nofun
  rw [List.perm_ext_iff_of_nodup (hnodup d) (List.nodup_cons.mpr ⟨hnot, hnodup _⟩)]
  rintro ⟨k', v'⟩
  rw [List.mem_cons, mem_entries_iff, mem_entries_iff, find?_erase, Prod.mk.injEq]
  by_cases hk : k = k'
  · subst hk
    rw [h, if_pos rfl]
    simp [eq_comm]
  · rw [if_neg hk]
    simp [Ne.symm hk]

namespace Module

/-! ## Lists of held modules -/

/-- Each module of a list is held under its id, no two of them have one id or one assembly, and none
has a name of the core. -/
structure Distinct (core : List String) (held : List (String × Descriptor)) : Prop where
  keyed : ∀ e ∈ held, e.2.id = e.1
  ids : (held.map Prod.fst).Nodup
  assemblies : (held.map (·.2.assembly)).Nodup
  foreign : ∀ e ∈ held, ∀ name ∈ e.2.names, name ∉ core

namespace Distinct

variable {core : List String} {held held' : List (String × Descriptor)} {d : Descriptor}

/-- The order in which modules are listed does not matter. -/
theorem perm (h : Distinct core held) (hp : held.Perm held') : Distinct core held' where
  keyed e he := h.keyed e (hp.mem_iff.mpr he)
  ids := (hp.map Prod.fst).nodup_iff.mp h.ids
  assemblies := (hp.map _).nodup_iff.mp h.assemblies
  foreign e he := h.foreign e (hp.mem_iff.mpr he)

/-- Modules can be taken out. -/
theorem sublist (h : Distinct core held) (hs : held'.Sublist held) : Distinct core held' where
  keyed e he := h.keyed e (hs.subset he)
  ids := h.ids.sublist (hs.map _)
  assemblies := h.assemblies.sublist (hs.map _)
  foreign e he := h.foreign e (hs.subset he)

/-- A module whose identities are free can be put in. -/
theorem cons (h : Distinct core held) (hcore : ∀ name ∈ d.names, name ∉ core)
    (hid : ∀ e ∈ held, e.2.id ≠ d.id) (hassembly : ∀ e ∈ held, e.2.assembly ≠ d.assembly) :
    Distinct core ((d.id, d) :: held) where
  keyed e he := by
    rcases List.mem_cons.mp he with rfl | he
    · rfl
    · exact h.keyed e he
  ids := by
    refine List.nodup_cons.mpr ⟨fun hmem => ?_, h.ids⟩
    obtain ⟨e, he, hkey⟩ := List.mem_map.mp hmem
    exact hid e he ((h.keyed e he).trans hkey)
  assemblies := by
    refine List.nodup_cons.mpr ⟨fun hmem => ?_, h.assemblies⟩
    obtain ⟨e, he, hname⟩ := List.mem_map.mp hmem
    exact hassembly e he hname
  foreign e he := by
    rcases List.mem_cons.mp he with rfl | he
    · exact hcore
    · exact h.foreign e he

/-- What stands first is free as far as the others go. -/
theorem free_of_cons {id : String} (h : Distinct core ((id, d) :: held)) :
    (∀ name ∈ d.names, name ∉ core) ∧ (∀ e ∈ held, e.2.id ≠ d.id) ∧
      ∀ e ∈ held, e.2.assembly ≠ d.assembly := by
  have hids := List.nodup_cons.mp h.ids
  have hassemblies := List.nodup_cons.mp h.assemblies
  refine ⟨h.foreign _ List.mem_cons_self, fun e he heq => hids.1 ?_, fun e he heq =>
    hassemblies.1 ?_⟩
  · have hkey : e.2.id = e.1 := h.keyed e (List.mem_cons_of_mem _ he)
    have hown : d.id = id := h.keyed _ List.mem_cons_self
    exact List.mem_map.mpr ⟨e, he, hkey.symm.trans (heq.trans hown)⟩
  · exact List.mem_map.mpr ⟨e, he, heq⟩

end Distinct

/-! ## The modules that a registry holds -/

namespace Registry

variable {r r' : Registry} {d : Descriptor} {h : Handle} {isDynamic : Bool} {id : String}

/-- The pending and the loaded modules, each with the id under which it is held. -/
def held (r : Registry) : List (String × Descriptor) :=
  r.staticPending.entries ++ r.dynamicPending.entries ++
    r.loaded.entries.map fun e => (e.1, e.2.descriptor)

/-- The ids under which modules are held are those of the three dictionaries. -/
theorem keys_held (r : Registry) :
    r.held.map Prod.fst = r.staticPending.keys ++ r.dynamicPending.keys ++ r.loaded.keys := by
  unfold held Dictionary.keys
  rw [List.map_append, List.map_append, List.map_map]
  rfl

/-- The modules that are held are those of the three dictionaries. -/
theorem values_held (r : Registry) :
    r.held.map Prod.snd =
      r.staticPending.values ++ r.dynamicPending.values ++ r.loaded.values.map (·.descriptor) := by
  unfold held Dictionary.values
  rw [List.map_append, List.map_append, List.map_map, List.map_map]
  rfl

/-- Nobody has an id under which no module is held. -/
theorem contains_eq_false_iff_held (r : Registry) (id : String) :
    r.contains id = false ↔ ∀ e ∈ r.held, e.1 ≠ id := by
  have hkeys : id ∈ r.held.map Prod.fst ↔ r.contains id = true := by
    rw [keys_held, contains_eq_true_iff, List.mem_append, List.mem_append, or_assoc]
  rw [← Bool.not_eq_true, ← hkeys, List.mem_map]
  exact ⟨fun h e he heq => h ⟨e, he, heq⟩, fun h ⟨e, he, heq⟩ => h e he heq⟩

/-- Nobody holds an assembly that no held module has. -/
theorem holderOfAssembly?_eq_none_iff (r : Registry) (assembly : String) :
    r.holderOfAssembly? assembly = none ↔ ∀ e ∈ r.held, e.2.assembly ≠ assembly := by
  have hvalues : (r.holderOfAssembly? assembly).isSome = true ↔
      ∃ d ∈ r.held.map Prod.snd, d.assembly = assembly := by
    rw [values_held, isSome_holderOfAssembly?_iff]
    simp [or_and_right, exists_or]
  rw [← Option.not_isSome_iff_eq_none, hvalues]
  constructor
  · exact fun h e he heq => h ⟨e.2, List.mem_map_of_mem he, heq⟩
  · rintro h ⟨d, hd, heq⟩
    obtain ⟨e, he, rfl⟩ := List.mem_map.mp hd
    exact h e he heq

/-- A module meets no conflict iff none of its names is one of the core, no held module has its id,
and none has its assembly. -/
theorem conflict?_eq_none_iff_held (hkeyed : ∀ e ∈ r.held, e.2.id = e.1) :
    r.conflict? d = none ↔
      (∀ name ∈ d.names, name ∉ r.core) ∧ (∀ e ∈ r.held, e.2.id ≠ d.id) ∧
        ∀ e ∈ r.held, e.2.assembly ≠ d.assembly := by
  have hcore (name : String) : r.isCore name = false ↔ name ∉ r.core := by
    rw [isCore, List.contains_eq_mem, decide_eq_false_iff_not]
  have hnames : (∀ name ∈ d.names, name ∉ r.core) ↔ d.id ∉ r.core ∧ d.assembly ∉ r.core := by
    simp [Descriptor.names]
  have hids : (∀ e ∈ r.held, e.1 ≠ d.id) ↔ ∀ e ∈ r.held, e.2.id ≠ d.id :=
    forall₂_congr fun e he => by rw [hkeyed e he]
  rw [conflict?_eq_none_iff, hcore, hcore, contains_eq_false_iff_held,
    holderOfAssembly?_eq_none_iff, hnames, hids, and_assoc]

/-! ## Changes of what is held -/

/-- A claim adds one module to what is held. -/
theorem held_addPending (hd : r.contains d.id = false) :
    (r.addPending d isDynamic).held.Perm ((d.id, d) :: r.held) := by
  obtain ⟨hs, hp, -⟩ := (contains_eq_false_iff r d.id).mp hd
  unfold addPending held
  cases isDynamic with
  | false =>
    simp only [Bool.false_eq_true, if_false, Dictionary.entries_put_of_not_mem hs]
    rw [List.append_assoc, List.append_assoc, List.append_assoc]
    exact List.perm_middle
  | true =>
    simp only [if_true, Dictionary.entries_put_of_not_mem hp]
    rw [← List.append_assoc, List.append_assoc]
    exact List.perm_middle

/-- A pending module that is taken out was held under its id. -/
theorem held_takePending? (ht : r.takePending? id = some (d, isDynamic, r')) :
    r.held.Perm ((id, d) :: r'.held) ∧ r'.core = r.core ∧ r'.loaded = r.loaded ∧
      r'.loadOrder = r.loadOrder ∧ r'.owners = r.owners := by
  unfold takePending? at ht
  cases hs : r.staticPending.find? id with
  | some found =>
    rw [hs, Option.some.injEq] at ht
    obtain ⟨rfl, -, rfl⟩ := ht
    refine ⟨?_, rfl, rfl, rfl, rfl⟩
    unfold held
    rw [List.append_assoc, List.append_assoc]
    exact (Dictionary.perm_cons_erase hs).append_right _
  | none =>
    simp only [hs, Option.map_eq_some_iff, Prod.mk.injEq] at ht
    obtain ⟨found, hfound, rfl, -, rfl⟩ := ht
    refine ⟨?_, rfl, rfl, rfl, rfl⟩
    unfold held
    rw [List.append_assoc, List.append_assoc]
    refine (((Dictionary.perm_cons_erase hfound).append_right _).append_left _).trans ?_
    exact List.perm_middle

/-- A loaded module is held behind the others. -/
theorem held_add (hd : d.id ∉ r.loaded.keys) :
    (r.add d isDynamic h).held = r.held ++ [(d.id, d)] := by
  unfold held add
  simp only [Dictionary.entries_put_of_not_mem hd, List.map_append, List.map_cons, List.map_nil,
    List.append_assoc]

/-- Only loaded modules are forgotten. -/
theorem held_sublist (hs : r'.staticPending = r.staticPending)
    (hp : r'.dynamicPending = r.dynamicPending)
    (hl : r'.loaded.entries.Sublist r.loaded.entries) : r'.held.Sublist r.held := by
  unfold held
  rw [hs, hp]
  exact (List.Sublist.refl _).append (hl.map _)

/-- A loaded module that is taken out leaves all else that is held. -/
theorem held_takeLoaded? (ht : r.takeLoaded? id = some (d, r')) :
    r'.held.Sublist r.held ∧ r'.core = r.core := by
  obtain ⟨m, -, rfl⟩ := exists_of_takeLoaded? ht
  exact ⟨held_sublist rfl rfl List.filter_sublist, rfl⟩

/-- When the dynamic modules are forgotten, nothing new is held. -/
theorem held_forgetDynamic (r : Registry) : r.forgetDynamic.2.held.Sublist r.held := by
  obtain ⟨-, hs, hp⟩ := forgetDynamic_frame r
  refine held_sublist hs hp ?_
  rw [forgetDynamic_eq_foldl, (foldl_forgetOne r.dynamicIds ([], r)).1]
  exact List.filter_sublist

/-- A registry that holds nothing twice can load a module that meets no conflict. -/
theorem distinct_add (hr : Distinct r.core r.held) (hfree : r.conflict? d = none) :
    Distinct r.core (r.add d isDynamic h).held := by
  obtain ⟨hcore, hid, hassembly⟩ := (conflict?_eq_none_iff_held hr.keyed).mp hfree
  rw [held_add (not_mem_keys_of_conflict? hfree)]
  exact (hr.cons hcore hid hassembly).perm (List.perm_append_singleton _ _).symm

end Registry

end Module

end ModuleRuntime
