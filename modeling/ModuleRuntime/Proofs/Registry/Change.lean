import Mathlib.Data.List.Basic
import ModuleRuntime.Module.Registry

/-!
# What the changes of a registry come to

A claim that is promoted adds one loaded module, a claim that is given up leaves the registry as it
was, and forgetting the dynamic modules leaves exactly the static ones. The list of ids in load
order and the dictionary of loaded modules are kept apart, and every change keeps them in step.
Handles name the loaded modules exactly as long as no handle is given to a second module.
-/

set_option autoImplicit false

namespace ModuleRuntime.Module.Registry

variable {r : Registry} {d : Descriptor} {h : Handle} {isDynamic : Bool}

/-- The registry with one more loaded module. -/
def add (r : Registry) (d : Descriptor) (isDynamic : Bool) (h : Handle) : Registry :=
  { r with
    loaded := r.loaded.put d.id ⟨d, h, isDynamic⟩
    loadOrder := r.loadOrder ++ [d.id]
    owners := r.owners.put h d.id }

/-- The registry without the module that is loaded under an id and has a handle. -/
def drop (r : Registry) (id : String) (h : Handle) : Registry :=
  { r with
    loaded := r.loaded.erase id
    loadOrder := r.loadOrder.filter (· ≠ id)
    owners := r.owners.erase h }

/-- Dropping a module erases its id. -/
@[simp]
theorem loaded_drop (r : Registry) (id : String) (h : Handle) :
    (r.drop id h).loaded = r.loaded.erase id := rfl

/-- Dropping a module erases its handle. -/
@[simp]
theorem owners_drop (r : Registry) (id : String) (h : Handle) :
    (r.drop id h).owners = r.owners.erase h := rfl

/-! ## Claims -/

/-- An id is held by nobody iff no pending and no loaded module has it. -/
theorem contains_eq_false_iff (r : Registry) (id : String) :
    r.contains id = false ↔
      id ∉ r.staticPending.keys ∧ id ∉ r.dynamicPending.keys ∧ id ∉ r.loaded.keys := by
  unfold contains holderOfId?
  rw [← Dictionary.contains_iff, ← Dictionary.contains_iff, ← Dictionary.contains_iff]
  cases hs : r.staticPending.contains id with
  | true => simp
  | false =>
    cases hd : r.dynamicPending.contains id with
    | true => simp
    | false => simp [Dictionary.contains]

/-- A claim without a conflict is one to identities that are neither of the core nor held. -/
theorem conflict?_eq_none_iff (r : Registry) (d : Descriptor) :
    r.conflict? d = none ↔
      r.isCore d.id = false ∧ r.isCore d.assembly = false ∧ r.contains d.id = false ∧
        r.holderOfAssembly? d.assembly = none := by
  unfold conflict? contains
  cases r.isCore d.id with
  | true => simp
  | false =>
    cases r.isCore d.assembly with
    | true => simp
    | false => cases r.holderOfId? d.id <;> simp

/-- A module without a conflict has an id under which nothing is loaded. -/
theorem not_mem_keys_of_conflict? (h : r.conflict? d = none) : d.id ∉ r.loaded.keys := by
  obtain ⟨-, -, hcontains, -⟩ := (conflict?_eq_none_iff r d).mp h
  exact ((contains_eq_false_iff r d.id).mp hcontains).2.2

/-- A module of a new id is loaded behind the others. -/
theorem values_add (hd : d.id ∉ r.loaded.keys) :
    (r.add d isDynamic h).loaded.values = r.loaded.values ++ [⟨d, h, isDynamic⟩] :=
  Dictionary.values_put_of_not_mem hd _

/-- What becomes of a claim hangs on whether there is a conflict. -/
theorem value_reserve (r : Registry) (d : Descriptor) (isDynamic : Bool) :
    (r.reserve d isDynamic).value =
      match r.conflict? d with
      | some c => .error c
      | none => .ok (r.addPending d isDynamic) := by
  unfold reserve
  cases r.conflict? d <;> rfl

/-- A claim just made can be taken back, which leaves the registry as it was. -/
theorem takePending?_addPending (hd : r.contains d.id = false) :
    (r.addPending d isDynamic).takePending? d.id = some (d, isDynamic, r) := by
  obtain ⟨hs, hp, -⟩ := (contains_eq_false_iff r d.id).mp hd
  unfold addPending takePending?
  cases isDynamic with
  | false => simp [Dictionary.erase_put_of_not_mem hs]
  | true =>
    have hnone : r.staticPending.find? d.id = none :=
      (Dictionary.lookup_eq_none_iff d.id r.staticPending.entries).mpr hs
    simp [hnone, Dictionary.erase_put_of_not_mem hp]

/-- A claim that is promoted adds a loaded module. -/
theorem promote_addPending (hd : r.contains d.id = false) :
    (r.addPending d isDynamic).promote d.id h = .ok (r.add d isDynamic h) := by
  unfold promote
  rw [takePending?_addPending hd]
  rfl

/-- A claim that is given up leaves no trace. -/
theorem value_giveUp_addPending (hd : r.contains d.id = false) :
    ((r.addPending d isDynamic).giveUp d.id).value = (true, r) := by
  unfold giveUp
  rw [takePending?_addPending hd]
  rfl

/-! ## The load order -/

/-- The load order lists the ids of the loaded modules as they stand in the dictionary. -/
def IsOrdered (r : Registry) : Prop :=
  r.loadOrder = r.loaded.keys

namespace IsOrdered

/-- Every loaded module is listed. -/
theorem mem_loadOrder (ho : r.IsOrdered) {id : String} {m : Loaded}
    (hm : r.loaded.find? id = some m) : id ∈ r.loadOrder := by
  rw [ho, ← Dictionary.contains_iff, Dictionary.contains, hm]
  rfl

/-- The ids in the load order are those of the loaded modules. -/
theorem mem_loadOrder_iff (ho : r.IsOrdered) (id : String) :
    id ∈ r.loadOrder ↔ r.loaded.contains id = true := by
  rw [ho, Dictionary.contains_iff]

/-- No id is listed twice. -/
theorem nodup (ho : r.IsOrdered) : r.loadOrder.Nodup :=
  ho ▸ r.loaded.nodup_keys

/-- The loaded modules in load order are those of the dictionary. -/
theorem inLoadOrder_eq (ho : r.IsOrdered) : r.inLoadOrder = r.loaded.values := by
  have hfound : ∀ e ∈ r.loaded.entries, (r.loaded.find? ∘ Prod.fst) e = some e.2 := fun e he =>
    (Dictionary.mem_entries_iff r.loaded e.1 e.2).mp he
  rw [inLoadOrder, ho, Dictionary.keys, List.filterMap_map]
  exact List.filterMap_eq_map_iff_forall_eq_some.mpr hfound

/-- What is listed are the descriptors of the dictionary. -/
theorem list_eq (ho : r.IsOrdered) : r.list = r.loaded.values.map (·.descriptor) := by
  rw [list, ho.inLoadOrder_eq]

/-- What is listed is the descriptor of a loaded module. -/
theorem mem_list_iff (ho : r.IsOrdered) (d : Descriptor) :
    d ∈ r.list ↔ ∃ m ∈ r.loaded.values, m.descriptor = d := by
  rw [ho.list_eq, List.mem_map]

/-- A module of a new id is listed last. -/
theorem add (ho : r.IsOrdered) (hd : d.id ∉ r.loaded.keys) : (r.add d isDynamic h).IsOrdered := by
  show r.loadOrder ++ [d.id] = (r.loaded.put d.id _).keys
  rw [Dictionary.keys_put, if_neg hd, ho]

/-- The id of a module that is taken out leaves the list. -/
theorem drop (ho : r.IsOrdered) (id : String) (h : Handle) : (r.drop id h).IsOrdered := by
  show r.loadOrder.filter (· ≠ id) = (r.loaded.erase id).keys
  rw [Dictionary.keys_erase, ho]

end IsOrdered

/-! ## Forgetting the dynamic modules -/

/-- A loaded module is taken out with its handle. -/
theorem takeLoaded?_eq_some {id : String} {m : Loaded} (hm : r.loaded.find? id = some m) :
    r.takeLoaded? id = some (m.descriptor, r.drop id m.handle) := by
  unfold takeLoaded?
  rw [hm]
  rfl

/-- A module that is taken out was loaded, and the rest is the registry without it. -/
theorem exists_of_takeLoaded? {id : String} {r' : Registry}
    (ht : r.takeLoaded? id = some (d, r')) :
    ∃ m, r.loaded.find? id = some m ∧ r' = r.drop id m.handle := by
  unfold takeLoaded? at ht
  obtain ⟨m, hm, heq⟩ := Option.map_eq_some_iff.mp ht
  exact ⟨m, hm, (Prod.mk.inj heq).2.symm⟩

/-- One module of those that are forgotten together. -/
def forgetOne : List Descriptor × Registry → String → List Descriptor × Registry :=
  fun (released, r) id =>
    match r.takeLoaded? id with
    | some (d, r) => (released ++ [d], r)
    | none => (released, r)

/-- The dynamic modules are forgotten one after the other. -/
theorem forgetDynamic_eq_foldl (r : Registry) :
    r.forgetDynamic = r.dynamicIds.foldl forgetOne ([], r) := rfl

/-- One module is forgotten if it is loaded. -/
theorem forgetOne_of_loaded {released : List Descriptor} {id : String} {m : Loaded}
    (hm : r.loaded.find? id = some m) :
    forgetOne (released, r) id = (released ++ [m.descriptor], r.drop id m.handle) := by
  simp only [forgetOne, takeLoaded?_eq_some hm]

/-- A module that is not loaded cannot be forgotten. -/
theorem forgetOne_of_not_loaded {released : List Descriptor} {id : String}
    (hm : r.loaded.find? id = none) : forgetOne (released, r) id = (released, r) := by
  simp only [forgetOne, takeLoaded?, hm, Option.map_none]

/-- Taking one module out keeps all but the loaded modules and their handles. -/
theorem forgetOne_snd (p : List Descriptor × Registry) (id : String) :
    (forgetOne p id).2.loaded = p.2.loaded.erase id ∧ (forgetOne p id).2.core = p.2.core ∧
      (forgetOne p id).2.staticPending = p.2.staticPending ∧
      (forgetOne p id).2.dynamicPending = p.2.dynamicPending := by
  obtain ⟨released, r⟩ := p
  cases hf : r.loaded.find? id with
  | some m =>
    rw [forgetOne_of_loaded hf]
    exact ⟨rfl, rfl, rfl, rfl⟩
  | none =>
    have hid : id ∉ r.loaded.keys := (Dictionary.lookup_eq_none_iff id r.loaded.entries).mp hf
    rw [forgetOne_of_not_loaded hf]
    exact ⟨(Dictionary.erase_of_not_mem hid).symm, rfl, rfl, rfl⟩

/-- Forgetting modules one after the other leaves those whose ids are not among theirs. -/
theorem foldl_forgetOne (ids : List String) (p : List Descriptor × Registry) :
    (ids.foldl forgetOne p).2.loaded = p.2.loaded.filter (fun id _ => !ids.contains id) ∧
      (ids.foldl forgetOne p).2.core = p.2.core ∧
      (ids.foldl forgetOne p).2.staticPending = p.2.staticPending ∧
      (ids.foldl forgetOne p).2.dynamicPending = p.2.dynamicPending := by
  induction ids generalizing p with
  | nil =>
    refine ⟨Dictionary.ext ?_, rfl, rfl, rfl⟩
    exact (List.filter_eq_self.mpr fun e _ => rfl).symm
  | cons id rest ih =>
    obtain ⟨hl, hc, hs, hd⟩ := forgetOne_snd p id
    obtain ⟨il, ic, is, id'⟩ := ih (forgetOne p id)
    refine ⟨?_, ic.trans hc, is.trans hs, id'.trans hd⟩
    rw [List.foldl_cons, il, hl]
    refine Dictionary.ext ?_
    simp only [Dictionary.erase, Dictionary.filter, List.filter_filter]
    refine List.filter_congr fun e _ => ?_
    by_cases he : e.1 = id <;> simp [he]

/-- The ids of dynamic modules are those in the load order under which a dynamic module
is loaded. -/
theorem mem_dynamicIds_iff (r : Registry) (id : String) :
    id ∈ r.dynamicIds ↔
      id ∈ r.loadOrder ∧ ∃ m, r.loaded.find? id = some m ∧ m.isDynamic = true := by
  rw [dynamicIds, List.mem_filter, Option.any_eq_true]

/-- The static modules are left, in their order. -/
theorem loaded_forgetDynamic (ho : r.IsOrdered) :
    r.forgetDynamic.2.loaded = r.loaded.filter fun _ m => !m.isDynamic := by
  rw [forgetDynamic_eq_foldl, (foldl_forgetOne r.dynamicIds ([], r)).1]
  refine Dictionary.ext (List.filter_congr fun e he => ?_)
  obtain ⟨id, m⟩ := e
  have hm : r.loaded.find? id = some m := (Dictionary.mem_entries_iff r.loaded id m).mp he
  have hlisted : id ∈ r.loadOrder := ho.mem_loadOrder hm
  have hmem : id ∈ r.dynamicIds ↔ m.isDynamic = true := by
    rw [mem_dynamicIds_iff, hm]
    simp [hlisted]
  cases hb : m.isDynamic with
  | true => simp [hmem.mpr hb, hb]
  | false => simp [show id ∉ r.dynamicIds by simp [hmem, hb], hb]

/-- Nothing else of the registry is lost. -/
theorem forgetDynamic_frame (r : Registry) :
    r.forgetDynamic.2.core = r.core ∧ r.forgetDynamic.2.staticPending = r.staticPending ∧
      r.forgetDynamic.2.dynamicPending = r.dynamicPending := by
  rw [forgetDynamic_eq_foldl]
  exact (foldl_forgetOne r.dynamicIds ([], r)).2

/-- What is kept when one dynamic module is taken out is kept when all of them are forgotten. -/
theorem forgetDynamic_induction {P : Registry → Prop} (hr : P r)
    (htake : ∀ {r : Registry} {id : String} {m : Loaded}, r.loaded.find? id = some m →
      m.isDynamic = true → P r → P (r.drop id m.handle)) :
    P r.forgetDynamic.2 := by
  rw [forgetDynamic_eq_foldl]
  suffices hall : ∀ (ids : List String) (p : List Descriptor × Registry),
      (∀ id ∈ ids, ∀ m, p.2.loaded.find? id = some m → m.isDynamic = true) → P p.2 →
        P (ids.foldl forgetOne p).2 by
    refine hall _ _ (fun id hid m hm => ?_) hr
    obtain ⟨-, m', hm', hdynamic⟩ := (mem_dynamicIds_iff r id).mp hid
    rw [show r.loaded.find? id = some m from hm] at hm'
    exact Option.some.inj hm' ▸ hdynamic
  intro ids
  induction ids with
  | nil => exact fun p _ hp => hp
  | cons id rest ih =>
    intro p hids hp
    refine ih (forgetOne p id) (fun k hk m hm => ?_) ?_
    · -- What is loaded under one of the other ids was so before.
      rw [(forgetOne_snd p id).1, Dictionary.find?_erase] at hm
      split at hm
      · cases hm
      · exact hids k (List.mem_cons_of_mem _ hk) m hm
    · obtain ⟨released, r'⟩ := p
      cases hm : r'.loaded.find? id with
      | none => exact (forgetOne_of_not_loaded hm).symm ▸ hp
      | some m =>
        rw [forgetOne_of_loaded hm]
        exact htake hm (hids id List.mem_cons_self m hm) hp

/-- The ids of the dynamic modules leave the list as well. -/
theorem IsOrdered.forgetDynamic (ho : r.IsOrdered) : r.forgetDynamic.2.IsOrdered :=
  forgetDynamic_induction ho fun _ _ hr => hr.drop _ _

/-! ## Handles -/

/-- Every loaded module owns its handle, and no other handle has an owner. -/
def OwnersExact (r : Registry) : Prop :=
  ∀ h id, r.owners.find? h = some id ↔ ∃ m, r.loaded.find? id = some m ∧ m.handle = h

/-- The owner of a handle is the loaded module that has it. -/
theorem OwnersExact.owner?_eq_some_iff (ho : r.OwnersExact) (h : Handle) (m : Loaded) :
    r.owner? h = some m ↔ (∃ id, r.loaded.find? id = some m) ∧ m.handle = h := by
  unfold owner?
  rw [Option.bind_eq_some_iff]
  constructor
  · rintro ⟨id, hid, hm⟩
    obtain ⟨m', hm', hh⟩ := (ho h id).mp hid
    rw [hm, Option.some.injEq] at hm'
    exact ⟨⟨id, hm⟩, hm' ▸ hh⟩
  · rintro ⟨⟨id, hm⟩, hh⟩
    exact ⟨id, (ho h id).mpr ⟨m, hm, hh⟩, hm⟩

/-- A handle that no loaded module has may be given to a new one. -/
theorem OwnersExact.add (ho : r.OwnersExact) (hd : d.id ∉ r.loaded.keys)
    (hh : ∀ m ∈ r.loaded.values, m.handle ≠ h) : (r.add d isDynamic h).OwnersExact := by
  have hnone : r.loaded.find? d.id = none :=
    (Dictionary.lookup_eq_none_iff d.id r.loaded.entries).mpr hd
  intro h' id
  unfold Registry.add
  simp only [Dictionary.find?_put]
  by_cases hid : d.id = id
  · subst hid
    by_cases he : h = h'
    · simp [he]
    · simp only [he, if_false, if_true, Option.some.injEq, exists_eq_left', iff_false]
      intro hf
      obtain ⟨m, hm, -⟩ := (ho h' d.id).mp hf
      simp [hnone] at hm
  · by_cases he : h = h'
    · subst he
      simp only [if_true, Option.some.injEq, hid, if_false, false_iff, not_exists, not_and]
      intro m hm
      exact hh m ((Dictionary.mem_values_iff r.loaded m).mpr ⟨id, hm⟩)
    · simp only [he, hid, if_false]
      exact ho h' id

/-- A module that is taken out takes its handle with it, and no other one. -/
theorem OwnersExact.takeLoaded? (ho : r.OwnersExact) {id : String} {r' : Registry}
    (ht : r.takeLoaded? id = some (d, r')) : r'.OwnersExact := by
  obtain ⟨m, hm, rfl⟩ := exists_of_takeLoaded? ht
  have hown : r.owners.find? m.handle = some id := (ho m.handle id).mpr ⟨m, hm, rfl⟩
  intro h' id'
  simp only [loaded_drop, owners_drop, Dictionary.find?_erase]
  by_cases he : m.handle = h'
  · subst he
    simp only [if_true, false_iff, not_exists, not_and, reduceCtorEq]
    intro m' hm' hh
    by_cases hid : id = id'
    · simp [hid] at hm'
    · rw [if_neg hid] at hm'
      have := (ho m.handle id').mpr ⟨m', hm', hh⟩
      rw [hown, Option.some.injEq] at this
      exact hid this
  · by_cases hid : id = id'
    · subst hid
      simp only [he, if_false, if_true, reduceCtorEq, false_and, exists_false, iff_false]
      intro hf
      obtain ⟨m', hm', hh⟩ := (ho h' id).mp hf
      rw [hm, Option.some.injEq] at hm'
      exact he (hm' ▸ hh)
    · simp only [he, hid, if_false]
      exact ho h' id'

/-- Forgetting the dynamic modules leaves every other module its handle. -/
theorem OwnersExact.forgetDynamic (ho : r.OwnersExact) : r.forgetDynamic.2.OwnersExact :=
  forgetDynamic_induction ho fun hm _ hr => hr.takeLoaded? (takeLoaded?_eq_some hm)

/-- Who owns a handle is a loaded module that has it. Others may have it as well. -/
def OwnersSound (r : Registry) : Prop :=
  ∀ h id, r.owners.find? h = some id → ∃ m, r.loaded.find? id = some m ∧ m.handle = h

/-- A module that is added owns its handle. -/
theorem OwnersSound.add (ho : r.OwnersSound) (hd : d.id ∉ r.loaded.keys) :
    (r.add d isDynamic h).OwnersSound := by
  have hnone : r.loaded.find? d.id = none :=
    (Dictionary.lookup_eq_none_iff d.id r.loaded.entries).mpr hd
  intro h' id hid
  change (r.owners.put h d.id).find? h' = some id at hid
  show ∃ m, (r.loaded.put d.id _).find? id = some m ∧ m.handle = h'
  rw [Dictionary.find?_put] at hid
  simp only [Dictionary.find?_put]
  split at hid
  · next heq =>
    obtain rfl := Option.some.inj hid
    exact ⟨_, if_pos rfl, heq⟩
  · obtain ⟨m, hm, hh⟩ := ho h' id hid
    have hne : d.id ≠ id := fun heq => by
      rw [← heq, hnone] at hm
      cases hm
    exact ⟨m, (if_neg hne).trans hm, hh⟩

/-- The static modules still own their handles when the dynamic ones are forgotten. -/
theorem OwnersSound.forgetDynamic (ho : r.OwnersSound) : r.forgetDynamic.2.OwnersSound := by
  refine forgetDynamic_induction ho fun {r id m} hm _ hr h id' hid' => ?_
  simp only [loaded_drop, owners_drop, Dictionary.find?_erase] at hid' ⊢
  split at hid'
  · cases hid'
  · next hne =>
    obtain ⟨m', hm', hh⟩ := hr h id' hid'
    -- The one that is taken out has another handle.
    have hother : id ≠ id' := fun heq => by
      rw [heq, hm'] at hm
      exact hne ((congrArg Loaded.handle (Option.some.inj hm)).symm.trans hh)
    exact ⟨m', (if_neg hother).trans hm', hh⟩

/-- A handle that no dynamic module has keeps its owner when these are forgotten. -/
theorem owners_forgetDynamic
    (hh : ∀ id m, r.loaded.find? id = some m → m.isDynamic = true → m.handle ≠ h) :
    r.forgetDynamic.2.owners.find? h = r.owners.find? h := by
  refine (forgetDynamic_induction (r := r)
    (P := fun k => (∀ id m, k.loaded.find? id = some m → r.loaded.find? id = some m) ∧
      k.owners.find? h = r.owners.find? h)
    ⟨fun _ _ hm => hm, rfl⟩ fun {k id m} hm hdynamic hk => ⟨fun id' m' hm' => ?_, ?_⟩).2
  · rw [loaded_drop, Dictionary.find?_erase] at hm'
    split at hm'
    · cases hm'
    · exact hk.1 id' m' hm'
  · rw [owners_drop, Dictionary.find?_erase, if_neg (hh id m (hk.1 id m hm) hdynamic)]
    exact hk.2

end ModuleRuntime.Module.Registry
