import ModuleRuntime.Proofs.Registry.Identity

/-!
# Histories of a registry

Whoever asks a registry for a change, and in whatever order: after every sequence of changes no
identity is held twice, the loaded modules stand in the order in which they were promoted last, and
each handle that was given has one owner. So a claim is accepted exactly when both identities are
free.
-/

set_option autoImplicit false

namespace ModuleRuntime

/-- The keys that are left are those of which the rest knows. -/
theorem Dictionary.keys_filter {α β : Type} [DecidableEq α] (p : α → β → Bool)
    (d : Dictionary α β) : (d.filter p).keys = d.keys.filter (d.filter p).contains := by
  have hleft : ∀ e ∈ d.entries, p e.1 e.2 = (d.filter p).contains e.1 := by
    intro e he
    have hfound : d.find? e.1 = some e.2 := (mem_entries_iff d e.1 e.2).mp he
    rw [contains, find?_filter, hfound, Option.filter_some]
    cases p e.1 e.2 <;> rfl
  have hentries : (d.filter p).entries = d.entries.filter ((d.filter p).contains ∘ Prod.fst) :=
    List.filter_congr hleft
  calc (d.filter p).keys
      = (d.entries.filter ((d.filter p).contains ∘ Prod.fst)).map Prod.fst := by
        rw [keys, hentries]
    _ = d.keys.filter (d.filter p).contains := List.filter_map.symm

namespace Module

/-- What can be asked of a registry. -/
inductive Change where
  | reserve (d : Descriptor) (isDynamic : Bool)
  | promote (id : String) (h : Handle)
  | giveUp (id : String)
  | forget (id : String)
  | forgetDynamic

namespace Registry

/-- The registry after a change, whether or not there was anything to change. -/
def change (r : Registry) : Change → Registry
  | .reserve d isDynamic =>
    match (r.reserve d isDynamic).value with
    | .ok r' => r'
    | .error _ => r
  | .promote id h =>
    match r.promote id h with
    | .ok r' => r'
    | .error _ => r
  | .giveUp id => (r.giveUp id).value.2
  | .forget id => (r.forget id).value.2
  | .forgetDynamic => r.forgetDynamic.2

/-- The registry that held nothing but the core, after several changes. -/
def after (core : List String) (changes : List Change) : Registry :=
  changes.foldl change (new core)

/-- The id that a change promotes, if it promotes one. -/
def promoted (r : Registry) : Change → List String
  | .promote id h => if (r.promote id h).isOk then [id] else []
  | .reserve .. | .giveUp _ | .forget _ | .forgetDynamic => []

/-- The ids that were promoted, in the order of time and as often as that happened. -/
def promotions (r : Registry) : List Change → List String
  | [] => []
  | c :: rest => r.promoted c ++ (r.change c).promotions rest

/-- Whether a change gives no handle that a loaded module has. -/
def GivesNewHandle (r : Registry) : Change → Prop
  | .promote _ h => ∀ m ∈ r.loaded.values, m.handle ≠ h
  | .reserve .. | .giveUp _ | .forget _ | .forgetDynamic => True

/-- Whether no promotion gives a handle that a loaded module has at that time. -/
def GivesNewHandles (r : Registry) : List Change → Prop
  | [] => True
  | c :: rest => r.GivesNewHandle c ∧ (r.change c).GivesNewHandles rest

instance (r : Registry) : (c : Change) → Decidable (r.GivesNewHandle c)
  | .promote _ h => inferInstanceAs (Decidable (∀ m ∈ r.loaded.values, m.handle ≠ h))
  | .reserve .. => .isTrue trivial
  | .giveUp _ => .isTrue trivial
  | .forget _ => .isTrue trivial
  | .forgetDynamic => .isTrue trivial

instance decidableGivesNewHandles (r : Registry) :
    (changes : List Change) → Decidable (r.GivesNewHandles changes)
  | [] => .isTrue trivial
  | c :: rest =>
    have := (r.change c).decidableGivesNewHandles rest
    inferInstanceAs (Decidable (_ ∧ _))

/-- A registry in which some ids were promoted so far: its core is as it was, no identity is held
twice or belongs to the core, the load order keeps step with the loaded modules and lists their ids
in the order in which they were promoted last, and exactly the loaded modules own handles. -/
structure Orderly (core promoted : List String) (r : Registry) : Prop where
  core_eq : r.core = core
  distinct : Distinct core r.held
  ordered : r.IsOrdered
  listed : r.loadOrder = promoted.dedup.filter r.loaded.contains
  owned : r.OwnersExact

/-- Whether the load order lists exactly the ids of the loaded modules, and none of them twice. -/
def ListsLoaded (r : Registry) : Prop :=
  r.loadOrder.Nodup ∧ ∀ id, id ∈ r.loadOrder ↔ r.loaded.contains id = true

/-- Whether exactly those claims are accepted of which both identities are free: neither of the two
names is one of the core, no held module has the id, and none has the assembly. -/
def AcceptsFree (core : List String) (r : Registry) : Prop :=
  ∀ (d : Descriptor) (isDynamic : Bool),
    (∃ r', (r.reserve d isDynamic).value = .ok r') ↔
      (∀ name ∈ d.names, name ∉ core) ∧ (∀ e ∈ r.held, e.2.id ≠ d.id) ∧
        ∀ e ∈ r.held, e.2.assembly ≠ d.assembly

variable {core ids : List String} {r r' : Registry} {d : Descriptor} {h : Handle}
  {isDynamic : Bool} {id : String}

/-- Of the ids promoted so far, one that is promoted now comes last. -/
theorem dedup_concat (ids : List String) (id : String) :
    (ids ++ [id]).dedup = ids.dedup.filter (· ≠ id) ++ [id] := by
  induction ids with
  | nil => rfl
  | cons a rest ih =>
    rw [List.cons_append]
    by_cases hmem : a ∈ rest
    · rw [List.dedup_cons_of_mem hmem, List.dedup_cons_of_mem (List.mem_append_left _ hmem), ih]
    · rw [List.dedup_cons_of_notMem hmem]
      by_cases heq : a = id
      · subst heq
        rw [List.dedup_cons_of_mem (by simp), ih, List.filter_cons_of_neg (by simp)]
      · rw [List.dedup_cons_of_notMem (by simp [hmem, heq]), ih,
          List.filter_cons_of_pos (by simp [heq]), List.cons_append]

/-- Modules that are taken out leave the others in their order. -/
theorem listed_filter {p : String → Loaded → Bool} (ho : r.IsOrdered) (ho' : r'.IsOrdered)
    (hlisted : r.loadOrder = ids.filter r.loaded.contains) (hl : r'.loaded = r.loaded.filter p) :
    r'.loadOrder = ids.filter r'.loaded.contains := by
  have hkept : ∀ k, r'.loaded.contains k = true → r.loaded.contains k = true := by
    intro k hk
    rw [hl, Dictionary.contains, Dictionary.find?_filter] at hk
    exact Option.isSome_of_isSome_filter _ _ hk
  have hkeys : r'.loadOrder = r.loadOrder.filter r'.loaded.contains := by
    rw [ho', ho, hl]
    exact Dictionary.keys_filter p r.loaded
  rw [hkeys, hlisted, List.filter_filter]
  refine List.filter_congr fun k _ => ?_
  cases hk : r'.loaded.contains k with
  | false => rfl
  | true => rw [hkept k hk]; rfl

/-- A claim changes what is pending and nothing else. -/
theorem addPending_frame (r : Registry) (d : Descriptor) (isDynamic : Bool) :
    (r.addPending d isDynamic).core = r.core ∧ (r.addPending d isDynamic).loaded = r.loaded ∧
      (r.addPending d isDynamic).loadOrder = r.loadOrder ∧
      (r.addPending d isDynamic).owners = r.owners := by
  cases isDynamic <;> exact ⟨rfl, rfl, rfl, rfl⟩

/-! ## One change -/

namespace Orderly

/-- A claim that is accepted becomes pending and is nowhere else yet. -/
theorem reserve (ho : r.Orderly core ids) (hr : (r.reserve d isDynamic).value = .ok r') :
    r'.Orderly core ids := by
  rw [value_reserve] at hr
  cases hc : r.conflict? d with
  | some c =>
    rw [hc] at hr
    cases hr
  | none =>
    rw [hc] at hr
    obtain rfl := Except.ok.inj hr
    obtain ⟨hcore, hid, hassembly⟩ :=
      (conflict?_eq_none_iff_held ho.distinct.keyed).mp hc
    rw [ho.core_eq] at hcore
    have hfree : r.contains d.id = false := ((conflict?_eq_none_iff r d).mp hc).2.2.1
    obtain ⟨hcore', hloaded, horder, howners⟩ := addPending_frame r d isDynamic
    refine ⟨hcore'.trans ho.core_eq, ?_, ?_, ?_, ?_⟩
    · exact (ho.distinct.cons hcore hid hassembly).perm (held_addPending hfree).symm
    · unfold IsOrdered
      rw [hloaded, horder]
      exact ho.ordered
    · rw [hloaded, horder]
      exact ho.listed
    · unfold OwnersExact
      rw [hloaded, howners]
      exact ho.owned

/-- A pending module that is taken out is no longer held, and the rest is as it was. -/
theorem takePending? (ho : r.Orderly core ids)
    (ht : r.takePending? id = some (d, isDynamic, r')) :
    r'.Orderly core ids ∧ d.id = id ∧ r'.conflict? d = none := by
  obtain ⟨hheld, hcore, hloaded, horder, howners⟩ := held_takePending? ht
  have hdistinct : Distinct core ((id, d) :: r'.held) := ho.distinct.perm hheld
  have hrest : Distinct core r'.held := hdistinct.sublist (List.sublist_cons_self _ _)
  have hcore' : r'.core = core := hcore.trans ho.core_eq
  refine ⟨⟨hcore', hrest, ?_, ?_, ?_⟩, hdistinct.keyed _ List.mem_cons_self, ?_⟩
  · unfold IsOrdered
    rw [hloaded, horder]
    exact ho.ordered
  · rw [hloaded, horder]
    exact ho.listed
  · unfold OwnersExact
    rw [hloaded, howners]
    exact ho.owned
  · rw [conflict?_eq_none_iff_held hrest.keyed, hcore']
    exact hdistinct.free_of_cons

/-- A promoted module goes to the end of the load order. -/
theorem promote (ho : r.Orderly core ids) (hnew : ∀ m ∈ r.loaded.values, m.handle ≠ h)
    (hp : r.promote id h = .ok r') : r'.Orderly core (ids ++ [id]) := by
  unfold Registry.promote at hp
  cases ht : r.takePending? id with
  | none =>
    rw [ht] at hp
    cases hp
  | some taken =>
    obtain ⟨d, isDynamic, rest⟩ := taken
    rw [ht] at hp
    obtain rfl := Except.ok.inj hp
    obtain ⟨hrest, rfl, hfree⟩ := ho.takePending? ht
    have hloaded : rest.loaded = r.loaded := (held_takePending? ht).2.2.1
    have hkey : d.id ∉ rest.loaded.keys := not_mem_keys_of_conflict? hfree
    show (rest.add d isDynamic h).Orderly core (ids ++ [d.id])
    have hcontains (k : String) : (rest.add d isDynamic h).loaded.contains k =
        (decide (d.id = k) || rest.loaded.contains k) := by
      show (rest.loaded.put d.id _).contains k = _
      rw [Dictionary.contains, Dictionary.find?_put]
      by_cases hk : d.id = k
      · simp [hk]
      · simp [hk, Dictionary.contains]
    refine ⟨hrest.core_eq, ?_, hrest.ordered.add hkey, ?_, hrest.owned.add hkey ?_⟩
    · have hadd : Distinct rest.core (rest.add d isDynamic h).held :=
        distinct_add (hrest.core_eq ▸ hrest.distinct) hfree
      rwa [hrest.core_eq] at hadd
    · -- The id was not loaded, so what is filtered out of the older ids was no loaded one.
      have hnone : rest.loaded.contains d.id = false := by
        rw [← Bool.not_eq_true, Dictionary.contains_iff]
        exact hkey
      show rest.loadOrder ++ [d.id] = _
      rw [hrest.listed, dedup_concat, List.filter_append, List.filter_filter]
      congr 1
      · refine List.filter_congr fun k _ => ?_
        rw [hcontains]
        by_cases hk : d.id = k
        · subst hk
          simp [hnone]
        · simp [hk, Ne.symm hk]
      · rw [List.filter_cons_of_pos (by simp [hcontains])]
        rfl
    · rw [hloaded]
      exact hnew

/-- A claim that is given up is free again. -/
theorem giveUp (ho : r.Orderly core ids) (id : String) :
    (r.giveUp id).value.2.Orderly core ids := by
  unfold Registry.giveUp
  cases ht : r.takePending? id with
  | none => exact ho
  | some taken => exact (ho.takePending? ht).1

/-- A module that is forgotten is free again and leaves the load order. -/
theorem forget (ho : r.Orderly core ids) (id : String) :
    (r.forget id).value.2.Orderly core ids := by
  unfold Registry.forget
  cases ht : r.takeLoaded? id with
  | none => exact ho
  | some taken =>
    obtain ⟨d, rest⟩ := taken
    obtain ⟨hheld, hcore⟩ := held_takeLoaded? ht
    have howned : rest.OwnersExact := ho.owned.takeLoaded? ht
    obtain ⟨m, -, rfl⟩ := exists_of_takeLoaded? ht
    have hordered : (r.drop id m.handle).IsOrdered := ho.ordered.drop id m.handle
    show (r.drop id m.handle).Orderly core ids
    exact ⟨hcore.trans ho.core_eq, ho.distinct.sublist hheld, hordered,
      listed_filter ho.ordered hordered ho.listed (loaded_drop r id m.handle), howned⟩

/-- When the dynamic modules are forgotten, the static ones keep their places in the load order. -/
theorem forgetDynamic (ho : r.Orderly core ids) : r.forgetDynamic.2.Orderly core ids where
  core_eq := (forgetDynamic_frame r).1.trans ho.core_eq
  distinct := ho.distinct.sublist (held_forgetDynamic r)
  ordered := ho.ordered.forgetDynamic
  listed := listed_filter ho.ordered ho.ordered.forgetDynamic ho.listed
    (loaded_forgetDynamic ho.ordered)
  owned := ho.owned.forgetDynamic

/-- Every change that gives no handle twice leaves the registry in order. -/
theorem change (ho : r.Orderly core ids) {c : Change} (hnew : r.GivesNewHandle c) :
    (r.change c).Orderly core (ids ++ r.promoted c) := by
  cases c with
  | reserve d isDynamic =>
    rw [promoted, List.append_nil, Registry.change]
    cases hr : (r.reserve d isDynamic).value with
    | ok r' => exact ho.reserve hr
    | error c => exact ho
  | promote id h =>
    rw [promoted, Registry.change]
    cases hp : r.promote id h with
    | ok r' => exact ho.promote hnew hp
    | error e =>
      simp only [Except.isOk, Except.toBool, Bool.false_eq_true, if_false, List.append_nil]
      exact ho
  | giveUp id =>
    rw [promoted, List.append_nil]
    exact ho.giveUp id
  | forget id =>
    rw [promoted, List.append_nil]
    exact ho.forget id
  | forgetDynamic =>
    rw [promoted, List.append_nil]
    exact ho.forgetDynamic

/-! ## Several changes -/

/-- By induction on the changes. -/
theorem foldl_change (ho : r.Orderly core ids) {changes : List Change}
    (hnew : r.GivesNewHandles changes) :
    (changes.foldl Registry.change r).Orderly core (ids ++ r.promotions changes) := by
  induction changes generalizing r ids with
  | nil =>
    rw [promotions, List.append_nil]
    exact ho
  | cons c rest ih =>
    rw [promotions, ← List.append_assoc]
    exact ih (ho.change hnew.1) hnew.2

/-- A registry in order accepts exactly the claims of which both identities are free. -/
theorem acceptsFree (ho : r.Orderly core ids) : r.AcceptsFree core := by
  intro d isDynamic
  rw [← ho.core_eq, ← conflict?_eq_none_iff_held ho.distinct.keyed, value_reserve]
  cases r.conflict? d with
  | some c => simp
  | none => simp

end Orderly

/-- A registry that holds nothing but the core is in order. -/
theorem orderly_new (core : List String) : (new core).Orderly core [] where
  core_eq := rfl
  distinct := ⟨nofun, .nil, .nil, nofun⟩
  ordered := rfl
  listed := rfl
  owned := by
    intro h id
    simp [new]

/-- After every sequence of changes that gives no handle twice the registry is in order, its load
order lists each loaded module once and nothing else, and it accepts exactly the claims of which
both identities are free. -/
theorem orderly_after (core : List String) (changes : List Change)
    (hnew : (new core).GivesNewHandles changes) :
    (after core changes).Orderly core ((new core).promotions changes) ∧
      (after core changes).ListsLoaded ∧ (after core changes).AcceptsFree core := by
  have ho : (after core changes).Orderly core ([] ++ (new core).promotions changes) :=
    (orderly_new core).foldl_change hnew
  rw [List.nil_append] at ho
  exact ⟨ho, ⟨ho.ordered.nodup, ho.ordered.mem_loadOrder_iff⟩, ho.acceptsFree⟩

/-- A module of which nothing is known but its names. -/
def moduleNamed (id assembly : String) : Descriptor :=
  ⟨assembly, id, true, true, true, [], .empty, ⟨1, 0, 0, none⟩, none, "", none⟩

/-- One module is loaded, then another one; the first one is forgotten, a third one meets the
assembly of the second, and the first one is loaded again under its old handle. -/
def loadedAgain : List Change :=
  [.reserve (moduleNamed "A" "a") false, .promote "A" ⟨0, 0, 0⟩,
    .reserve (moduleNamed "B" "b") true, .promote "B" ⟨1, 0, 0⟩, .forget "A",
    .reserve (moduleNamed "C" "b") false, .promote "C" ⟨0, 0, 1⟩,
    .reserve (moduleNamed "A" "a") true, .promote "A" ⟨0, 0, 0⟩]

/-- A module that was forgotten and promoted again stands behind the others in the load order,
though its id was promoted first. -/
theorem orderly_after_loadedAgain :
    (new ["Core"]).GivesNewHandles loadedAgain ∧
      (new ["Core"]).promotions loadedAgain = ["A", "B", "A"] ∧
      (after ["Core"] loadedAgain).loadOrder = ["B", "A"] ∧
      (after ["Core"] loadedAgain).loadedIds = ["B", "A"] ∧
      (after ["Core"] loadedAgain).Orderly ["Core"] ((new ["Core"]).promotions loadedAgain) ∧
      (after ["Core"] loadedAgain).ListsLoaded ∧
      (after ["Core"] loadedAgain).AcceptsFree ["Core"] := by
  have hnew : (new ["Core"]).GivesNewHandles loadedAgain := by decide
  exact ⟨hnew, by decide, by decide, by decide, orderly_after ["Core"] loadedAgain hnew⟩

end Registry

end Module

end ModuleRuntime
