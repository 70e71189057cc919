import ModuleRuntime.Proofs.Loading.Accord

/-!
# The registry and the contexts answer alike

What the registry says of a module id or a handle is what the contexts say of it, after every run in
which no context comes to more modules than a handle can tell apart.
-/

set_option autoImplicit false

namespace ModuleRuntime.Module

/-! ## Handles name places -/

namespace Context

variable {c : Context} {h : Handle} {s : Slot}

/-- Whether handles can tell the modules of a context apart. -/
def Layout.Fits (c : Layout) : Prop :=
  c.modules.length < 2 ^ 32

/-- In a context that fits, a handle names a slot iff the slot has it. -/
theorem slot?_eq_some_iff (ht : c.layout.IsTidy) (hf : c.layout.Fits) :
    c.slot? h = some s ↔ s ∈ c.slots ∧ s.handle = h := by
  have hlength : c.slots.length < 2 ^ 32 := by
    have hmap : c.layout.modules.length = c.slots.length := List.length_map ..
    rw [← hmap]
    exact hf
  have hplace (i : Nat) (s : Slot) (hs : c.slots[i]? = some s) :
      s.handle = ⟨c.id, c.generation, UInt32.ofNat i⟩ := by
    refine ht.handle i s.placed ?_
    show (c.slots.map Slot.placed)[i]? = _
    rw [List.getElem?_map, hs]
    rfl
  unfold slot? isLive
  constructor
  · intro hfound
    split at hfound
    case isFalse => cases hfound
    case isTrue hlive =>
      simp only [Bool.and_eq_true, beq_iff_eq, decide_eq_true_eq] at hlive
      refine ⟨List.mem_of_getElem? hfound, ?_⟩
      rw [hplace _ s hfound, ← hlive.1.1, ← hlive.1.2, UInt32.ofNat_toNat]
  · rintro ⟨hmem, rfl⟩
    obtain ⟨i, hi⟩ := List.mem_iff_getElem?.mp hmem
    have hbound : i < c.slots.length := (List.getElem?_eq_some_iff.mp hi).1
    have hnat : (UInt32.ofNat i).toNat = i :=
      UInt32.toNat_ofNat_of_lt' (Nat.lt_trans hbound hlength)
    rw [hplace i s hi, if_pos (by simp [hnat, hbound])]
    show c.slots[(UInt32.ofNat i).toNat]? = some s
    rw [hnat, hi]

/-- A handle is live iff it names a slot. -/
theorem isLive_eq_isSome_slot? (c : Context) (h : Handle) : c.isLive h = (c.slot? h).isSome := by
  unfold slot?
  split
  case isTrue hlive =>
    have hbound : h.slot.toNat < c.slots.length := by
      simp only [isLive, Bool.and_eq_true, decide_eq_true_eq] at hlive
      exact hlive.2
    simp [hlive, hbound]
  case isFalse hdead => simpa using hdead

end Context

namespace Loader

namespace Layout

variable {l m : Layout}

/-- Whether handles can tell the modules of either context apart. -/
def Fits (l : Layout) : Prop :=
  ∀ isDynamic, (l.context isDynamic).Fits

/-- If a layout fits, it did so before it grew. -/
theorem Fits.before (h : l.Grown m) (hf : m.Fits) : l.Fits := by
  induction h with
  | refl => exact hf
  | @add k d image _ _ ih =>
    refine ih fun isDynamic => ?_
    have hgrown := hf isDynamic
    rw [context_add] at hgrown
    split at hgrown
    · refine Nat.lt_of_le_of_lt ?_ hgrown
      show _ ≤ ((k.context isDynamic).modules ++ [_]).length
      rw [List.length_append]
      exact Nat.le_add_right ..
    · exact hgrown

/-- The next handle is that of no loaded module. -/
theorem Accord.handle_ne_nextHandle (ha : l.Accord) (hf : l.Fits) (d : Descriptor) {m : Loaded}
    (hm : m ∈ l.registry.loaded.values) : m.handle ≠ l.nextHandle d := by
  obtain ⟨id, hid⟩ := (Dictionary.mem_values_iff _ m).mp hm
  obtain ⟨-, p, hp, hpm⟩ := (ha.find?_loaded_iff id m).mp hid
  obtain ⟨i, hi⟩ := List.mem_iff_getElem?.mp hp
  have hbound : i < (l.context m.isDynamic).modules.length := (List.getElem?_eq_some_iff.mp hi).1
  have hhandle : m.handle = p.handle := congrArg Loaded.handle hpm.symm
  have hnext : l.nextHandle d = (l.context (l.isDynamic d)).nextHandle := rfl
  rw [hhandle, (ha.tidy m.isDynamic).handle i p hi, hnext]
  unfold Context.Layout.nextHandle
  intro heq
  obtain ⟨hcontext, -, hslot⟩ := Handle.mk.inj heq
  rw [ha.id, ha.id] at hcontext
  have hsame : m.isDynamic = l.isDynamic d := by
    revert hcontext
    cases m.isDynamic <;> cases l.isDynamic d <;> simp
  -- Both are handles of one context, so the place of the module would be behind all modules.
  rw [← hsame] at hslot
  have hlength := hf m.isDynamic
  unfold Context.Layout.Fits at hlength
  have hnat := congrArg UInt32.toNat hslot
  rw [UInt32.toNat_ofNat_of_lt' (Nat.lt_trans hbound hlength),
    UInt32.toNat_ofNat_of_lt' hlength] at hnat
  omega

/-- As long as the layout fits, every module that is added has a handle of its own. -/
theorem Accord.ownersExact_grown (ha : l.Accord) (ho : l.registry.OwnersExact) (h : l.Grown m)
    (hf : m.Fits) : m.registry.OwnersExact := by
  induction h with
  | refl => exact ho
  | @add k d image hk hfree ih =>
    have hfits : k.Fits := hf.before (.add d image .refl hfree)
    refine (ih hfits).add (Registry.not_mem_keys_of_conflict? hfree) fun m hm => ?_
    exact (ha.grown hk).handle_ne_nextHandle hfits d hm

/-- As long as the layout fits, the registry knows the owner of each handle whatever is done. -/
theorem Accord.ownersExact_step (ha : l.Accord) (ho : l.registry.OwnersExact) (h : l.Step m)
    (hf : m.Fits) : m.registry.OwnersExact := by
  cases h with
  | grow h => exact ha.ownersExact_grown ho h hf
  | reload h => exact ha.dropped.ownersExact_grown ho.forgetDynamic h hf
  | stage id image h => exact ho

end Layout

/-! ## The answers -/

/-- The dynamic or the static context. -/
def context (l : Loader) (isDynamic : Bool) : Context :=
  if isDynamic then l.dynamicContext else l.staticContext

/-- The layout of a context is the context of the layout. -/
@[simp]
theorem layout_context (l : Loader) (isDynamic : Bool) :
    (l.context isDynamic).layout = l.layout.context isDynamic := by
  cases isDynamic <;> rfl

/-- The registry and the two contexts say the same of every module id and every handle: nothing is
pending; an id has a handle iff a slot of a context with that handle holds the id, and the registry
has the descriptor of that slot and the kind of that context; each context lists its modules in the
order in which the registry does; a handle is live iff the registry knows its kind, and live in the
dynamic context iff it is reloadable; and images are staged for modules of the dynamic context only.
-/
structure InStep (l : Loader) : Prop where
  registryIdle : l.registry.pendingCount = 0
  contextsIdle : ∀ isDynamic, (l.context isDynamic).pending.size = 0
  held : ∀ (id : String) (h : Handle), l.registry.handleOf? id = some h ↔
    ∃ isDynamic s, (l.context isDynamic).slot? h = some s ∧ s.handle = h ∧ s.descriptor.id = id
  described : ∀ (isDynamic : Bool) (h : Handle) (s : Slot),
    (l.context isDynamic).slot? h = some s →
      l.registry.descriptor? s.descriptor.id = some s.descriptor ∧
        l.registry.holderOfId? s.descriptor.id =
          some (if isDynamic then .dynamicLoaded else .staticLoaded)
  listed : ∀ isDynamic, (l.registry.list.filter fun d => (l.context isDynamic).contains d.id) =
    (l.context isDynamic).list
  owned : ∀ h : Handle, (l.contextOf? h).isSome = (l.registry.kindOf? h).isSome
  reloadable : ∀ h : Handle, l.registry.isReloadable h = l.dynamicContext.isLive h
  staged : ∀ id ∈ l.staged.keys, l.dynamicContext.contains id = true

variable {l : Loader}

/-- Nothing is pending in the registry. -/
theorem pending_of_accord (ha : l.layout.Accord) :
    l.registry.staticPending = .empty ∧ l.registry.dynamicPending = .empty :=
  ⟨ha.staticPending, ha.dynamicPending⟩

/-- In a context, a handle names a slot iff the slot has it. -/
theorem slot?_context_iff (ha : l.layout.Accord) (hf : l.layout.Fits) (isDynamic : Bool)
    (h : Handle) (s : Slot) :
    (l.context isDynamic).slot? h = some s ↔ s ∈ (l.context isDynamic).slots ∧ s.handle = h := by
  have htidy := ha.tidy isDynamic
  have hfits := hf isDynamic
  rw [← layout_context] at htidy hfits
  exact Context.slot?_eq_some_iff htidy hfits

/-- The registry holds a module iff its handle names a slot of its context with its descriptor. -/
theorem find?_loaded_iff_slot (ha : l.layout.Accord) (hf : l.layout.Fits) (id : String)
    (m : Loaded) : l.registry.loaded.find? id = some m ↔
      m.descriptor.id = id ∧
        ∃ s, (l.context m.isDynamic).slot? m.handle = some s ∧ s.descriptor = m.descriptor := by
  have hslots : (l.layout.context m.isDynamic).modules =
      (l.context m.isDynamic).slots.map Slot.placed := by
    rw [← layout_context]
    rfl
  rw [show l.registry = l.layout.registry from rfl, ha.find?_loaded_iff, hslots]
  refine and_congr_right fun _ => ⟨?_, ?_⟩
  · rintro ⟨p, hp, hpm⟩
    obtain ⟨s, hs, rfl⟩ := List.mem_map.mp hp
    refine ⟨s, (slot?_context_iff ha hf _ _ s).mpr ⟨hs, ?_⟩, ?_⟩
    · exact congrArg Loaded.handle hpm
    · exact congrArg Loaded.descriptor hpm
  · rintro ⟨s, hs, hd⟩
    obtain ⟨hmem, hh⟩ := (slot?_context_iff ha hf _ _ s).mp hs
    refine ⟨s.placed, List.mem_map_of_mem hmem, ?_⟩
    show (⟨s.descriptor, s.handle, m.isDynamic⟩ : Loaded) = m
    rw [hd, hh]

/-- What stands in a slot is held by the registry, under the kind of its context. -/
theorem find?_loaded_of_slot (ha : l.layout.Accord) (hf : l.layout.Fits) {isDynamic : Bool}
    {h : Handle} {s : Slot} (hs : (l.context isDynamic).slot? h = some s) :
    l.registry.loaded.find? s.descriptor.id = some ⟨s.descriptor, h, isDynamic⟩ :=
  (find?_loaded_iff_slot ha hf _ _).mpr ⟨rfl, s, hs, rfl⟩

/-- A context contains the module that the registry holds under an id iff it is that of its kind. -/
theorem contains_context_iff (ha : l.layout.Accord) {id : String} {m : Loaded}
    (hm : l.registry.loaded.find? id = some m) (isDynamic : Bool) :
    (l.context isDynamic).contains id = true ↔ m.isDynamic = isDynamic := by
  have hkeys : (l.context isDynamic).contains id = true ↔
      ∃ p ∈ (l.layout.context isDynamic).modules, p.descriptor.id = id := by
    rw [← (ha.tidy isDynamic).mem_keys_iff, ← layout_context]
    exact Dictionary.contains_iff _ _
  rw [hkeys]
  constructor
  · rintro ⟨p, hp, hid⟩
    have hfound := (ha.find?_loaded_iff id (p.asLoaded isDynamic)).mpr ⟨hid, p, hp, rfl⟩
    have heq := hm.symm.trans hfound
    rw [Option.some.injEq] at heq
    exact congrArg Loaded.isDynamic heq
  · rintro rfl
    obtain ⟨hid, p, hp, hpm⟩ := (ha.find?_loaded_iff id m).mp hm
    exact ⟨p, hp, (congrArg (·.descriptor.id) hpm).trans hid⟩

/-- Each context lists its modules as the registry does. -/
theorem list_filter_contains (ha : l.layout.Accord) (isDynamic : Bool) :
    (l.registry.list.filter fun d => (l.context isDynamic).contains d.id) =
      (l.context isDynamic).list := by
  have hcongr : l.registry.loaded.values.filter
        ((fun d => (l.context isDynamic).contains d.id) ∘ Loaded.descriptor) =
      l.registry.loaded.values.filter fun m => m.isDynamic == isDynamic := by
    refine List.filter_congr fun m hm => ?_
    obtain ⟨id, hid⟩ := (Dictionary.mem_values_iff _ m).mp hm
    rw [Function.comp_apply, ha.keyed id m hid, Bool.eq_iff_iff, contains_context_iff ha hid,
      beq_iff_eq]
  have hlisted := ha.listed isDynamic
  rw [show l.layout.registry = l.registry from rfl] at hlisted
  rw [show l.registry.list = _ from ha.ordered.list_eq, List.filter_map,
    show l.layout.registry = l.registry from rfl, hcongr, hlisted, Context.list_eq_map_modules,
    layout_context, List.map_map]
  rfl

/-- The registry lists exactly the modules of the two contexts. -/
theorem mem_registry_list_iff (ha : l.layout.Accord) (d : Descriptor) :
    d ∈ l.registry.list ↔ ∃ isDynamic, d ∈ (l.context isDynamic).list := by
  constructor
  · intro hd
    obtain ⟨m, hm, rfl⟩ := (ha.ordered.mem_list_iff d).mp hd
    obtain ⟨id, hid⟩ := (Dictionary.mem_values_iff _ m).mp hm
    refine ⟨m.isDynamic, ?_⟩
    rw [← list_filter_contains ha m.isDynamic, List.mem_filter]
    refine ⟨hd, (contains_context_iff ha ?_ m.isDynamic).mpr rfl⟩
    rw [ha.keyed id m hid]
    exact hid
  · rintro ⟨isDynamic, hd⟩
    rw [← list_filter_contains ha isDynamic] at hd
    exact (List.mem_filter.mp hd).1

/-- A name that the registry knows is one of the core or that of a module that it lists. -/
theorem knows_iff_of_accord (ha : l.layout.Accord) (name : String) :
    l.registry.knows name = true ↔
      l.registry.isCore name = true ∨ ∃ d ∈ l.registry.list, d.isNamed name = true := by
  obtain ⟨hstatic, hdynamic⟩ := pending_of_accord ha
  have hid : name ∈ l.registry.loaded.keys ↔
      ∃ m ∈ l.registry.loaded.values, m.descriptor.id = name := by
    rw [← Dictionary.contains_iff, Dictionary.contains, Option.isSome_iff_exists]
    constructor
    · rintro ⟨m, hm⟩
      exact ⟨m, (Dictionary.mem_values_iff _ m).mpr ⟨name, hm⟩, ha.keyed name m hm⟩
    · rintro ⟨m, hm, rfl⟩
      obtain ⟨id, hm⟩ := (Dictionary.mem_values_iff _ m).mp hm
      exact ⟨m, (ha.keyed id m hm).symm ▸ hm⟩
  have hlist : l.registry.list = l.registry.loaded.values.map (·.descriptor) := ha.ordered.list_eq
  unfold Registry.knows Descriptor.isNamed
  rw [hlist, Bool.or_eq_true, Bool.or_eq_true, Registry.contains_eq_true_iff,
    Registry.isSome_holderOfAssembly?_iff, hstatic, hdynamic, hid, or_assoc]
  refine or_congr_right ⟨?_, ?_⟩
  · rintro ((hn | hn | ⟨m, hm, hn⟩) | ⟨d, hd, -⟩ | ⟨d, hd, -⟩ | ⟨m, hm, hn⟩)
    · cases hn
    · cases hn
    · exact ⟨m.descriptor, List.mem_map_of_mem hm, by simp [hn]⟩
    · cases hd
    · cases hd
    · exact ⟨m.descriptor, List.mem_map_of_mem hm, by simp [hn]⟩
  · rintro ⟨d, hd, hn⟩
    obtain ⟨m, hm, rfl⟩ := List.mem_map.mp hd
    rw [Bool.or_eq_true, beq_iff_eq, beq_iff_eq] at hn
    rcases hn with hn | hn
    · exact .inl (.inr (.inr ⟨m, hm, hn⟩))
    · exact .inr (.inr (.inr ⟨m, hm, hn⟩))

/-- A handle has an owner iff it names a slot of some context. -/
theorem owner?_eq_some_iff_slot (ha : l.layout.Accord) (hf : l.layout.Fits)
    (ho : l.registry.OwnersExact) (h : Handle) (m : Loaded) :
    l.registry.owner? h = some m ↔
      m.handle = h ∧
        ∃ s, (l.context m.isDynamic).slot? h = some s ∧ s.descriptor = m.descriptor := by
  rw [ho.owner?_eq_some_iff]
  constructor
  · rintro ⟨⟨id, hm⟩, rfl⟩
    exact ⟨rfl, ((find?_loaded_iff_slot ha hf id m).mp hm).2⟩
  · rintro ⟨rfl, hs⟩
    exact ⟨⟨_, (find?_loaded_iff_slot ha hf _ m).mpr ⟨rfl, hs⟩⟩, rfl⟩

/-- A handle is live in some context iff the registry knows what kind of module it names. -/
theorem isSome_contextOf? (ha : l.layout.Accord) (hf : l.layout.Fits)
    (ho : l.registry.OwnersExact) (h : Handle) :
    (l.contextOf? h).isSome = (l.registry.kindOf? h).isSome := by
  have hlive : (l.contextOf? h).isSome = true ↔ ∃ isDynamic, (l.context isDynamic).isLive h := by
    unfold contextOf?
    rw [List.find?_isSome]
    simp [context]
  rw [Bool.eq_iff_iff, hlive, Registry.kindOf?, Option.isSome_map, Option.isSome_iff_exists]
  constructor
  · rintro ⟨isDynamic, hl⟩
    rw [Context.isLive_eq_isSome_slot?, Option.isSome_iff_exists] at hl
    obtain ⟨s, hs⟩ := hl
    exact ⟨⟨s.descriptor, h, isDynamic⟩,
      (owner?_eq_some_iff_slot ha hf ho h _).mpr ⟨rfl, s, hs, rfl⟩⟩
  · rintro ⟨m, hm⟩
    obtain ⟨-, s, hs, -⟩ := (owner?_eq_some_iff_slot ha hf ho h m).mp hm
    refine ⟨m.isDynamic, ?_⟩
    rw [Context.isLive_eq_isSome_slot?, hs]
    rfl

/-- A handle is reloadable iff it is live in the dynamic context. -/
theorem isReloadable_eq_isLive (ha : l.layout.Accord) (hf : l.layout.Fits)
    (ho : l.registry.OwnersExact) (h : Handle) :
    l.registry.isReloadable h = l.dynamicContext.isLive h := by
  rw [Bool.eq_iff_iff, Registry.isReloadable, Option.any_eq_true,
    Context.isLive_eq_isSome_slot?, Option.isSome_iff_exists]
  constructor
  · rintro ⟨m, hm, hkind⟩
    rw [Bool.and_eq_true] at hkind
    obtain ⟨-, s, hs, -⟩ := (owner?_eq_some_iff_slot ha hf ho h m).mp hm
    rw [hkind.1] at hs
    exact ⟨s, hs⟩
  · rintro ⟨s, hs⟩
    have hm := (owner?_eq_some_iff_slot ha hf ho h ⟨s.descriptor, h, true⟩).mpr
      ⟨rfl, s, hs, rfl⟩
    have hvalue : (⟨s.descriptor, h, true⟩ : Loaded) ∈ l.registry.loaded.values :=
      (Dictionary.mem_values_iff _ _).mpr ((ho.owner?_eq_some_iff h _).mp hm).1
    have hplaced : true = (l.config.liveReload && s.descriptor.supportsReload) :=
      ha.placed _ hvalue
    refine ⟨_, hm, ?_⟩
    rw [eq_comm, Bool.and_eq_true] at hplaced
    simp [hplaced.2]

/-- A registry and contexts that agree, whose handles differ and have an owner each,
answer alike. -/
theorem inStep_of_accord (ha : l.layout.Accord) (hf : l.layout.Fits)
    (ho : l.registry.OwnersExact) : l.InStep where
  registryIdle := by
    obtain ⟨hstatic, hdynamic⟩ := pending_of_accord ha
    rw [Registry.pendingCount, hstatic, hdynamic]
    rfl
  contextsIdle isDynamic := by
    have hp := (ha.tidy isDynamic).pending
    rw [← layout_context] at hp
    rw [show (l.context isDynamic).pending = .empty from hp]
    rfl
  held id h := by
    rw [Registry.handleOf?, Option.map_eq_some_iff]
    constructor
    · rintro ⟨m, hm, rfl⟩
      obtain ⟨hid, s, hs, hd⟩ := (find?_loaded_iff_slot ha hf id m).mp hm
      obtain ⟨-, hh⟩ := (slot?_context_iff ha hf _ _ s).mp hs
      exact ⟨m.isDynamic, s, hs, hh, hd ▸ hid⟩
    · rintro ⟨isDynamic, s, hs, -, rfl⟩
      exact ⟨_, find?_loaded_of_slot ha hf hs, rfl⟩
  described isDynamic h s hs := by
    have hm := find?_loaded_of_slot ha hf hs
    obtain ⟨hstatic, hdynamic⟩ := pending_of_accord ha
    refine ⟨by simp [Registry.descriptor?, hm], ?_⟩
    cases isDynamic <;>
      simp [Registry.holderOfId?, hm, hstatic, hdynamic, Dictionary.contains, Loaded.holder]
  listed := list_filter_contains ha
  owned := isSome_contextOf? ha hf ho
  reloadable := isReloadable_eq_isLive ha hf ho
  staged id hid := (Dictionary.contains_iff _ _).mpr (ha.staged id hid)

/-! ## Runs -/

/-- The modules of a context are counted in its layout. -/
theorem moduleCount_context (l : Loader) (isDynamic : Bool) :
    (l.context isDynamic).moduleCount = (l.layout.context isDynamic).modules.length := by
  rw [← layout_context]
  exact (List.length_map ..).symm

/-- A load adds at most one module to a context. -/
theorem moduleCount_load_le (l : Loader) (image : Image) (isDynamic : Bool) :
    ((l.load image).value.2.context isDynamic).moduleCount ≤
      (l.context isDynamic).moduleCount + 1 := by
  rw [moduleCount_context, moduleCount_context]
  rcases l.load_cases image with hl | ⟨d, -, -, hl⟩
  · rw [hl]
    exact Nat.le_add_right ..
  · rw [hl, Layout.context_add]
    split
    · show ((l.layout.context isDynamic).modules ++ [_]).length ≤ _
      rw [List.length_append]
      exact Nat.le_refl _
    · exact Nat.le_add_right ..

/-- As long as no context came to more modules than fit, the registry knows the owner of each handle
after every part of a run. -/
theorem ownersExact_after (config : Config) (linkers : LinkerSequence) (ops : List Operation)
    (hfits : ∀ n isDynamic,
      ((after config linkers (ops.take n)).context isDynamic).moduleCount < 2 ^ 32) (n : Nat) :
    (after config linkers (ops.take n)).registry.OwnersExact := by
  have hlayout (n : Nat) : (after config linkers (ops.take n)).layout.Fits := by
    intro isDynamic
    unfold Context.Layout.Fits
    rw [← moduleCount_context]
    exact hfits n isDynamic
  -- On the length of the prefix: a handle is given out once only while each prefix fits.
  induction n with
  | zero =>
    intro h id
    simp [new, Registry.new]
  | succ n ih =>
    rcases Nat.lt_or_ge n ops.length with hn | hn
    · have ha := accord_after config linkers (ops.take n)
      have hnext := hlayout (n + 1)
      rw [List.take_succ_eq_append_getElem hn, after_concat] at hnext ⊢
      exact ha.ownersExact_step ih (step_perform _ _ (ha.supportsReload true)) hnext
    · rw [List.take_of_length_le (by omega)]
      rw [List.take_of_length_le hn] at ih
      exact ih

/-- After every run in which no context came to more modules than a handle can tell apart, the
registry and the contexts answer alike. -/
theorem inStep_after (config : Config) (linkers : LinkerSequence) (ops : List Operation)
    (hfits : ∀ n isDynamic,
      ((after config linkers (ops.take n)).context isDynamic).moduleCount < 2 ^ 32) :
    (after config linkers ops).InStep := by
  have ha := accord_after config linkers ops
  have ho := ownersExact_after config linkers ops hfits ops.length
  rw [List.take_length] at ho
  refine inStep_of_accord ha (fun isDynamic => ?_) ho
  have hbound := hfits ops.length isDynamic
  rw [List.take_length, moduleCount_context] at hbound
  exact hbound

/-- Loads add at most as many modules to a context as there are images. -/
theorem moduleCount_run_load_le (images : List Image) (l : Loader) (isDynamic : Bool) :
    ((l.run (images.map .load)).value.context isDynamic).moduleCount ≤
      (l.context isDynamic).moduleCount + images.length := by
  induction images generalizing l with
  | nil => exact Nat.le_refl _
  | cons image rest ih =>
    have hone := moduleCount_load_le l image isDynamic
    have hrest := ih (l.load image).value.2
    rw [List.map_cons, value_run_cons, List.length_cons]
    show ((run (l.load image).value.2 _).value.context isDynamic).moduleCount ≤ _
    omega

/-- Two loads, of which the second one meets the first module. -/
def repeatedLoad : List Operation :=
  [Image.ofMetadata (.named "A"), Image.ofMetadata (.named "A")].map .load

/-- After two loads of one module, of which the second one is refused, all answers agree. -/
theorem inStep_after_repeatedLoad :
    (∀ n isDynamic, ((after .default (Linker.bare ["A"]) (repeatedLoad.take n)).context
        isDynamic).moduleCount < 2 ^ 32) ∧
      (after .default (Linker.bare ["A"]) repeatedLoad).InStep := by
  have hfits : ∀ n isDynamic, ((after .default (Linker.bare ["A"]) (repeatedLoad.take n)).context
      isDynamic).moduleCount < 2 ^ 32 := by
    intro n isDynamic
    have hnone : ((new .default (Linker.bare ["A"])).context isDynamic).moduleCount = 0 := by
      cases isDynamic <;> rfl
    unfold repeatedLoad
    rw [← List.map_take]
    refine Nat.lt_of_le_of_lt (moduleCount_run_load_le _ _ isDynamic) ?_
    rw [hnone, List.length_take]
    exact Nat.lt_of_le_of_lt (Nat.add_le_add_left (Nat.min_le_right ..) 0) (by decide)
  exact ⟨hfits, inStep_after .default (Linker.bare ["A"]) repeatedLoad hfits⟩

end Loader

end ModuleRuntime.Module
