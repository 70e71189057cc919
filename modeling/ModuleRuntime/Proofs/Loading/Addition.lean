import ModuleRuntime.Proofs.Loading.Course
import ModuleRuntime.Proofs.Loading.InStep

/-!
# What loads add

A load that succeeds adds one module behind the others, to the registry and to the context in which
it belongs. A load that fails adds none and calls no hook. In both cases everything else stays as it
was, down to how far each entry point has come; only the linkers have answered calls meanwhile.
-/

set_option autoImplicit false

namespace ModuleRuntime.Module

open Journaled (Meets)

/-! ## Registries -/

namespace Registry

variable {r r' r'' : Registry} {ms ms' : List Loaded} {d : Descriptor} {name : String}

/-- A registry that came from another one by promoting modules, in their order, and by nothing
else. -/
structure Adds (r : Registry) (ms : List Loaded) (r' : Registry) : Prop where
  loaded : r'.loaded.entries = r.loaded.entries ++ ms.map fun m => (m.descriptor.id, m)
  loadOrder : r'.loadOrder = r.loadOrder ++ ms.map (·.descriptor.id)
  owners : r'.owners = ms.foldl (fun owners m => owners.put m.handle m.descriptor.id) r.owners
  frame : r' = { r with
    loaded := r'.loaded
    loadOrder := r'.loadOrder
    owners := r'.owners }

/-- No module is added. -/
theorem Adds.refl : r.Adds [] r where
  loaded := (List.append_nil _).symm
  loadOrder := (List.append_nil _).symm
  owners := rfl
  frame := rfl

/-- Some modules and then others are added. -/
theorem Adds.trans (h : r.Adds ms r') (h' : r'.Adds ms' r'') : r.Adds (ms ++ ms') r'' where
  loaded := by
    rw [h'.loaded, h.loaded, List.map_append, List.append_assoc]
  loadOrder := by
    rw [h'.loadOrder, h.loadOrder, List.map_append, List.append_assoc]
  owners := by
    rw [h'.owners, h.owners, List.foldl_append]
  frame := by
    have hframe := congrArg (fun k => { k with
      loaded := r''.loaded
      loadOrder := r''.loadOrder
      owners := r''.owners }) h.frame
    exact h'.frame.trans hframe

/-- A registry to which nothing was added is the same. -/
theorem Adds.eq (h : r.Adds [] r') : r' = r := by
  have hloaded : r'.loaded = r.loaded := Dictionary.ext (h.loaded.trans (List.append_nil _))
  have horder : r'.loadOrder = r.loadOrder := h.loadOrder.trans (List.append_nil _)
  have howners : r'.owners = r.owners := h.owners
  have hframe := h.frame
  rw [hloaded, horder, howners] at hframe
  exact hframe

/-- A module of a new id is one more. -/
theorem adds_add (hd : d.id ∉ r.loaded.keys) (isDynamic : Bool) (handle : Handle) :
    r.Adds [⟨d, handle, isDynamic⟩] (r.add d isDynamic handle) where
  loaded := Dictionary.entries_put_of_not_mem hd _
  loadOrder := rfl
  owners := rfl
  frame := rfl

/-- The new modules stand behind those that were there. -/
theorem Adds.values (h : r.Adds ms r') : r'.loaded.values = r.loaded.values ++ ms := by
  show r'.loaded.entries.map Prod.snd = r.loaded.entries.map Prod.snd ++ ms
  rw [h.loaded, List.map_append, List.map_map]
  simp [Function.comp_def]

/-- The new ids stand behind those that were there. -/
theorem Adds.keys (h : r.Adds ms r') :
    r'.loaded.keys = r.loaded.keys ++ ms.map (·.descriptor.id) := by
  show r'.loaded.entries.map Prod.fst = r.loaded.entries.map Prod.fst ++ _
  rw [h.loaded, List.map_append, List.map_map]
  rfl

/-- The load order goes on listing the ids of the loaded modules. -/
theorem Adds.isOrdered (h : r.Adds ms r') (ho : r.IsOrdered) : r'.IsOrdered := by
  show r'.loadOrder = r'.loaded.keys
  rw [h.loadOrder, h.keys, ho]

/-- The modules that were added stand behind the others in the load order. -/
theorem Adds.inLoadOrder (h : r.Adds ms r') (ho : r.IsOrdered) :
    r'.inLoadOrder = r.inLoadOrder ++ ms := by
  rw [(h.isOrdered ho).inLoadOrder_eq, ho.inLoadOrder_eq, h.values]

/-- Adding modules leaves the core and all claims alone. -/
theorem Adds.rest (h : r.Adds ms r') :
    r'.core = r.core ∧ r'.staticPending = r.staticPending ∧
      r'.dynamicPending = r.dynamicPending := by
  rw [h.frame]
  exact ⟨rfl, rfl, rfl⟩

/-- The registry knows the names that it knew before and those of the modules that were added. -/
theorem Adds.knows_iff (h : r.Adds ms r') (name : String) :
    r'.knows name = true ↔ r.knows name = true ∨ ∃ m ∈ ms, name ∈ m.descriptor.names := by
  obtain ⟨hcore, hstatic, hdynamic⟩ := h.rest
  simp only [knows, isCore, Bool.or_eq_true, contains_eq_true_iff,
    isSome_holderOfAssembly?_iff, hcore, hstatic, hdynamic, h.keys, h.values, List.mem_append,
    List.mem_map, Descriptor.names, List.mem_cons, List.not_mem_nil, or_false]
  grind

/-- Whether a module meets a conflict does not hang on modules with none of its names. -/
theorem Adds.conflict?_eq (h : r.Adds ms r')
    (hd : ∀ m ∈ ms, ∀ name ∈ d.names, name ∉ m.descriptor.names) :
    r'.conflict? d = r.conflict? d := by
  obtain ⟨hcore, hstatic, hdynamic⟩ := h.rest
  have hfind : r'.loaded.find? d.id = r.loaded.find? d.id := by
    apply Option.ext
    intro m
    rw [← Dictionary.mem_entries_iff, ← Dictionary.mem_entries_iff, h.loaded, List.mem_append]
    apply or_iff_left
    intro hmem
    obtain ⟨k, hk, heq⟩ := List.mem_map.mp hmem
    have hid : k.descriptor.id = d.id := congrArg Prod.fst heq
    apply hd k hk d.id List.mem_cons_self
    rw [← hid]
    exact List.mem_cons_self
  have hassembly : ms.find? (·.descriptor.assembly == d.assembly) = none := by
    rw [List.find?_eq_none]
    intro m hm heq
    rw [beq_iff_eq] at heq
    apply hd m hm d.assembly (List.mem_cons_of_mem _ List.mem_cons_self)
    rw [← heq]
    exact List.mem_cons_of_mem _ List.mem_cons_self
  have hholder : r'.holderOfAssembly? d.assembly = r.holderOfAssembly? d.assembly := by
    unfold holderOfAssembly?
    rw [hstatic, hdynamic, h.values, List.find?_append, hassembly, Option.or_none]
  have hid : r'.holderOfId? d.id = r.holderOfId? d.id := by
    unfold holderOfId?
    rw [hstatic, hdynamic, hfind]
  unfold conflict? isCore
  rw [hcore, hid, hholder]

/-- No module that is pending or loaded counts as one of the core. -/
theorem holder_ne_core (r : Registry) (name : String) :
    r.holderOfId? name ≠ some .core ∧ r.holderOfAssembly? name ≠ some .core := by
  have hloaded (m : Loaded) : m.holder ≠ .core := by
    unfold Loaded.holder
    split <;> rintro ⟨⟩
  have hmap (found : Option Loaded) : found.map (·.holder) ≠ some .core := by
    cases found with
    | none => rintro ⟨⟩
    | some m => exact fun h => hloaded m (Option.some.inj h)
  constructor
  · unfold holderOfId?
    split
    · rintro ⟨⟩
    · split
      · rintro ⟨⟩
      · exact hmap _
  · unfold holderOfAssembly?
    split
    · rintro ⟨⟩
    · split
      · rintro ⟨⟩
      · exact hmap _

/-- A fatal conflict is one about a name of the core. -/
theorem error_of_isFatal {c : Conflict} (hc : r.conflict? d = some c)
    (hfatal : c.isFatal = true) :
    ∃ name ∈ d.names, name ∈ r.core ∧ c.error = .conflict d.id (.identity name .core) := by
  have hcore : c.holder = .core := eq_of_beq hfatal
  have hassembly : d.assembly ∈ d.names := List.mem_cons_of_mem _ List.mem_cons_self
  unfold conflict? at hc
  split at hc
  case isTrue hname =>
    cases hc
    exact ⟨d.id, List.mem_cons_self, List.contains_iff_mem.mp hname, rfl⟩
  case isFalse =>
    split at hc
    case isTrue hname =>
      cases hc
      exact ⟨d.assembly, hassembly, List.contains_iff_mem.mp hname, rfl⟩
    case isFalse =>
      -- Nobody but the core holds a name for the core.
      rw [Option.orElse_eq_orElse, Option.orElse_eq_or, Option.or_eq_some_iff] at hc
      rcases hc with hid | ⟨-, hname⟩
      · obtain ⟨holder, hholder, rfl⟩ := Option.map_eq_some_iff.mp hid
        obtain rfl : holder = .core := hcore
        exact absurd hholder (r.holder_ne_core d.id).1
      · obtain ⟨holder, hholder, rfl⟩ := Option.map_eq_some_iff.mp hname
        obtain rfl : holder = .core := hcore
        exact absurd hholder (r.holder_ne_core d.assembly).2

end Registry

/-! ## Linkers -/

namespace LinkerSequence

variable {s s' s'' : LinkerSequence} {linker : Linker}

/-- The linkers that are left when some calls have been answered. -/
def IsLater (s s' : LinkerSequence) : Prop :=
  ∃ n, ∀ k, s'.nth k = s.nth (k + n)

/-- No call was answered. -/
theorem IsLater.refl : s.IsLater s :=
  ⟨0, fun _ => rfl⟩

/-- Some calls and then others were answered. -/
theorem IsLater.trans (h : s.IsLater s') (h' : s'.IsLater s'') : s.IsLater s'' := by
  obtain ⟨n, hn⟩ := h
  obtain ⟨m, hm⟩ := h'
  refine ⟨m + n, fun k => ?_⟩
  rw [hm, hn, Nat.add_assoc]

/-- One call was answered. -/
theorem isLater_tail (s : LinkerSequence) : s.IsLater s.tail :=
  ⟨1, fun _ => rfl⟩

/-- A linker that answers every call alike goes on to do so. -/
theorem IsLater.eq_constant (h : (constant linker).IsLater s) : s = constant linker := by
  obtain ⟨n, hn⟩ := h
  obtain ⟨nth⟩ := s
  exact congrArg LinkerSequence.mk (funext hn)

end LinkerSequence

/-! ## Contexts -/

/-- Activities other than calls of hooks. -/
def Activity.IsLogged (a : Activity) : Prop :=
  ∃ entry, a = .logged entry

/-- A log entry is no call of a hook. -/
theorem Activity.isLogged_logged (entry : Log.Entry) : (logged entry).IsLogged :=
  ⟨entry, rfl⟩

open Activity (IsLogged isLogged_logged)

namespace Context

variable {c c' c'' : Context} {ms ms' : List Placed}

/-- A context that came from another one by loading modules, in their order, and by nothing else. In
the meantime the linkers may have answered calls. -/
structure Adds (c : Context) (ms : List Placed) (c' : Context) : Prop where
  loaded : c'.loaded.entries = c.loaded.entries ++ ms.map fun m => (m.descriptor.id, m.descriptor)
  slots : ∃ slots, c'.slots = c.slots ++ slots ∧ slots.map Slot.placed = ms
  linkers : c.linkers.IsLater c'.linkers
  frame : c' = { c with linkers := c'.linkers, loaded := c'.loaded, slots := c'.slots }

/-- No module is added. -/
theorem Adds.refl : c.Adds [] c where
  loaded := (List.append_nil _).symm
  slots := ⟨[], (List.append_nil _).symm, rfl⟩
  linkers := .refl
  frame := rfl

/-- Some modules and then others are added. -/
theorem Adds.trans (h : c.Adds ms c') (h' : c'.Adds ms' c'') : c.Adds (ms ++ ms') c'' where
  loaded := by
    rw [h'.loaded, h.loaded, List.map_append, List.append_assoc]
  slots := by
    obtain ⟨slots, hslots, rfl⟩ := h.slots
    obtain ⟨slots', hslots', rfl⟩ := h'.slots
    refine ⟨slots ++ slots', ?_, List.map_append⟩
    rw [hslots', hslots, List.append_assoc]
  linkers := h.linkers.trans h'.linkers
  frame := by
    have hframe := congrArg (fun k => { k with
      linkers := c''.linkers, loaded := c''.loaded, slots := c''.slots }) h.frame
    exact h'.frame.trans hframe

/-- A context to which nothing was added is the same but for the calls of linkers. -/
theorem Adds.eq (h : c.Adds [] c') : c' = { c with linkers := c'.linkers } := by
  have hloaded : c'.loaded = c.loaded := Dictionary.ext (h.loaded.trans (List.append_nil _))
  obtain ⟨slots, hslots, hnone⟩ := h.slots
  rw [List.map_eq_nil_iff.mp hnone, List.append_nil] at hslots
  have hframe := h.frame
  rw [hloaded, hslots] at hframe
  exact hframe

/-- A load adds the module behind the others, or it fails, adds nothing and calls no hook. -/
theorem adds_load (c : Context) (d : Descriptor) (image : Image) :
    (∃ e, (c.load d image).value.1 = .error e ∧ c.Adds [] (c.load d image).value.2 ∧
        ∀ a ∈ (c.load d image).journal, a.IsLogged) ∨
      ((c.load d image).value.1 = .ok c.nextHandle ∧
        c.Adds [⟨d, image, c.nextHandle⟩] (c.load d image).value.2) := by
  have hlog {a : Activity} {entry : Log.Entry} (ha : a ∈ [Activity.logged entry]) : a.IsLogged :=
    ⟨entry, List.mem_singleton.mp ha⟩
  unfold load
  split
  case isTrue => exact .inl ⟨_, rfl, .refl, fun a ha => hlog ha⟩
  case isFalse hfree =>
    rw [Bool.or_eq_true, not_or, Bool.not_eq_true, Bool.not_eq_true] at hfree
    have hpending : d.id ∉ c.pending.keys := by
      rw [← Dictionary.contains_iff, hfree.2]
      exact Bool.false_ne_true
    have hloaded : d.id ∉ c.loaded.keys := by
      rw [← Dictionary.contains_iff, show c.loaded.contains d.id = false from hfree.1]
      exact Bool.false_ne_true
    have hback : (c.pending.put d.id d).erase d.id = c.pending :=
      Dictionary.erase_put_of_not_mem hpending d
    dsimp only
    cases c.linkers.head.link d image with
    | error e =>
      refine .inl ⟨e, rfl, ⟨?_, ⟨[], ?_, rfl⟩, c.linkers.isLater_tail, ?_⟩, fun a ha => hlog ha⟩
      · exact (List.append_nil _).symm
      · exact (List.append_nil _).symm
      · show ({ c.afterCall with pending := (c.pending.put d.id d).erase d.id } : Context) = _
        rw [hback]
        rfl
    | ok linked =>
      refine .inr ⟨rfl, ⟨?_, ⟨[⟨d, image, c.nextHandle, _⟩], rfl, rfl⟩, c.linkers.isLater_tail, ?_⟩⟩
      · exact Dictionary.entries_put_of_not_mem hloaded d
      · simp only [Journaled.value_bind, Journaled.value_pure, addSlot, afterCall, hback]

end Context

/-! ## Loaders -/

namespace Loader

variable {l l' l'' : Loader} {ms ms' : List Placed} {d : Descriptor} {image : Image}
  {batch : List String}

/-- A module of a context as the registry holds it. -/
def asLoaded (l : Loader) (m : Placed) : Loaded :=
  m.asLoaded (l.isDynamic m.descriptor)

/-- The loader with another one for its dynamic or its static context. -/
def withContext (l : Loader) (isDynamic : Bool) (c : Context) : Loader :=
  { l with
    staticContext := if isDynamic then l.staticContext else c
    dynamicContext := if isDynamic then c else l.dynamicContext }

/-- A loader that came from another one by loading modules, in their order, and by nothing else:
each stands behind the others in the registry and in the context in which it belongs. -/
structure Adds (l : Loader) (ms : List Placed) (l' : Loader) : Prop where
  registry : l.registry.Adds (ms.map l.asLoaded) l'.registry
  context : ∀ isDynamic, (l.context isDynamic).Adds
    (ms.filter fun m => l.isDynamic m.descriptor == isDynamic) (l'.context isDynamic)
  frame : l' = { l with
    registry := l'.registry
    staticContext := l'.staticContext
    dynamicContext := l'.dynamicContext }

/-- No module is added. -/
theorem Adds.refl : l.Adds [] l :=
  ⟨.refl, fun _ => .refl, rfl⟩

/-- Adding modules does not change which ones are dynamic. -/
theorem Adds.isDynamic (h : l.Adds ms l') : l'.isDynamic = l.isDynamic := by
  rw [h.frame]
  rfl

/-- Some modules and then others are added. -/
theorem Adds.trans (h : l.Adds ms l') (h' : l'.Adds ms' l'') : l.Adds (ms ++ ms') l'' where
  registry := by
    have hlast := h'.registry
    unfold asLoaded at hlast
    rw [h.isDynamic] at hlast
    rw [List.map_append]
    exact h.registry.trans hlast
  context isDynamic := by
    have hlast := h'.context isDynamic
    rw [h.isDynamic] at hlast
    rw [List.filter_append]
    exact (h.context isDynamic).trans hlast
  frame := by
    have hframe := congrArg (fun k => { k with
      registry := l''.registry
      staticContext := l''.staticContext
      dynamicContext := l''.dynamicContext }) h.frame
    exact h'.frame.trans hframe

/-- A loader to which nothing was added is the same but for the calls of linkers. -/
theorem Adds.eq (h : l.Adds [] l') : l' = { l with
    staticContext := { l.staticContext with linkers := l'.staticContext.linkers }
    dynamicContext := { l.dynamicContext with linkers := l'.dynamicContext.linkers } } := by
  have hregistry : l'.registry = l.registry := h.registry.eq
  have hstatic : l'.staticContext = _ := (h.context false).eq
  have hdynamic : l'.dynamicContext = _ := (h.context true).eq
  have hframe := h.frame
  rw [hregistry, hstatic, hdynamic] at hframe
  exact hframe

/-- Modules that all belong in one context are added when they are added there and to the
registry. -/
theorem adds_withContext {isDynamic : Bool} {c : Context} {r : Registry}
    (hms : ∀ m ∈ ms, l.isDynamic m.descriptor = isDynamic) (hc : (l.context isDynamic).Adds ms c)
    (hr : l.registry.Adds (ms.map l.asLoaded) r) :
    l.Adds ms { l.withContext isDynamic c with registry := r } where
  registry := hr
  context other := by
    by_cases hother : other = isDynamic
    · have hall : (ms.filter fun m => l.isDynamic m.descriptor == other) = ms := by
        apply List.filter_eq_self.mpr
        intro m hm
        rw [hother, beq_iff_eq]
        exact hms m hm
      rw [hall, hother]
      cases isDynamic <;> exact hc
    · have hnone : (ms.filter fun m => l.isDynamic m.descriptor == other) = [] := by
        apply List.filter_eq_nil_iff.mpr
        intro m hm heq
        rw [beq_iff_eq, hms m hm] at heq
        exact hother heq.symm
      have hsame : context { l.withContext isDynamic c with registry := r } other =
          l.context other := by
        cases isDynamic <;> cases other <;> first | rfl | exact absurd rfl hother
      rw [hnone, hsame]
      exact .refl
  frame := by
    cases isDynamic <;> rfl

/-- A module is placed by the context in which it belongs. -/
theorem place_eq (l : Loader) (d : Descriptor) (image : Image) :
    l.place d image = (fun a => (a.1, l.withContext (l.isDynamic d) a.2)) <$>
      (l.context (l.isDynamic d)).load d image := by
  unfold place context withContext
  cases l.isDynamic d <;> rfl

/-- Why an inspected module cannot be loaded, if it cannot: the sandbox, a conflict, or what becomes
of it in its context. -/
def objection? (l : Loader) (d : Descriptor) (image : Image) (batch : List String) :
    Option LoadFailure :=
  match (l.vetReferences d batch).value with
  | .error e => some ⟨e, false⟩
  | .ok _ =>
    match l.registry.conflict? d with
    | some c => some ⟨c.error, c.isFatal⟩
    | none =>
      match ((l.context (l.isDynamic d)).load d image).value.1 with
      | .error e => some ⟨e, false⟩
      | .ok _ => none

/-- A fatal objection is one to a name of the core. -/
theorem error_of_objection {f : LoadFailure} (hf : l.objection? d image batch = some f)
    (hfatal : f.isFatal = true) :
    ∃ name ∈ d.names, name ∈ l.registry.core ∧
      f.error = .conflict d.id (.identity name .core) := by
  unfold objection? at hf
  split at hf
  · obtain rfl := Option.some.inj hf
    cases hfatal
  · split at hf
    · next hc =>
      obtain rfl := Option.some.inj hf
      exact Registry.error_of_isFatal hc hfatal
    · split at hf
      · obtain rfl := Option.some.inj hf
        cases hfatal
      · cases hf

/-- What becomes of a claim when the context in which its module belongs has answered. -/
def conclude (l : Loader) (d : Descriptor) :
    Result Handle × Context → Journaled Activity (Result Handle × Loader)
  | (.ok h, c) => return (.ok h, { l.withContext (l.isDynamic d) c with
      registry := l.registry.add d (l.isDynamic d) h })
  | (.error e, c) => do
    let _ ← ((l.registry.addPending d (l.isDynamic d)).giveUp d.id).mapJournal .logged
    return (.error e, l.withContext (l.isDynamic d) c)

/-- A claim becomes a loaded module, or it is given up, and nothing is left of it. -/
theorem settle_eq (hfree : l.registry.contains d.id = false) :
    settle { l with registry := l.registry.addPending d (l.isDynamic d) } d image =
      (l.context (l.isDynamic d)).load d image >>= l.conclude d := by
  have hpromote (h : Handle) : (l.registry.addPending d (l.isDynamic d)).promote d.id h =
      .ok (l.registry.add d (l.isDynamic d) h) := Registry.promote_addPending hfree
  have hgiveUp : ((l.registry.addPending d (l.isDynamic d)).giveUp d.id).value =
      (true, l.registry) := Registry.value_giveUp_addPending hfree
  unfold settle
  rw [place_eq, bind_map_left]
  apply bind_congr
  rintro ⟨r, c⟩
  cases r with
  | ok h =>
    simp only [withContext, hpromote]
    rfl
  | error e =>
    apply Journaled.ext
    · show (Except.error e, { l.withContext (l.isDynamic d) c with
        registry := ((l.registry.addPending d (l.isDynamic d)).giveUp d.id).value.2 }) = _
      rw [hgiveUp]
      rfl
    · rfl

/-- If the context refuses the module of a claim, nothing is added and no hook is called. -/
theorem meets_settle_of_error (hfree : l.registry.contains d.id = false) {e : Error}
    (he : ((l.context (l.isDynamic d)).load d image).value.1 = .error e) :
    (settle { l with registry := l.registry.addPending d (l.isDynamic d) } d image).Meets IsLogged
      fun a => a.1 = .error e ∧ l.Adds [] a.2 := by
  rcases (l.context (l.isDynamic d)).adds_load d image with ⟨-, -, hc, hlogged⟩ | ⟨hr, -⟩
  case inr => exact nomatch he.symm.trans hr
  have hload : ((l.context (l.isDynamic d)).load d image).Meets IsLogged
      fun a => a.1 = .error e ∧ (l.context (l.isDynamic d)).Adds [] a.2 := ⟨hlogged, he, hc⟩
  rw [settle_eq hfree]
  refine hload.bind ?_
  rintro ⟨-, c⟩ ⟨rfl, hc⟩
  refine Meets.bind (Q := fun _ => True) (.mapJournal isLogged_logged trivial) fun _ _ => ?_
  exact .pure ⟨rfl, adds_withContext (fun _ => nofun) hc .refl⟩

/-- If the context loads the module of a claim, it is added. -/
theorem adds_settle (hfree : l.registry.contains d.id = false) {h : Handle}
    (hh : ((l.context (l.isDynamic d)).load d image).value.1 = .ok h) :
    let answer := (settle { l with
      registry := l.registry.addPending d (l.isDynamic d) } d image).value
    answer.1 = .ok (l.layout.nextHandle d) ∧
      l.Adds [⟨d, image, l.layout.nextHandle d⟩] answer.2 := by
  have hid : d.id ∉ l.registry.loaded.keys :=
    ((Registry.contains_eq_false_iff l.registry d.id).mp hfree).2.2
  have hnext : (l.context (l.isDynamic d)).nextHandle = l.layout.nextHandle d := by
    rw [← Context.nextHandle_layout, layout_context]
    rfl
  rcases (l.context (l.isDynamic d)).adds_load d image with ⟨e, he, -⟩ | ⟨hr, hc⟩
  case inl => exact nomatch hh.symm.trans he
  rw [hnext] at hr hc
  rw [settle_eq hfree, Journaled.value_bind]
  generalize ((l.context (l.isDynamic d)).load d image).value = answer at hr hc ⊢
  obtain ⟨r, c⟩ := answer
  obtain rfl : r = .ok _ := hr
  refine ⟨rfl, adds_withContext ?_ hc (Registry.adds_add hid _ _)⟩
  intro m hm
  rw [List.mem_singleton.mp hm]

/-- A load to which there is an objection fails with it, adds nothing and calls no hook. -/
theorem meets_loadInspected_of_objection {f : LoadFailure}
    (hf : l.objection? d image batch = some f) :
    (l.loadInspected d image batch).Meets IsLogged fun a => a.1 = .error f ∧ l.Adds [] a.2 := by
  have hvet : (l.vetReferences d batch).Meets IsLogged
      fun r => r = (l.vetReferences d batch).value := by
    refine ⟨?_, rfl⟩
    unfold vetReferences
    split
    · split
      · exact fun a ha => ⟨_, List.mem_singleton.mp ha⟩
      · exact fun a ha => absurd ha List.not_mem_nil
    · exact fun a ha => absurd ha List.not_mem_nil
  have hreserve : ((l.registry.reserve d (l.isDynamic d)).mapJournal Activity.logged).Meets
      IsLogged fun r => r = (l.registry.reserve d (l.isDynamic d)).value :=
    .mapJournal isLogged_logged rfl
  unfold objection? at hf
  refine hvet.bind ?_
  rintro r rfl
  cases hv : (l.vetReferences d batch).value with
  | error e =>
    rw [hv] at hf
    obtain rfl := Option.some.inj hf
    exact .pure ⟨rfl, .refl⟩
  | ok _ =>
    rw [hv] at hf
    refine hreserve.bind ?_
    rintro r rfl
    rw [Registry.value_reserve]
    cases hc : l.registry.conflict? d with
    | some c =>
      rw [hc] at hf
      obtain rfl := Option.some.inj hf
      exact .pure ⟨rfl, .refl⟩
    | none =>
      rw [hc] at hf
      have hfree := ((Registry.conflict?_eq_none_iff l.registry d).mp hc).2.2.1
      cases hload : ((l.context (l.isDynamic d)).load d image).value.1 with
      | ok h =>
        rw [hload] at hf
        cases hf
      | error e =>
        rw [hload] at hf
        obtain rfl := Option.some.inj hf
        refine (meets_settle_of_error hfree hload).bind ?_
        rintro ⟨-, l'⟩ ⟨rfl, hl⟩
        exact .pure ⟨rfl, hl⟩

/-- A load to which there is no objection adds the module. -/
theorem adds_loadInspected (hf : l.objection? d image batch = none) :
    (l.loadInspected d image batch).value.1 = .ok (l.layout.nextHandle d) ∧
      l.Adds [⟨d, image, l.layout.nextHandle d⟩] (l.loadInspected d image batch).value.2 := by
  unfold objection? at hf
  cases hv : (l.vetReferences d batch).value with
  | error e =>
    rw [hv] at hf
    cases hf
  | ok _ =>
    rw [hv] at hf
    cases hc : l.registry.conflict? d with
    | some c =>
      rw [hc] at hf
      cases hf
    | none =>
      rw [hc] at hf
      have hfree := ((Registry.conflict?_eq_none_iff l.registry d).mp hc).2.2.1
      cases hload : ((l.context (l.isDynamic d)).load d image).value.1 with
      | error e =>
        rw [hload] at hf
        cases hf
      | ok h =>
        obtain ⟨hr, hl⟩ := adds_settle hfree hload
        unfold loadInspected
        simp only [Journaled.value_bind, hv, Journaled.value_mapJournal, Registry.value_reserve, hc,
          Journaled.value_pure, hr]
        exact ⟨rfl, hl⟩

end Loader

end ModuleRuntime.Module
