import Mathlib.Data.List.Nodup
import ModuleRuntime.Proofs.Context.Request
import ModuleRuntime.Proofs.Loading.InStep

/-!
# What a context holds

What was loaded into a context, with the handles that the loads answered and the entry points that
the linkers gave. A load that succeeds adds a module behind the others, an unload drops all of them
and begins the next generation, and nothing else changes which modules there are. No two entry
points in a context are the same as long as handles can tell its modules apart.
-/

set_option autoImplicit false

namespace ModuleRuntime.Module

/-- A module that was loaded: the handle that the load answered with, what it was given, and the
entry points that the linker answered with. -/
structure Loading where
  handle : Handle
  descriptor : Descriptor
  image : Image
  addressees : List Addressee

/-- What was loaded into a slot. -/
def Slot.loading (s : Slot) : Loading :=
  ⟨s.handle, s.descriptor, s.image, s.hosts.map (·.addressee)⟩

/-- The entry points of a module have its handle, and no two of them are the same. -/
structure Loading.IsProper (g : Loading) : Prop where
  handle : ∀ a ∈ g.addressees, a.handle = g.handle
  nodup : g.addressees.Nodup

namespace Context

variable {c : Context} {r : Request} {g : Loading}

/-- What was loaded into the slots of a context, in their order. -/
def content (c : Context) : List Loading :=
  c.slots.map Slot.loading

/-- The content has one entry for each module. -/
theorem length_content (c : Context) : c.content.length = c.moduleCount :=
  List.length_map ..

/-- The addresses of the hosts are those in the content. -/
theorem map_addressee_hosts (c : Context) :
    c.hosts.map (·.addressee) = c.content.flatMap (·.addressees) := by
  unfold hosts content
  rw [List.map_flatMap, List.flatMap_map]
  rfl

/-- What a request loads, if it is a load and succeeds. -/
def loading? (c : Context) : Request → Option Loading
  | .load d image =>
    match (c.load d image).value.1, c.linkers.head.link d image with
    | .ok handle, .ok linked => some ⟨handle, d, image,
        linked.entryPoints.zipIdx.map fun (entry, index) => ⟨handle, index, entry⟩⟩
    | _, _ => none
  | _ => none

/-- Whether a request unloads the context. -/
def isUnloadedBy (c : Context) : Request → Bool
  | .unload => c.unload.value.1.isOk
  | _ => false

/-- What several requests load, in their order. -/
def loadings (c : Context) : List Request → List Loading
  | [] => []
  | r :: rest => (c.loading? r).toList ++ (c.perform r).value.loadings rest

/-- How often several requests unload the context. -/
def unloads (c : Context) : List Request → Nat
  | [] => 0
  | r :: rest => (c.isUnloadedBy r).toNat + (c.perform r).value.unloads rest

/-- The modules that some requests load and then others. -/
theorem loadings_append (c : Context) (requests more : List Request) :
    c.loadings (requests ++ more) =
      c.loadings requests ++ (c.run requests).value.loadings more := by
  induction requests generalizing c with
  | nil => rfl
  | cons r rest ih =>
    rw [List.cons_append, loadings, loadings, ih, List.append_assoc]
    rfl

/-- The unloads among some requests and then among others. -/
theorem unloads_append (c : Context) (requests more : List Request) :
    c.unloads (requests ++ more) =
      c.unloads requests + (c.run requests).value.unloads more := by
  induction requests generalizing c with
  | nil => exact (Nat.zero_add _).symm
  | cons r rest ih =>
    rw [List.cons_append, unloads, unloads, ih, Nat.add_assoc]
    rfl

/-! ## Loads -/

/-- The hosts of new entry points. -/
def newHosts (c : Context) (id : String) (entryPoints : List EntryPoint) : List Host :=
  entryPoints.zipIdx.map fun (entry, index) => ⟨c.nextHandle, id, index, entry, .uninitialized⟩

/-- Creating the hosts of a module comes to creating each of its entry points. -/
theorem createHosts_eq (c : Context) (id : String) (entryPoints : List EntryPoint) :
    (c.createHosts id entryPoints).value = c.newHosts id entryPoints ∧
      calls (c.createHosts id entryPoints).journal =
        ((c.newHosts id entryPoints).map (·.addressee)).flatMap
          (·.creationCalls c.dependencies c.callbacks) := by
  unfold createHosts newHosts
  rw [Journaled.value_mapM, Journaled.journal_mapM, calls_flatMap, List.map_map, List.flatMap_map]
  exact ⟨rfl, rfl⟩

/-- The addresses of the new hosts count the entry points. -/
theorem addressee_newHosts (c : Context) (id : String) (entryPoints : List EntryPoint) :
    (c.newHosts id entryPoints).map (·.addressee) =
      entryPoints.zipIdx.map fun (entry, index) => ⟨c.nextHandle, index, entry⟩ :=
  List.map_map

/-- The indices of new entry points tell them apart. -/
theorem isProper_newHosts (c : Context) (d : Descriptor) (image : Image)
    (entryPoints : List EntryPoint) :
    (⟨c.nextHandle, d, image, (c.newHosts d.id entryPoints).map (·.addressee)⟩ :
      Loading).IsProper where
  handle a ha := by
    rw [addressee_newHosts] at ha
    obtain ⟨_, -, rfl⟩ := List.mem_map.mp ha
    rfl
  nodup := by
    have hindices : ((c.newHosts d.id entryPoints).map (·.addressee)).map (·.index) =
        List.range' 0 entryPoints.length := by
      rw [addressee_newHosts, List.map_map]
      exact List.zipIdx_map_snd 0 entryPoints
    refine List.Nodup.of_map (·.index) ?_
    rw [hindices]
    exact List.nodup_range'

/-- A load either fails, which calls no hook and leaves the slots as they are, or it adds a slot
with new entry points. -/
theorem load_eq (c : Context) (d : Descriptor) (image : Image) :
    (∃ e c' entry, c.load d image = ⟨(.error e, c'), [.logged entry]⟩ ∧ c'.slots = c.slots) ∨
      ∃ linked c', c.linkers.head.link d image = .ok linked ∧
        (c.load d image).value = (.ok c.nextHandle, c') ∧
        c'.slots = c.slots ++ [⟨d, image, c.nextHandle, c.newHosts d.id linked.entryPoints⟩] ∧
        calls (c.load d image).journal =
          ((c.newHosts d.id linked.entryPoints).map (·.addressee)).flatMap
            (·.creationCalls c.dependencies c.callbacks) := by
  unfold load
  -- A module that is there, or is being loaded, is refused before the linker is asked.
  split
  · exact .inl ⟨_, _, _, rfl, rfl⟩
  · dsimp only
    cases c.linkers.head.link d image with
    | error e => exact .inl ⟨_, _, _, rfl, rfl⟩
    | ok linked =>
      obtain ⟨hvalue, hcalls⟩ := createHosts_eq
        { c.afterCall with pending := c.pending.put d.id d } d.id linked.entryPoints
      refine .inr ⟨linked, _, rfl, rfl, ?_, ?_⟩
      · unfold addSlot
        rw [hvalue]
        rfl
      · simp only [Journaled.journal_bind, Journaled.journal_pure, List.append_nil, calls_append,
          hcalls]
        exact List.append_nil _

/-- What is seen of a load: if it succeeds, new entry points get their first calls. -/
theorem load_course (c : Context) (d : Descriptor) (image : Image) :
    (c.loading? (.load d image) = none ∧ (c.load d image).value.2.slots = c.slots ∧
        calls (c.load d image).journal = []) ∨
      ∃ s, c.loading? (.load d image) = some s.loading ∧
        (c.load d image).value.2.slots = c.slots ++ [s] ∧ s.handle = c.nextHandle ∧
        s.loading.IsProper ∧ (∀ h ∈ s.hosts, h.state = .uninitialized) ∧
        calls (c.load d image).journal =
          s.loading.addressees.flatMap (·.creationCalls c.dependencies c.callbacks) := by
  rcases c.load_eq d image with
    ⟨e, c', entry, hload, hslots⟩ | ⟨linked, c', hlink, hvalue, hslots, hcalls⟩
  · left
    simp only [loading?, hload]
    exact ⟨trivial, hslots, rfl⟩
  · right
    refine ⟨⟨d, image, c.nextHandle, c.newHosts d.id linked.entryPoints⟩, ?_, ?_, rfl,
      c.isProper_newHosts d image linked.entryPoints, ?_, hcalls⟩
    · simp only [loading?, Slot.loading, hvalue, hlink, addressee_newHosts]
    · rw [hvalue]
      exact hslots
    · intro h hh
      obtain ⟨_, -, rfl⟩ := List.mem_map.mp hh
      rfl

/-- A module that is loaded gets the next handle, and its entry points are its own. -/
theorem loading?_eq_some (h : c.loading? r = some g) : g.handle = c.nextHandle ∧ g.IsProper := by
  cases r with
  | load d image =>
    rcases c.load_course d image with ⟨hnone, -⟩ | ⟨s, hsome, -, hhandle, hproper, -⟩
    · rw [hnone] at h
      cases h
    · rw [hsome] at h
      cases h
      exact ⟨hhandle, hproper⟩
  | _ => cases h

/-! ## What requests change -/

/-- Whatever entry points do, the modules stay what they are. -/
theorem content_forEach {f : Host → Journaled Activity Host} (hf : ∀ h : Host, h.Moves (f h)) :
    (c.forEach f).value.content = c.content := by
  unfold forEach content
  simp only [Journaled.value_bind, Journaled.value_pure, Journaled.value_mapM, List.map_map]
  refine List.map_congr_left fun s _ => ?_
  unfold Slot.loading
  rw [Function.comp_apply, Host.map_addressee fun h => (hf h).addressee]

/-- Entering a level does not change which modules there are. -/
theorem content_enterLevel (c : Context) (level : RunLevel) :
    (c.enterLevel level).value.content = c.content := by
  unfold enterLevel
  split
  · rfl
  · exact content_forEach fun h => h.moves_enter level _

/-- A shutdown comes to a teardown, up to what is logged. -/
theorem shutdown_eq (c : Context) : c.shutdown.value = c.tearDown.value ∧
    calls c.shutdown.journal = calls c.tearDown.journal := by
  unfold shutdown
  rw [Journaled.journal_bind, calls_append]
  exact ⟨rfl, List.append_nil _⟩

/-- A teardown does not change which modules there are. -/
theorem content_tearDown (c : Context) : c.tearDown.value.content = c.content := by
  unfold tearDown
  rw [Journaled.value_bind, content_forEach fun h => h.moves_dispose.ite,
    content_forEach fun h => h.moves_shutdown.ite]

/-- An unload tears the entry points down and drops the modules. -/
theorem unload_of_supportsReload (h : c.supportsReload = true) :
    c.isUnloadedBy .unload = true ∧ (c.perform .unload).value = c.tearDown.value.emptied ∧
      calls (c.perform .unload).journal = calls c.tearDown.journal := by
  unfold perform isUnloadedBy unload
  rw [if_pos h, Journaled.journal_map, Journaled.journal_bind, calls_append]
  exact ⟨rfl, rfl, List.append_nil _⟩

/-- A context that does not support reloads refuses to be unloaded. -/
theorem unload_of_not_supportsReload (h : c.supportsReload = false) :
    ∃ entry, c.unload = ⟨(.error (.misplaced (.unloading c.name)), c), [.logged entry]⟩ := by
  unfold unload
  rw [if_neg (by rw [h]; exact Bool.false_ne_true)]
  exact ⟨_, rfl⟩

/-- What a request does to the entry points of a context, with the hooks that are called. -/
inductive Acts (c : Context) (r : Request) : List HookCall → List Host → Prop where
  | rest : Acts c r [] c.hosts
  | create {new : List Host} (hnew : ∀ h ∈ new, h.state = .uninitialized) :
      Acts c r ((new.map (·.addressee)).flatMap (·.creationCalls c.dependencies c.callbacks))
        (c.hosts ++ new)
  | goOn {f : Host → Journaled Activity Host} (hmoves : ∀ h : Host, h.Moves (f h))
      (hgoes : ∀ h : Host, h.GoesOn (f h)) :
      Acts c r (c.hosts.flatMap fun h => calls (f h).journal) (c.hosts.map fun h => (f h).value)
  | notify {hook : Hook} (hnotice : c.notice? r = some hook) :
      Acts c r ((c.hosts.filter (·.entry.isListener)).map fun h => h.addressee.call hook) c.hosts
  | tearDown (hr : r = .shutdown) : Acts c r (calls c.tearDown.journal) c.tearDown.value.hosts
  | unload (hr : r = .unload) : Acts c r (calls c.tearDown.journal) []

/-- Every request does one of the six things. -/
theorem acts_perform (c : Context) (r : Request) :
    c.Acts r (calls (c.perform r).journal) (c.perform r).value.hosts := by
  -- Notices first: whether a request is one hangs on the context and not on the request alone.
  cases hnotice : c.notice? r with
  | some hook =>
    obtain ⟨hvalue, hcalls⟩ := perform_of_notice hnotice
    rw [hvalue, hcalls]
    exact .notify hnotice
  | none =>
    cases r with
    | load d image =>
      show c.Acts _ (calls (Prod.snd <$> c.load d image).journal) (c.load d image).value.2.hosts
      rw [Journaled.journal_map]
      rcases c.load_course d image with ⟨-, hslots, hcalls⟩ | ⟨s, -, hslots, -, -, hnew, hcalls⟩
      · rw [hcalls, hosts, hslots]
        exact .rest
      · rw [hcalls, hosts, hslots, List.flatMap_append, List.flatMap_singleton]
        exact .create hnew
    | enterLevel level =>
      show c.Acts _ (calls (c.enterLevel level).journal) (c.enterLevel level).value.hosts
      unfold enterLevel
      split
      · exact .rest
      · rw [calls_forEach, hosts_forEach]
        exact .goOn (fun h => h.moves_enter level _) fun h => h.goesOn_enter level _
    | update level frame =>
      have hact := Acts.goOn (c := c) (r := .update level frame)
        (fun h => h.moves_update level frame) fun h => h.goesOn_update level frame
      show c.Acts _ (calls ((fun _ => c) <$> c.update level frame).journal) c.hosts
      unfold update
      rw [Journaled.journal_map, calls_tellEach]
      simpa only [Journaled.journal_map, Journaled.value_map, List.map_id'] using hact
    | announceReload =>
      rw [(perform_of_not_supportsReload (by simpa [notice?] using hnotice)).1]
      exact .rest
    | announceReloadEnd =>
      rw [(perform_of_not_supportsReload (by simpa [notice?] using hnotice)).2]
      exact .rest
    | shutdown =>
      obtain ⟨hvalue, hcalls⟩ := c.shutdown_eq
      show c.Acts _ (calls c.shutdown.journal) c.shutdown.value.hosts
      rw [hvalue, hcalls]
      exact .tearDown rfl
    | unload =>
      cases hsupports : c.supportsReload with
      | true =>
        obtain ⟨-, hvalue, hcalls⟩ := unload_of_supportsReload hsupports
        rw [hvalue, hcalls]
        exact .unload rfl
      | false =>
        obtain ⟨entry, hunload⟩ := unload_of_not_supportsReload hsupports
        show c.Acts _ (calls (Prod.snd <$> c.unload).journal) c.unload.value.2.hosts
        rw [Journaled.journal_map, hunload]
        exact .rest
    | _ => exact .rest

/-- A load adds a module behind the others if it succeeds, and an unload drops all modules. -/
theorem content_perform (c : Context) (r : Request) :
    (c.perform r).value.content =
      if c.isUnloadedBy r then [] else c.content ++ (c.loading? r).toList := by
  have hsame {r : Request} (hload : c.loading? r = none) (hunload : c.isUnloadedBy r = false) :
      c.content = if c.isUnloadedBy r then [] else c.content ++ (c.loading? r).toList := by
    rw [hload, hunload]
    exact (List.append_nil _).symm
  cases r with
  | load d image =>
    unfold perform content
    rw [Journaled.value_map]
    rcases c.load_course d image with ⟨hnone, hslots, -⟩ | ⟨s, hsome, hslots, -⟩
    · rw [hslots]
      exact hsame hnone rfl
    · rw [hslots, hsome, List.map_append]
      rfl
  | enterLevel level => exact (c.content_enterLevel level).trans (hsame rfl rfl)
  | shutdown => exact c.content_tearDown.trans (hsame rfl rfl)
  | unload =>
    cases hsupports : c.supportsReload with
    | true =>
      obtain ⟨hunloaded, hvalue, -⟩ := unload_of_supportsReload hsupports
      rw [hunloaded, hvalue]
      rfl
    | false =>
      obtain ⟨entry, hunload⟩ := unload_of_not_supportsReload hsupports
      unfold perform
      rw [hunload]
      refine hsame rfl ?_
      unfold isUnloadedBy
      rw [hunload]
      rfl
  | _ => exact hsame rfl rfl

/-- To the layout of a context a request does one of three things: it empties it, it adds a module,
or it leaves it as it is. -/
theorem layout_perform (c : Context) (r : Request) :
    (c.isUnloadedBy r = true ∧ (c.perform r).value.layout = c.layout.emptied) ∨
      c.isUnloadedBy r = false ∧ ((c.perform r).value.layout = c.layout ∨
        ∃ d image, c.contains d.id = false ∧
          (c.perform r).value.layout = c.layout.add d image) := by
  cases r with
  | load d image =>
    rcases c.load_cases d image with ⟨e, -, hl⟩ | ⟨-, hnew, hl⟩
    · exact .inr ⟨rfl, .inl hl⟩
    · exact .inr ⟨rfl, .inr ⟨d, image, hnew, hl⟩⟩
  | enterLevel level => exact .inr ⟨rfl, .inl (c.layout_enterLevel level)⟩
  | shutdown => exact .inr ⟨rfl, .inl c.layout_shutdown⟩
  | unload =>
    cases hsupports : c.supportsReload with
    | true =>
      exact .inl ⟨(unload_of_supportsReload hsupports).1, (c.value_unload hsupports).2⟩
    | false =>
      obtain ⟨entry, hunload⟩ := unload_of_not_supportsReload hsupports
      right
      unfold perform isUnloadedBy
      rw [hunload]
      exact ⟨rfl, .inl rfl⟩
  | _ => exact .inr ⟨rfl, .inl rfl⟩

/-- A request keeps the id of a context and whether it supports reloads, and begins the next
generation iff it unloads the context. -/
theorem frame_perform (c : Context) (r : Request) :
    (c.perform r).value.id = c.id ∧ (c.perform r).value.supportsReload = c.supportsReload ∧
      (c.perform r).value.generation =
        if c.isUnloadedBy r then c.generation + 1 else c.generation := by
  have hparts {l : Layout} (hl : (c.perform r).value.layout = l) :
      (c.perform r).value.id = l.id ∧ (c.perform r).value.supportsReload = l.supportsReload ∧
        (c.perform r).value.generation = l.generation :=
    ⟨congrArg Layout.id hl, congrArg Layout.supportsReload hl, congrArg Layout.generation hl⟩
  rcases c.layout_perform r with ⟨hu, hl⟩ | ⟨hu, hl | ⟨d, image, -, hl⟩⟩
  · rw [hu]
    exact hparts hl
  · rw [hu]
    exact hparts hl
  · rw [hu]
    exact hparts hl

/-- No request renames a context. -/
theorem name_perform (c : Context) (r : Request) : (c.perform r).value.name = c.name := by
  cases r with
  | load d image =>
    show (c.load d image).value.2.name = c.name
    unfold load
    split
    · rfl
    · dsimp only
      split <;> rfl
  | enterLevel level =>
    show (c.enterLevel level).value.name = c.name
    unfold enterLevel
    split <;> rfl
  | unload =>
    show c.unload.value.2.name = c.name
    unfold unload
    split <;> rfl
  | _ => rfl

/-! ## What runs change -/

/-- A run keeps the id and the name of a context and whether it supports reloads. -/
theorem frame_run (c : Context) (requests : List Request) :
    (c.run requests).value.id = c.id ∧ (c.run requests).value.name = c.name ∧
      (c.run requests).value.supportsReload = c.supportsReload :=
  run_induction
    (P := fun c' => c'.id = c.id ∧ c'.name = c.name ∧ c'.supportsReload = c.supportsReload)
    (fun c' r h => ⟨(c'.frame_perform r).1.trans h.1, (c'.name_perform r).trans h.2.1,
      (c'.frame_perform r).2.1.trans h.2.2⟩)
    ⟨rfl, rfl, rfl⟩ requests

/-- As long as nothing unloads the context, it keeps what it holds and adds what is loaded. -/
theorem content_run (requests : List Request) (h : c.unloads requests = 0) :
    (c.run requests).value.content = c.content ++ c.loadings requests := by
  induction requests generalizing c with
  | nil => exact (List.append_nil _).symm
  | cons r rest ih =>
    obtain ⟨hr, hrest⟩ := Nat.add_eq_zero_iff.mp h
    have hkept : c.isUnloadedBy r = false := Bool.toNat_eq_zero.mp hr
    rw [run_cons, Journaled.value_bind, ih hrest, content_perform, hkept, loadings,
      ← List.append_assoc]
    rfl

/-- What always holds of a context and its entry points: its handles name the places of its modules,
and the entry points of each module are its own. -/
structure IsSound (c : Context) : Prop where
  tidy : c.layout.IsTidy
  proper : ∀ g ∈ c.content, g.IsProper

/-- A new context has no modules that could be out of place. -/
theorem isSound_new (id : UInt32) (name : String) (supportsReload : Bool)
    (linkers : LinkerSequence) : (new id name supportsReload linkers).IsSound where
  tidy := ⟨rfl, rfl, fun _ _ hm => nomatch hm⟩
  proper _ hg := absurd hg List.not_mem_nil

/-- Every request keeps a context sound. -/
theorem IsSound.perform (hc : c.IsSound) (r : Request) : (c.perform r).value.IsSound where
  tidy := by
    rcases c.layout_perform r with ⟨-, hl⟩ | ⟨-, hl | ⟨d, image, hnew, hl⟩⟩
    · rw [hl]
      exact c.layout.isTidy_emptied
    · rw [hl]
      exact hc.tidy
    · rw [hl]
      refine hc.tidy.add ?_ image
      rw [← Dictionary.contains_iff]
      exact Bool.eq_false_iff.mp hnew
  proper := by
    intro g hg
    rw [content_perform] at hg
    split at hg
    · exact absurd hg List.not_mem_nil
    · rcases List.mem_append.mp hg with hg | hg
      · exact hc.proper g hg
      · exact (loading?_eq_some (Option.mem_toList.mp hg)).2

/-- By induction on the requests. -/
theorem IsSound.run (hc : c.IsSound) (requests : List Request) :
    (c.run requests).value.IsSound :=
  run_induction (fun _ r hc => hc.perform r) hc requests

/-- The place of a module decides on its handle. -/
theorem IsSound.handle (hc : c.IsSound) {i : Nat} (hi : c.content[i]? = some g) :
    g.handle = ⟨c.id, c.generation, UInt32.ofNat i⟩ := by
  unfold content at hi
  rw [List.getElem?_map, Option.map_eq_some_iff] at hi
  obtain ⟨s, hs, rfl⟩ := hi
  refine hc.tidy.handle i s.placed ?_
  show (c.slots.map Slot.placed)[i]? = _
  rw [List.getElem?_map, hs]
  rfl

/-- As long as handles can tell the modules apart, no two of them have the same handle. -/
theorem IsSound.nodup_handles (hc : c.IsSound) (hfits : c.moduleCount ≤ 2 ^ 32) :
    (c.content.map (·.handle)).Nodup := by
  rw [← length_content] at hfits
  rw [List.nodup_iff_injective_getElem]
  rintro ⟨i, hi⟩ ⟨j, hj⟩ heq
  -- A handle is the place of its module, which fits into a word.
  rw [List.length_map] at hi hj
  simp only [List.getElem_map] at heq
  rw [hc.handle (List.getElem?_eq_getElem hi), hc.handle (List.getElem?_eq_getElem hj)] at heq
  have hslot := congrArg UInt32.toNat (Handle.mk.inj heq).2.2
  rw [UInt32.toNat_ofNat_of_lt' (Nat.lt_of_lt_of_le hi hfits),
    UInt32.toNat_ofNat_of_lt' (Nat.lt_of_lt_of_le hj hfits)] at hslot
  exact Fin.ext hslot

/-- As long as handles can tell the modules apart, no two entry points are the same. -/
theorem IsSound.nodup_addressees (hc : c.IsSound) (hfits : c.moduleCount ≤ 2 ^ 32) :
    (c.content.flatMap (·.addressees)).Nodup := by
  rw [List.nodup_flatMap]
  refine ⟨fun g hg => (hc.proper g hg).nodup, ?_⟩
  refine (List.pairwise_map.mp (hc.nodup_handles hfits)).imp_of_mem fun hg hg' hne a ha ha' => ?_
  exact hne (((hc.proper _ hg).handle a ha).symm.trans ((hc.proper _ hg').handle a ha'))

end Context

/-! ## A small host -/

/-- A module of which nothing is known but its assembly. -/
def Descriptor.bare (assembly : String) : Descriptor :=
  ⟨assembly, assembly, false, true, false, [], .empty, .release 1 0 0, none, "", none⟩

/-- A load of such a module. -/
def Context.Request.bare (assembly : String) : Context.Request :=
  .load (.bare assembly) ⟨[], none⟩

/-- The linker of a host with a module `A` of two entry points, of which the first listens to
reloads, and a module `B` of one. -/
def Linker.ofTwoModules : Linker :=
  .ofTable (.ofList [("A", [⟨"a", false, true⟩, ⟨"a", true, false⟩]), ("B", [⟨"b", true, false⟩])])

end ModuleRuntime.Module
