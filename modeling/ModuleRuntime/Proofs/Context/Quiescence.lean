import ModuleRuntime.Proofs.Context.Teardown
import ModuleRuntime.Proofs.Loading.Course

/-!
# Quiescent contexts

Between any two things that loaders do with a context, its modules stand in the order in which they
were loaded, the entry points of each in the order of its manifest, and whoever was shut down has
been disposed of as well. So a teardown disposes of exactly those that it shuts down.
-/

set_option autoImplicit false

namespace ModuleRuntime.Module

/-- The entry points of a module have its handle and stand in the order of its manifest. -/
def Slot.IsInOrder (s : Slot) : Prop :=
  s.hosts.map (fun h => (h.handle, h.index)) =
    (List.range s.hosts.length).map fun index => (s.handle, index)

namespace Context

variable {c c' : Context}

/-- The modules of a context stand in the order in which they were loaded, which their handles
count, and the entry points of each in the order of its manifest. -/
structure InOrder (c : Context) : Prop where
  modules : c.handles =
    (List.range c.moduleCount).map fun i => ⟨c.id, c.generation, UInt32.ofNat i⟩
  entryPoints : ∀ s ∈ c.slots, s.IsInOrder

/-- What holds of a context when no operation is under way: the entry points of each module stand in
order, and whoever was shut down has been disposed of as well. -/
structure IsQuiescent (c : Context) : Prop where
  entryPoints : ∀ s ∈ c.slots, s.IsInOrder
  ended : ∀ h ∈ c.hosts, h.state.isUp = true ∨ h.state = .disposed

/-- New entry points stand in the order of the manifest. -/
theorem isInOrder_newHosts (c : Context) (d : Descriptor) (image : Image)
    (entryPoints : List EntryPoint) :
    (⟨d, image, c.nextHandle, c.newHosts d.id entryPoints⟩ : Slot).IsInOrder := by
  have hindices : entryPoints.zipIdx.map Prod.snd = List.range entryPoints.length := by
    rw [List.zipIdx_map_snd, List.range_eq_range']
  unfold Slot.IsInOrder newHosts
  rw [List.length_map, List.length_zipIdx, ← hindices, List.map_map, List.map_map]
  rfl

/-- Whatever entry points do, they stay in order. -/
theorem isInOrder_forEach (hc : ∀ s ∈ c.slots, s.IsInOrder) {f : Host → Journaled Activity Host}
    (hf : ∀ h, (f h).value.addressee = h.addressee) :
    ∀ s ∈ (c.forEach f).value.slots, s.IsInOrder := by
  have hsame (h : Host) : ((f h).value.handle, (f h).value.index) = (h.handle, h.index) :=
    congrArg (fun a : Addressee => (a.handle, a.index)) (hf h)
  intro s' hs'
  rw [slots_forEach] at hs'
  obtain ⟨s, hs, rfl⟩ := List.mem_map.mp hs'
  unfold Slot.IsInOrder
  dsimp only
  rw [List.map_map, List.length_map, ← hc s hs]
  exact List.map_congr_left fun h _ => hsame h

/-- A load adds entry points in order that have not even started. -/
theorem IsQuiescent.load (hc : c.IsQuiescent) (d : Descriptor) (image : Image) :
    (c.load d image).value.2.IsQuiescent := by
  rcases c.load_eq d image with ⟨e, c', entry, hload, hslots⟩ | ⟨linked, c', -, hvalue, hslots, -⟩
  · rw [hload]
    refine ⟨fun s hs => hc.entryPoints s (hslots ▸ hs), fun h hh => hc.ended h ?_⟩
    unfold hosts at hh ⊢
    exact hslots ▸ hh
  · rw [hvalue]
    constructor
    · intro s hs
      change s ∈ c'.slots at hs
      rw [hslots] at hs
      rcases List.mem_append.mp hs with hs | hs
      · exact hc.entryPoints s hs
      · rw [List.mem_singleton.mp hs]
        exact c.isInOrder_newHosts d image linked.entryPoints
    · intro h hh
      change h ∈ c'.slots.flatMap (·.hosts) at hh
      rw [hslots, List.flatMap_append, List.flatMap_singleton] at hh
      rcases List.mem_append.mp hh with hh | hh
      · exact hc.ended h hh
      · -- A new entry point has not even started.
        obtain ⟨_, -, rfl⟩ := List.mem_map.mp hh
        exact .inl rfl

/-- Entering a level ends nothing. -/
theorem IsQuiescent.enterLevel (hc : c.IsQuiescent) (level : RunLevel) :
    (c.enterLevel level).value.IsQuiescent := by
  unfold Context.enterLevel
  split
  · exact hc
  · refine ⟨isInOrder_forEach hc.entryPoints fun h => (h.goesOn_enter level _).addressee, ?_⟩
    intro h' hh'
    rw [hosts_forEach] at hh'
    obtain ⟨h, hh, rfl⟩ := List.mem_map.mp hh'
    have hgoes := h.goesOn_enter level c.isReloading
    rcases hc.ended h hh with hup | hgone
    · exact .inl (hgoes.isUp.trans hup)
    · exact .inr (hgoes.disposed hgone)

/-- A teardown disposes of whatever it shuts down. -/
theorem IsQuiescent.tearDown (hc : c.IsQuiescent) : c.tearDown.value.IsQuiescent := by
  constructor
  · exact isInOrder_forEach
      (isInOrder_forEach hc.entryPoints fun h => h.moves_shutdown.ite.addressee)
      fun h => h.moves_dispose.ite.addressee
  · intro h hh
    rw [c.tearDown_eq.1] at hh
    obtain ⟨_, -, rfl⟩ := List.mem_map.mp hh
    exact .inr rfl

/-- Whatever loaders do with a context, it is quiescent afterwards. -/
theorem Reaches.isQuiescent (h : c.Reaches c') (hc : c.IsQuiescent) : c'.IsQuiescent := by
  induction h with
  | refl => exact hc
  | load d image _ ih => exact ih.load d image
  | enterLevel level _ ih => exact ih.enterLevel level
  | tearDown _ ih => exact ih.tearDown
  | emptied _ _ =>
    exact ⟨fun _ hs => absurd hs List.not_mem_nil, fun _ hh => absurd hh List.not_mem_nil⟩
  | withDependencies dependencies _ ih => exact ⟨ih.entryPoints, ih.ended⟩
  | withCallbacks callbacks _ ih => exact ⟨ih.entryPoints, ih.ended⟩
  | withReloading isReloading _ ih => exact ⟨ih.entryPoints, ih.ended⟩

/-- The place of each module decides on its handle. -/
theorem IsQuiescent.inOrder (hc : c.IsQuiescent) (ht : c.layout.IsTidy) : c.InOrder where
  modules := by
    refine List.ext_getElem? fun i => ?_
    unfold handles moduleCount
    rw [List.getElem?_map, List.getElem?_map]
    cases hs : c.slots[i]? with
    | none =>
      rw [List.getElem?_eq_none (by simpa using hs)]
      rfl
    | some s =>
      have hi : i < c.slots.length := (List.getElem?_eq_some_iff.mp hs).1
      have hplaced : c.layout.modules[i]? = some s.placed := by
        show (c.slots.map Slot.placed)[i]? = _
        rw [List.getElem?_map, hs]
        rfl
      rw [List.getElem?_range hi]
      exact congrArg some (ht.handle i s.placed hplaced)
  entryPoints := hc.entryPoints

/-- A quiescent context that is torn down shuts down the entry points that are up, and disposes of
the same ones. -/
theorem IsQuiescent.calls_tearDown (hc : c.IsQuiescent) :
    calls c.tearDown.journal = teardown ((c.hosts.filter (·.state.isUp)).map (·.addressee)) := by
  have hsame : c.hosts.filter (·.state ≠ .disposed) = c.hosts.filter (·.state.isUp) := by
    refine List.filter_congr fun h hh => ?_
    rcases hc.ended h hh with hup | hgone
    · have hne : h.state ≠ .disposed := fun heq => by
        rw [heq] at hup
        cases hup
      rw [hup]
      exact decide_eq_true hne
    · rw [hgone]
      rfl
  unfold teardown
  rw [c.tearDown_eq.2, hsame, List.map_map, List.map_map]
  rfl

end Context

end ModuleRuntime.Module
