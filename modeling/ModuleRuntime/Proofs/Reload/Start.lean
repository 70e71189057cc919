import ModuleRuntime.Proofs.Reload.Step

/-!
# What a reload comes to

A reload that is refused changes nothing. One that is accepted always ends with a report: it drops
the dynamic modules and tries them again in the order in which they had been loaded. Starting their
entry points and ending the reload changes no layout any more.
-/

set_option autoImplicit false

namespace ModuleRuntime.Module

namespace Loader

variable {l : Loader}

namespace Layout

/-- The dynamic modules as they are handed out when they are unloaded. -/
def unloaded (l : Layout) : List Unloaded :=
  l.dynamicContext.modules.map fun m => ⟨m.descriptor, m.image⟩

/-- Whether the dynamic context supports reloads does not change as modules are added. -/
theorem Grown.supportsReload {m n : Layout} (h : m.Grown n) :
    n.dynamicContext.supportsReload = m.dynamicContext.supportsReload := by
  induction h with
  | refl => rfl
  | @add k d image _ _ ih =>
    rw [← ih]
    unfold Layout.add
    cases k.isDynamic d <;> rfl

end Layout

/-! ## The way through a reload -/

/-- A context that supports reloads tells its listeners. -/
theorem value_notify {c : Context} (h : c.supportsReload = true) (operation : String)
    (f : Host → Journaled Activity PUnit) : (c.notify operation f).value = .ok () := by
  unfold Context.notify
  rw [if_pos h]
  rfl

/-- The dynamic modules are handed out, and the registry forgets them. -/
theorem value_dropDynamic (h : l.dynamicContext.supportsReload = true) :
    ∃ l', l.dropDynamic.value = (.ok l.layout.unloaded, l') ∧ l'.layout = l.layout.dropped := by
  obtain ⟨hr, hl⟩ := l.dynamicContext.value_unload h
  unfold dropDynamic Context.announceReload
  simp only [Journaled.value_bind, value_notify h, hr, Journaled.value_pure]
  refine ⟨_, rfl, ?_⟩
  simp only [layout, hl]
  rfl

/-- Starting the dynamic entry points does not change the layout. -/
theorem layout_restart (l : Loader) : l.restart.value.layout = l.layout := by
  unfold restart layout
  simp only [Journaled.value_bind, Journaled.value_pure, Journaled.value_foldlM, List.foldl_cons,
    List.foldl_nil, Context.layout_withReloading, Context.layout_enterLevel]

/-- A reload ends without fail. -/
theorem value_endReload (h : l.dynamicContext.supportsReload = true) :
    l.endReload.value = (.ok (), { l with isMidReload := false }) := by
  unfold endReload
  split
  case isTrue =>
    simp only [Journaled.value_bind, Context.announceReloadEnd, value_notify h,
      Journaled.value_pure]
  case isFalse hmid =>
    rw [Journaled.value_pure]
    simp only [Bool.not_eq_true] at hmid
    rw [← hmid]

/-- A reload ends at once or waits, and neither changes the layout. -/
theorem value_endOrWait (h : l.dynamicContext.supportsReload = true) :
    ∃ isFinished l', l.endOrWait.value = (.ok isFinished, l') ∧ l'.layout = l.layout := by
  unfold endOrWait
  simp only []
  split
  case isTrue =>
    refine ⟨true, { l with gauge := l.gauge.arm.2, isMidReload := false }, ?_, rfl⟩
    rw [Journaled.value_bind, value_endReload (l := { l with gauge := l.gauge.arm.2 }) h]
    rfl
  case isFalse => exact ⟨false, { l with gauge := l.gauge.arm.2 }, rfl, rfl⟩

/-- Ending a reload that waits does not change the layout. -/
theorem layout_endWaiting (h : l.dynamicContext.supportsReload = true) :
    l.endWaiting.value.2.layout = l.layout := by
  unfold endWaiting
  split
  case isFalse => rfl
  case isTrue =>
    simp only []
    split
    case isFalse => rfl
    case isTrue =>
      rw [Journaled.value_bind, value_endReload (l := { l with gauge := l.gauge.takeReady.2 }) h]
      rfl

/-! ## The whole reload -/

/-- What has become of the dynamic modules when each of them has been tried. -/
def tryAll (l : Loader) (us : List Unloaded) : Progress :=
  us.foldl (fun p u => (p.reload (us.flatMap fun u => u.descriptor.names) u).value)
    (Progress.start l)

/-- The steps of a reload let the layout grow, and nothing is left staged. -/
theorem value_reloadAll (l : Loader) (us : List Unloaded) :
    (l.reloadAll us).value =
      { l.tryAll us with loader := { (l.tryAll us).loader with staged := .empty } } := by
  unfold reloadAll tryAll
  simp only [Journaled.value_bind, Journaled.value_pure, Journaled.value_foldlM]

/-- Trying modules again lets the layout grow, up to what is staged. -/
theorem grown_tryAll (l : Loader) (us : List Unloaded) :
    (l.layout.withStaged .empty).Grown ((l.tryAll us).loader.layout.withStaged .empty) :=
  Progress.grown_foldl_reload _ us (Progress.start l)

/-- A reload is refused without any change if it is off or another one has not ended; else it ends
with a report on what became of the dynamic modules. -/
theorem startReload_cases (h : l.dynamicContext.supportsReload = true) :
    ((l.config.liveReload = false ∨ l.isMidReload = true) ∧
        ∃ e, l.startReload.value = (.error e, l)) ∨
      (l.config.liveReload = true ∧ l.isMidReload = false ∧
        ∃ (dropped l' : Loader) (isFinished : Bool), dropped.layout = l.layout.dropped ∧
          l.startReload.value =
            (.ok ⟨(dropped.tryAll l.layout.unloaded).loaded.map Prod.fst,
              (dropped.tryAll l.layout.unloaded).skipped, isFinished⟩, l') ∧
          l'.layout = (dropped.tryAll l.layout.unloaded).loader.layout.withStaged .empty) := by
  unfold startReload
  cases hlive : l.config.liveReload with
  | false => exact .inl ⟨.inl rfl, _, rfl⟩
  | true =>
    cases hmid : l.isMidReload with
    | true => exact .inl ⟨.inr rfl, _, rfl⟩
    | false =>
      refine .inr ⟨rfl, rfl, ?_⟩
      obtain ⟨dropped, hdrop, hlayout⟩ := value_dropDynamic (l := { l with isMidReload := true }) h
      have hrestart := layout_restart (dropped.reloadAll l.layout.unloaded).value.loader
      have hstaged : (dropped.reloadAll l.layout.unloaded).value.loader.layout =
          (dropped.tryAll l.layout.unloaded).loader.layout.withStaged .empty := by
        rw [value_reloadAll]
        rfl
      have hsupports : (dropped.reloadAll
          l.layout.unloaded).value.loader.restart.value.layout.dynamicContext.supportsReload =
            true := by
        rw [hrestart, hstaged, (dropped.grown_tryAll _).supportsReload, hlayout]
        exact h
      obtain ⟨isFinished, l', hend, hl'⟩ := value_endOrWait hsupports
      refine ⟨dropped, l', isFinished, hlayout, ?_, ?_⟩
      · simp only [Bool.not_true, Bool.false_eq_true, if_false, Journaled.value_bind]
        rw [hdrop]
        simp only [Journaled.value_bind, Journaled.value_pure]
        rw [show ({ l with isMidReload := true } : Loader).layout.unloaded = l.layout.unloaded
          from rfl, hend, value_reloadAll]
        rfl
      · rw [hl', hrestart, hstaged]

/-- A reload is not refused if live reload is on and no other one is under way. -/
theorem startReload_accepted (h : l.dynamicContext.supportsReload = true)
    (hlive : l.config.liveReload = true) (hmid : l.isMidReload = false) :
    ∃ (dropped l' : Loader) (isFinished : Bool), dropped.layout = l.layout.dropped ∧
      l.startReload.value =
        (.ok ⟨(dropped.tryAll l.layout.unloaded).loaded.map Prod.fst,
          (dropped.tryAll l.layout.unloaded).skipped, isFinished⟩, l') ∧
      l'.layout = (dropped.tryAll l.layout.unloaded).loader.layout.withStaged .empty := by
  rcases startReload_cases h with ⟨hoff | hbusy, -⟩ | ⟨-, -, haccepted⟩
  · rw [hlive] at hoff
    cases hoff
  · rw [hmid] at hbusy
    cases hbusy
  · exact haccepted

end Loader

end ModuleRuntime.Module
