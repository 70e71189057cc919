import ModuleRuntime.Module.Context
import ModuleRuntime.Proofs.Host.Call
import ModuleRuntime.Proofs.Journaled

/-!
# Runs of a context

Everything that can be asked of a context, one thing after the other, and which hooks of which entry
points are called by that. A teardown shuts down all entry points that are up, and then disposes of
all that were not disposed of before; a notice goes to all listeners, and those that were disposed
of are not left out.
-/

set_option autoImplicit false

namespace ModuleRuntime.Module

/-- What comes of some members of a list only, one thing of each. -/
theorem flatMap_ite {α β : Type} (p : α → Bool) (f : α → β) (l : List α) :
    (l.flatMap fun a => if p a then [f a] else []) = (l.filter p).map f := by
  induction l with
  | nil => rfl
  | cons a rest ih =>
    rw [List.flatMap_cons, ih, List.filter_cons]
    split <;> rfl

namespace Context

/-! ## Requests -/

/-- What can be asked of a context. -/
inductive Request where
  | load (d : Descriptor) (image : Image)
  | enterLevel (level : RunLevel)
  | update (level : UpdateLevel) (frame : Frame)
  | announceReload
  | announceReloadEnd
  | shutdown
  | unload
  | withDependencies (dependencies : Dependencies)
  | withCallbacks (callbacks : List Service)
  | withReloading (isReloading : Bool)

/-- The context after a request, whether or not it succeeded. -/
def perform (c : Context) : Request → Journaled Activity Context
  | .load d image => Prod.snd <$> c.load d image
  | .enterLevel level => c.enterLevel level
  | .update level frame => (fun _ => c) <$> c.update level frame
  | .announceReload => (fun _ => c) <$> c.announceReload
  | .announceReloadEnd => (fun _ => c) <$> c.announceReloadEnd
  | .shutdown => c.shutdown
  | .unload => Prod.snd <$> c.unload
  | .withDependencies dependencies => pure (c.withDependencies dependencies)
  | .withCallbacks callbacks => pure (c.withCallbacks callbacks)
  | .withReloading isReloading => pure (c.withReloading isReloading)

/-- The context after several requests. -/
def run (c : Context) (requests : List Request) : Journaled Activity Context :=
  requests.foldlM perform c

/-- Nothing is asked. -/
@[simp]
theorem run_nil (c : Context) : c.run [] = pure c := rfl

/-- The first request, and then the others. -/
theorem run_cons (c : Context) (r : Request) (rest : List Request) :
    c.run (r :: rest) = c.perform r >>= fun c' => c'.run rest := rfl

/-- Some requests and then others. -/
theorem run_append (c : Context) (requests more : List Request) :
    c.run (requests ++ more) = c.run requests >>= fun c' => c'.run more :=
  List.foldlM_append

/-- All requests, and then one more. -/
theorem run_concat (c : Context) (requests : List Request) (r : Request) :
    c.run (requests ++ [r]) = c.run requests >>= fun c' => c'.perform r := by
  rw [run_append]
  refine congrArg _ (funext fun c' => ?_)
  rw [run_cons]
  exact bind_pure _

/-- What a context has that every request keeps, it has after every run. -/
theorem run_induction {P : Context → Prop} (hstep : ∀ c r, P c → P (c.perform r).value)
    {c : Context} (hc : P c) (requests : List Request) : P (c.run requests).value := by
  induction requests generalizing c with
  | nil => exact hc
  | cons r rest ih => exact ih (hstep c r hc)

/-! ## What is called -/

variable {c : Context}

/-- The hosts after something was done with every one. -/
theorem hosts_forEach (c : Context) (f : Host → Journaled Activity Host) :
    (c.forEach f).value.hosts = c.hosts.map fun h => (f h).value := by
  unfold forEach hosts
  simp only [Journaled.value_bind, Journaled.value_pure, Journaled.value_mapM, List.flatMap_map,
    List.map_flatMap]

/-- The calls when something is done with every host. -/
theorem calls_forEach (c : Context) (f : Host → Journaled Activity Host) :
    calls (c.forEach f).journal = c.hosts.flatMap fun h => calls (f h).journal := by
  unfold forEach hosts
  simp only [Journaled.journal_bind, Journaled.journal_pure, Journaled.journal_mapM,
    List.append_nil, calls_flatMap, List.flatMap_assoc]

/-- The calls when every host is told something. -/
theorem calls_tellEach (c : Context) (f : Host → Journaled Activity PUnit) :
    calls (c.tellEach f).journal = c.hosts.flatMap fun h => calls (f h).journal := by
  unfold tellEach
  rw [Journaled.journal_forM, calls_flatMap]

/-- What is told to the listeners only is told to each of them, in the order of their modules. -/
theorem calls_notify (h : c.supportsReload = true) (operation : String) {hook : Hook}
    {f : Host → Journaled Activity PUnit}
    (hf : ∀ h, f h = if h.entry.isListener then h.call hook else pure ⟨⟩) :
    calls (c.notify operation f).journal =
      (c.hosts.filter (·.entry.isListener)).map fun h => h.addressee.call hook := by
  have hone (h : Host) : calls (f h).journal =
      if h.entry.isListener then [h.addressee.call hook] else [] := by
    rw [hf]
    split <;> rfl
  unfold notify
  rw [if_pos h, Journaled.journal_bind, Journaled.journal_pure, List.append_nil, calls_tellEach]
  simp only [hone]
  exact flatMap_ite (fun h : Host => h.entry.isListener) (fun h => h.addressee.call hook) c.hosts

/-- The hook by which a request tells listeners of a reload. -/
def notice? (c : Context) : Request → Option Hook
  | .announceReload => if c.supportsReload then some .reloadTriggered else none
  | .announceReloadEnd => if c.supportsReload then some .reloadCompleted else none
  | _ => none

/-- The notices are that a reload was triggered or that it is complete. -/
theorem notice?_eq_some {r : Request} {hook : Hook} (h : c.notice? r = some hook) :
    hook = .reloadTriggered ∨ hook = .reloadCompleted := by
  cases r with
  | announceReload => exact .inl (Option.some.inj (Option.ite_none_right_eq_some.mp h).2).symm
  | announceReloadEnd => exact .inr (Option.some.inj (Option.ite_none_right_eq_some.mp h).2).symm
  | _ => cases h

/-- A notice goes to all listeners, however far they have come, and changes nothing. -/
theorem perform_of_notice {r : Request} {hook : Hook} (h : c.notice? r = some hook) :
    (c.perform r).value = c ∧ calls (c.perform r).journal =
      (c.hosts.filter (·.entry.isListener)).map fun h => h.addressee.call hook := by
  cases r with
  | announceReload =>
    obtain ⟨hsupports, ⟨⟩⟩ := Option.ite_none_right_eq_some.mp h
    refine ⟨rfl, ?_⟩
    unfold perform
    rw [Journaled.journal_map]
    exact calls_notify hsupports _ fun _ => rfl
  | announceReloadEnd =>
    obtain ⟨hsupports, ⟨⟩⟩ := Option.ite_none_right_eq_some.mp h
    refine ⟨rfl, ?_⟩
    unfold perform
    rw [Journaled.journal_map]
    exact calls_notify hsupports _ fun _ => rfl
  | _ => cases h

/-- A context that does not support reloads tells nobody anything. -/
theorem perform_of_not_supportsReload (h : c.supportsReload = false) :
    c.perform .announceReload = pure c ∧ c.perform .announceReloadEnd = pure c := by
  have hrefused (operation : String) (f : Host → Journaled Activity PUnit) :
      (fun _ => c) <$> c.notify operation f = pure c := by
    unfold notify
    rw [if_neg (by rw [h]; exact Bool.false_ne_true)]
    rfl
  exact ⟨hrefused _ _, hrefused _ _⟩

/-! ## Teardowns -/

/-- A teardown goes through the entry points twice. -/
theorem tearDown_passes (c : Context) : ∃ f g : Host → Journaled Activity Host,
    (∀ h : Host, h.Moves (f h)) ∧ (∀ h : Host, h.Moves (g h)) ∧
      c.tearDown.value.hosts =
        (c.hosts.map fun h => (f h).value).map (fun h => (g h).value) ∧
      calls c.tearDown.journal = (c.hosts.flatMap fun h => calls (f h).journal) ++
        (c.hosts.map fun h => (f h).value).flatMap fun h => calls (g h).journal := by
  refine ⟨fun h => if h.state.isUp then h.shutdown else pure h,
    fun h => if h.state = .shuttingDown then h.dispose else pure h,
    fun h => h.moves_shutdown.ite, fun h => h.moves_dispose.ite, ?_, ?_⟩
  · unfold tearDown
    rw [Journaled.value_bind, hosts_forEach, hosts_forEach]
  · unfold tearDown
    rw [Journaled.journal_bind, calls_append, calls_forEach, calls_forEach, hosts_forEach]

/-- A teardown shuts down every entry point that is up, and then disposes of every one that was not
disposed of before. -/
theorem tearDown_eq (c : Context) :
    c.tearDown.value.hosts = (c.hosts.map fun h => { h with state := .disposed }) ∧
      calls c.tearDown.journal =
        ((c.hosts.filter (·.state.isUp)).map fun h => h.addressee.call .shutdown) ++
          (c.hosts.filter (·.state ≠ .disposed)).map fun h => h.addressee.call .dispose := by
  -- The first pass leaves no host up, so the second one finds the others shut down or disposed of.
  have hfirst (h : Host) :
      calls (if h.state.isUp then h.shutdown else pure h).journal =
        if h.state.isUp then [h.addressee.call .shutdown] else [] := by
    obtain ⟨handle, moduleId, index, entry, state⟩ := h
    cases state <;> rfl
  have hsecond (h : Host) :
      let h' := (if h.state.isUp then h.shutdown else pure h).value
      (if h'.state = .shuttingDown then h'.dispose else pure h').value =
          { h with state := .disposed } ∧
        calls (if h'.state = .shuttingDown then h'.dispose else pure h').journal =
          if decide (h.state ≠ .disposed) then [h.addressee.call .dispose] else [] := by
    obtain ⟨handle, moduleId, index, entry, state⟩ := h
    cases state <;> exact ⟨rfl, rfl⟩
  unfold tearDown
  rw [Journaled.value_bind, Journaled.journal_bind, calls_append, hosts_forEach, calls_forEach,
    calls_forEach, hosts_forEach, List.map_map, List.flatMap_map]
  refine ⟨List.map_congr_left fun h _ => (hsecond h).1, congr (congrArg _ ?_) ?_⟩
  · simp only [hfirst]
    exact flatMap_ite (fun h : Host => h.state.isUp) (fun h => h.addressee.call .shutdown) c.hosts
  · simp only [hsecond]
    exact flatMap_ite (fun h : Host => h.state ≠ .disposed) (fun h => h.addressee.call .dispose)
      c.hosts

end Context

end ModuleRuntime.Module
