import ModuleRuntime.Proofs.Context.Quiescence
import ModuleRuntime.Proofs.Reload.Spared

/-!
# The protocol of a reload

A reload that is accepted calls hooks in a fixed order: the old listeners are told, the old entry
points are shut down and then disposed of, new ones are created, they start level by level, and the
new listeners are told if the reload ends at once. Each of these goes through the modules in the
order in which they were loaded, and in a module through its entry points in the order of its
manifest. No static entry point is called.
-/

set_option autoImplicit false

namespace ModuleRuntime.Module

/-! ## The start of the new entry points -/

/-- The calls by which entry points start at a level after a reload: each gets its own hook for that
if it has one, and else the normal one. -/
def startCalls (hosts : List Host) (level : Hook × Hook) : List HookCall :=
  hosts.map fun h => h.addressee.call (if h.entry.isReloadable then level.2 else level.1)

/-- The same entry points, all as far as a state. -/
def atState (s : EntryState) (hosts : List Host) : List Host :=
  hosts.map fun h => { h with state := s }

/-- Only the last state counts. -/
theorem atState_atState (s s' : EntryState) (hosts : List Host) :
    atState s (atState s' hosts) = atState s hosts :=
  List.map_map

/-- The state of an entry point is no part of its address. -/
theorem map_addressee_atState (s : EntryState) (hosts : List Host) :
    (atState s hosts).map (·.addressee) = hosts.map (·.addressee) :=
  List.map_map

/-- The calls by which entry points start do not depend on their states. -/
theorem startCalls_atState (s : EntryState) (hosts : List Host) (level : Hook × Hook) :
    startCalls (atState s hosts) level = startCalls hosts level :=
  List.map_map

namespace Context

variable {c : Context} {hosts : List Host}

/-- Entry points that stand right before a level all enter it. -/
theorem enterLevel_of_before {level : RunLevel} {stage : Host.Stage}
    (hstage : Host.stage? level = some stage) (hreloading : c.isReloading = true)
    (hbefore : c.hosts = atState stage.before hosts) :
    (c.enterLevel level).value.hosts = atState stage.after hosts ∧
      (c.enterLevel level).value.isReloading = true ∧
      calls (c.enterLevel level).journal = startCalls hosts (stage.hook, stage.reloadedHook) := by
  have hlevel : level ≠ .error := fun heq => by
    rw [heq] at hstage
    cases hstage
  have hone (h : Host) (hh : h ∈ c.hosts) : h.enter level c.isReloading = do
      h.call (if c.isReloading && h.entry.isReloadable then stage.reloadedHook else stage.hook)
      return { h with state := stage.after } := by
    rw [hbefore] at hh
    obtain ⟨h, -, rfl⟩ := List.mem_map.mp hh
    exact Host.enter_eq _ hstage rfl _
  unfold enterLevel
  rw [if_neg hlevel]
  refine ⟨?_, hreloading, ?_⟩
  · rw [hosts_forEach, ← atState_atState stage.after stage.before, ← hbefore]
    exact List.map_congr_left fun h hh => congrArg Journaled.value (hone h hh)
  · rw [← startCalls_atState stage.before, ← hbefore, calls_forEach]
    unfold startCalls
    rw [List.map_eq_flatMap]
    refine List.flatMap_congr fun h hh => ?_
    rw [hone h hh, hreloading]
    rfl

/-- When a context of new entry points starts again, they go through all levels, one after the
other, and run. -/
theorem restart_of_uninitialized (hsupports : c.supportsReload = true)
    (hnew : ∀ h ∈ c.hosts, h.state = .uninitialized) :
    c.restart.value.hosts = atState .running c.hosts ∧
      c.restart.value.isReloading = false ∧
      calls c.restart.journal = startHooks.flatMap (startCalls c.hosts) := by
  have hbefore : c.hosts = atState .uninitialized c.hosts := by
    refine (List.map_id' _).symm.trans (List.map_congr_left fun h hh => ?_)
    rw [← hnew h hh]
  -- Each level leaves the entry points right before the next one.
  obtain ⟨hpreInit, hreloading₁, hcalls₁⟩ := enterLevel_of_before (c := c.withReloading true)
    (rfl : Host.stage? .preInit = some _) hsupports hbefore
  obtain ⟨hinit, hreloading₂, hcalls₂⟩ :=
    enterLevel_of_before (rfl : Host.stage? .init = some _) hreloading₁ hpreInit
  obtain ⟨hrunning, -, hcalls₃⟩ :=
    enterLevel_of_before (rfl : Host.stage? .postInit = some _) hreloading₂ hinit
  unfold restart startHooks
  simp only [List.foldlM_cons, List.foldlM_nil, Journaled.journal_bind, Journaled.journal_pure,
    List.append_nil, Journaled.value_bind, Journaled.value_pure, calls_append, List.flatMap_cons,
    List.flatMap_nil]
  rw [hcalls₁, hcalls₂, hcalls₃]
  exact ⟨hrunning, rfl, rfl⟩

end Context

/-! ## The whole reload -/

/-- The calls that tell the listeners among entry points something. -/
def notices (hook : Hook) (hosts : List Host) : List HookCall :=
  (hosts.filter (·.entry.isListener)).map fun h => h.addressee.call hook

namespace Loader

variable {l l' : Loader}

/-- What a reload calls, if it leaves some new entry points. The old listeners are told of its
start, and the old entry points that are up are shut down and then disposed of. The new ones are
created and given what the host has for them, one after the other, and all of them start level by
level. If no inspection is open, the new listeners are told of the end. -/
def reloadCalls (l : Loader) (new : List Host) : List HookCall :=
  notices .reloadTriggered l.dynamicContext.hosts ++
    (teardown ((l.dynamicContext.hosts.filter (·.state.isUp)).map (·.addressee)) ++
      ((new.map (·.addressee)).flatMap
          (·.creationCalls l.dynamicContext.dependencies l.dynamicContext.callbacks) ++
        (startHooks.flatMap (startCalls new) ++
          if l.gauge.openCount = 0 then notices .reloadCompleted new else [])))

/-- A reload calls old and new dynamic entry points only. -/
theorem exists_host_of_mem_reloadCalls {new : List Host} {call : HookCall}
    (hcall : call ∈ l.reloadCalls new) :
    ∃ h ∈ l.dynamicContext.hosts ++ new, call.handle = h.handle := by
  have hcalled (hook : Host → Hook) {hosts : List Host}
      (hhosts : ∀ h ∈ hosts, h ∈ l.dynamicContext.hosts ++ new)
      (hin : call ∈ hosts.map fun h => h.addressee.call (hook h)) :
      ∃ h ∈ l.dynamicContext.hosts ++ new, call.handle = h.handle := by
    obtain ⟨h, hh, rfl⟩ := List.mem_map.mp hin
    exact ⟨h, hhosts h hh, rfl⟩
  have hold (p : Host → Bool) (h : Host) (hh : h ∈ l.dynamicContext.hosts.filter p) :
      h ∈ l.dynamicContext.hosts ++ new :=
    List.mem_append_left _ (List.mem_of_mem_filter hh)
  have hnew (h : Host) (hh : h ∈ new) : h ∈ l.dynamicContext.hosts ++ new :=
    List.mem_append_right _ hh
  unfold reloadCalls teardown at hcall
  rw [List.map_map, List.map_map] at hcall
  simp only [List.mem_append] at hcall
  rcases hcall with hcall | (hcall | hcall) | hcall | hcall | hcall
  · exact hcalled _ (hold _) hcall
  · exact hcalled _ (hold _) hcall
  · exact hcalled _ (hold _) hcall
  · rw [List.flatMap_map, List.mem_flatMap] at hcall
    obtain ⟨h, hh, hcall⟩ := hcall
    obtain ⟨hook, -, rfl⟩ := List.mem_map.mp hcall
    exact ⟨h, hnew h hh, rfl⟩
  · obtain ⟨level, -, hcall⟩ := List.mem_flatMap.mp hcall
    exact hcalled _ hnew hcall
  · split at hcall
    · exact hcalled _ (fun h hh => hnew h (List.mem_of_mem_filter hh)) hcall
    · exact absurd hcall List.not_mem_nil

/-- No static entry point is among them. -/
theorem Invariant.handle_ne_of_mem_reloadCalls (h : l.Invariant) (h' : l'.Invariant)
    {call : HookCall}
    (hcall : call ∈ l.reloadCalls l'.dynamicContext.hosts) {host : Host}
    (hhost : host ∈ l.staticContext.hosts) : call.handle ≠ host.handle := by
  obtain ⟨k, hk, hhandle⟩ := exists_host_of_mem_reloadCalls hcall
  have hdynamic : call.handle.context = 1 := by
    rw [hhandle]
    rcases List.mem_append.mp hk with hk | hk
    · exact (h.dynamic k hk).trans (h.accord.id true)
    · exact (h'.dynamic k hk).trans (h'.accord.id true)
  have hstatic : host.handle.context = 0 := (h.static host hhost).trans (h.accord.id false)
  intro heq
  rw [heq, hstatic] at hdynamic
  exact absurd hdynamic (by decide)

/-- A reload that is accepted when the dynamic context is quiescent makes these calls and leaves new
entry points that run. -/
theorem Invariant.startReload_calls (h : l.Invariant) (hquiescent : l.dynamicContext.IsQuiescent)
    (hlive : l.config.liveReload = true) (hmid : l.isMidReload = false) :
    ∃ report l', l.startReload.value = (.ok report, l') ∧
      l'.staticContext = l.staticContext ∧
      calls l.startReload.journal = l.reloadCalls l'.dynamicContext.hosts ∧
      (∀ k ∈ l'.dynamicContext.hosts, k.state = .running) ∧
      l'.dynamicContext.isReloading = false := by
  have hsupports := h.supportsReload
  obtain ⟨report, l', loads, filled, hvalue, hstatic, hfilled, hdynamic, hcalls⟩ :=
    h.startReload_refills hlive hmid
  obtain ⟨-, hunload, hunloaded⟩ := Context.unload_of_supportsReload hsupports
  rw [hunload] at hfilled
  obtain ⟨hsupports', -, -, new, hhosts, hnew, hloads⟩ := hfilled
  -- The unloaded context has no entry points, so the new ones are all that there are.
  obtain rfl : filled.hosts = new := hhosts
  obtain ⟨hrunning, hreloading, hstarted⟩ :=
    Context.restart_of_uninitialized (hsupports'.trans hsupports) hnew
  rw [← hdynamic] at hrunning hreloading
  refine ⟨report, l', hvalue, hstatic, ?_, fun k hk => ?_, hreloading⟩
  · have htold : calls (l.dynamicContext.perform .announceReload).journal =
        notices .reloadTriggered l.dynamicContext.hosts :=
      (Context.perform_of_notice (r := .announceReload) (if_pos hsupports)).2
    have hended : calls (l'.dynamicContext.perform .announceReloadEnd).journal =
        notices .reloadCompleted l'.dynamicContext.hosts :=
      (Context.perform_of_notice (r := .announceReloadEnd)
        (if_pos (h.startReload hvalue).supportsReload)).2
    have hlevels : startCalls filled.hosts = startCalls l'.dynamicContext.hosts := by
      funext level
      rw [hrunning, startCalls_atState]
    have haddressees : filled.hosts.map (·.addressee) =
        l'.dynamicContext.hosts.map (·.addressee) := by
      rw [hrunning, map_addressee_atState]
    rw [hcalls, htold, hunloaded, hquiescent.calls_tearDown, hloads, hstarted, hended, hlevels,
      haddressees]
    rfl
  · rw [hrunning] at hk
    obtain ⟨_, -, rfl⟩ := List.mem_map.mp hk
    rfl

/-- How a reload goes. Its calls are made in their order, and each of them goes through the modules
in the order in which they were loaded, which is for new ones that of the old ones in whose place
they are, and through the entry points of each in the order of its manifest. Afterwards all dynamic
entry points run, the context no longer starts them as after a reload, and no static entry point was
called. -/
structure FollowsProtocol (l l' : Loader) : Prop where
  calls : calls l.startReload.journal = l.reloadCalls l'.dynamicContext.hosts
  before : l.dynamicContext.InOrder
  after : l'.dynamicContext.InOrder
  again : ∃ back : List Unloaded, back.Sublist l.layout.unloaded ∧
    l'.dynamicContext.list = back.map l.layout.trial
  running : ∀ h ∈ l'.dynamicContext.hosts, h.state = .running
  isReloading : l'.dynamicContext.isReloading = false
  uncalled : ∀ call ∈ Module.calls l.startReload.journal, ∀ h ∈ l.staticContext.hosts,
    call.handle ≠ h.handle

/-- A reload that may start follows the protocol and leaves the static context alone. -/
theorem Invariant.startReload_follows (h : l.Invariant) (hquiescent : l.dynamicContext.IsQuiescent)
    (hlive : l.config.liveReload = true) (hmid : l.isMidReload = false) :
    ∃ report l', l.startReload.value = (.ok report, l') ∧ l.FollowsProtocol l' ∧
      l'.staticContext = l.staticContext := by
  obtain ⟨report, l', hvalue, hstatic, hcalls, hrunning, hreloading⟩ :=
    h.startReload_calls hquiescent hlive hmid
  have h' : l'.Invariant := h.startReload hvalue
  have hquiescent' : l'.dynamicContext.IsQuiescent := by
    have hreaches := (reaches_perform h.supportsReload .startReload).2
    unfold Loader.perform at hreaches
    rw [Journaled.value_map, hvalue] at hreaches
    exact hreaches.isQuiescent hquiescent
  obtain ⟨back, hback⟩ := reloaded_of_accord h.accord hvalue
  refine ⟨report, l', hvalue, ⟨hcalls, ?_, ?_, ?_, hrunning, hreloading, ?_⟩, hstatic⟩
  · exact hquiescent.inOrder (h.accord.tidy true)
  · exact hquiescent'.inOrder (h'.accord.tidy true)
  · exact ⟨back, hback.sublist, hback.held⟩
  · intro call hcall host hhost
    exact h.handle_ne_of_mem_reloadCalls h' (hcalls ▸ hcall) hhost

/-- The dynamic context is quiescent after every run. -/
theorem isQuiescent_after (config : Config) (linkers : LinkerSequence) (ops : List Operation) :
    (after config linkers ops).dynamicContext.IsQuiescent := by
  refine (after_induction (P := fun l => l.Invariant ∧ l.dynamicContext.IsQuiescent)
    ⟨invariant_after config linkers [], ?_⟩ (fun l op hl => ?_) ops).2
  · exact ⟨fun _ hs => absurd hs List.not_mem_nil, fun _ hh => absurd hh List.not_mem_nil⟩
  · exact ⟨hl.1.perform op, (reaches_perform hl.1.supportsReload op).2.isQuiescent hl.2⟩

/-- After every run, with whatever images are staged, a reload that is accepted follows the
protocol, and it spares all that is static. -/
theorem followsProtocol_after (config : Config) (linkers : LinkerSequence) (ops : List Operation)
    (hlive : config.liveReload = true) (hmid : (after config linkers ops).isMidReload = false) :
    ∃ report l', (after config linkers ops).startReload.value = (.ok report, l') ∧
      (after config linkers ops).FollowsProtocol l' ∧
      (after config linkers ops).SparesStatic l' := by
  have hinv := invariant_after config linkers ops
  have hconfig : (after config linkers ops).config.liveReload = true := by
    rw [(frame_after config linkers ops).1]
    exact hlive
  obtain ⟨report, l', hvalue, hfollows, hcontext⟩ :=
    hinv.startReload_follows (isQuiescent_after config linkers ops) hconfig hmid
  obtain ⟨hregistry, howner⟩ :=
    registry_startReload hinv.accord (ownersSound_after config linkers ops) hvalue
  have hlisted : (l'.registry.inLoadOrder.filter fun m => !m.isDynamic) =
      (after config linkers ops).registry.inLoadOrder.filter fun m => !m.isDynamic := by
    have hordered : (after config linkers ops).registry.IsOrdered := hinv.accord.ordered
    have hordered' : l'.registry.IsOrdered := (hinv.startReload hvalue).accord.ordered
    rw [hordered.static_inLoadOrder, hordered'.static_inLoadOrder, hregistry]
  exact ⟨report, l', hvalue, hfollows, hcontext, hregistry, hlisted, howner⟩

/-- Of two modules one is dynamic. Both are started, and an image is staged for the dynamic one. -/
def startedModules : List Operation :=
  [.load (reloadableImage "A" []), .load (.ofMetadata ⟨"B", "1.0.0", [], none, []⟩),
    .enterLevel .preInit, .enterLevel .init, .enterLevel .postInit,
    .stage "A" (reloadableImage "A" ["B"])]

/-- The dynamic module of the two is unloaded, loaded again and started, and the static one is
spared. -/
theorem followsProtocol_after_startedModules :
    (after { Config.default with liveReload := true } Linker.ofTwoModules
        startedModules).isMidReload = false ∧
      ∃ report l', (after { Config.default with liveReload := true } Linker.ofTwoModules
          startedModules).startReload.value = (.ok report, l') ∧
        (after { Config.default with liveReload := true } Linker.ofTwoModules
          startedModules).FollowsProtocol l' ∧
        (after { Config.default with liveReload := true } Linker.ofTwoModules
          startedModules).SparesStatic l' := by
  have hplain : ∀ op ∈ startedModules, op.IsPlain := by
    simp only [startedModules, List.forall_mem_cons, List.not_mem_nil, false_imp_iff,
      implies_true, Operation.IsPlain, and_true]
  have hmid := isMidReload_after_of_isPlain { Config.default with liveReload := true }
    Linker.ofTwoModules hplain
  exact ⟨hmid, followsProtocol_after _ _ startedModules rfl hmid⟩

end Loader

end ModuleRuntime.Module
