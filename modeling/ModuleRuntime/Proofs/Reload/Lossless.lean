import ModuleRuntime.Proofs.Loading.Held
import ModuleRuntime.Proofs.Loading.Sandbox
import ModuleRuntime.Proofs.Loading.Success
import ModuleRuntime.Proofs.Reload.Clock
import ModuleRuntime.Proofs.Reload.Report

/-!
# Reloads without replacements

If no image was ever staged and one linker answers all calls, a reload loses nothing. Each module
passed the sandbox by names that are known or allowed, and of those the ones that the reload forgets
are names of its own batch; its identities were held by nobody else; and it was linked before. So
each module is loaded again, in its old slot.
-/

set_option autoImplicit false

namespace ModuleRuntime.Module

open Loader (Layout)

/-! ## One module after the other -/

/-- If nothing is staged or missing and a module is loaded as it was, it is loaded again. -/
theorem Progress.reload_eq_addLoaded {p : Progress} {batch : List String} {u : Unloaded}
    (hstaged : p.loader.staged = .empty) (hmissing : p.missing = [])
    (hsupport : u.descriptor.supportsReload = true) {h : Handle}
    (hload : (p.loader.loadInspected u.descriptor u.image batch).value.1 = .ok h) :
    (p.reload batch u).value =
      { p with
        loader := (p.loader.loadInspected u.descriptor u.image batch).value.2 }.addLoaded
          u.descriptor.id h := by
  have hreplacement : (p.loader.replacement u).value = (.ok (u.descriptor, u.image), p.loader) := by
    unfold Loader.replacement
    rw [hstaged, Dictionary.find?_empty]
    rfl
  have hnone : missingReference? { p with loader := p.loader } u.descriptor = none := by
    rw [missingReference?_eq_none_iff]
    intro name _
    rw [hmissing]
    exact List.not_mem_nil
  unfold reload
  simp only [Journaled.value_bind, hreplacement, hsupport, hnone, Bool.not_true, Bool.false_eq_true,
    if_false, hload, Journaled.value_pure]

namespace Loader

variable {linker : Linker} {l l' : Loader}

/-- What makes sure that every dynamic module can be loaded again as it is. -/
structure Replayable (l : Loader) (linker : Linker) : Prop where
  accord : l.layout.Accord
  staged : l.staged = .empty
  distinct : Distinct l.registry.core l.registry.held
  vetted : l.config.sandboxing = true → l.layout.Vetted
  linked : l.dynamicContext.LinkedBy linker

/-- How a reload stands when some of the unloaded modules have been tried and all of these
are back. -/
structure Restored (l : Loader) (linker : Linker) (done : List Unloaded) (p : Progress) : Prop where
  grown : (l.layout.dropped.withStaged .empty).Grown p.loader.layout
  static : p.loader.layout.staticContext = l.layout.staticContext
  held : p.loader.registry.held = l.layout.dropped.registry.held ++ done.map Unloaded.entry
  unloaded : p.loader.layout.unloaded = done
  linked : p.loader.dynamicContext.LinkedBy linker
  loaded : p.loaded.map Prod.fst = done.map (·.descriptor.id)
  skipped : p.skipped = []
  missing : p.missing = []

/-- The names that a registry knows are those of the core and of the modules of both contexts. -/
theorem knows_iff_of_contexts (ha : l.layout.Accord) (name : String) :
    l.registry.knows name = true ↔
      l.registry.isCore name = true ∨
        ∃ isDynamic, ∃ d ∈ (l.context isDynamic).list, d.isNamed name = true := by
  rw [knows_iff_of_accord ha]
  refine or_congr_right ⟨?_, ?_⟩
  · rintro ⟨d, hd, hname⟩
    obtain ⟨isDynamic, hd⟩ := (mem_registry_list_iff ha d).mp hd
    exact ⟨isDynamic, d, hd, hname⟩
  · rintro ⟨isDynamic, d, hd, hname⟩
    exact ⟨d, (mem_registry_list_iff ha d).mpr ⟨isDynamic, hd⟩, hname⟩

namespace Restored

variable {done rest : List Unloaded} {p : Progress} {u : Unloaded}

/-- When some of the modules are restored, the registry and the contexts agree. -/
theorem accord (hr : l.Restored linker done p) (h : l.Replayable linker) :
    p.loader.layout.Accord :=
  h.accord.dropped.grown hr.grown

/-- What decides on a load is as it was before the reload. -/
theorem frame (hr : l.Restored linker done p) :
    p.loader.config = l.config ∧ p.loader.registry.core = l.registry.core := by
  obtain ⟨hconfig, -, hcore⟩ := hr.grown.frame
  exact ⟨hconfig, hcore.trans (Registry.forgetDynamic_frame l.registry).1⟩

/-- The sandbox admits every unloaded module again: each name to which it refers is known still, or
it belongs to the batch, or it is allowed. -/
theorem admits (hr : l.Restored linker done p) (h : l.Replayable linker)
    (hu : u ∈ l.layout.unloaded) :
    p.loader.layout.Admits (l.layout.unloaded.flatMap fun u => u.descriptor.names)
      u.descriptor := by
  intro hs hsandboxed name href
  obtain ⟨hconfig, hcore⟩ := hr.frame
  obtain ⟨m, hm, hd, -⟩ := h.accord.exists_loaded hu
  have hsandboxing : l.config.sandboxing = true := hconfig ▸ hs
  have hvetted := h.vetted hsandboxing m hm (hd ▸ hsandboxed) name (hd ▸ href)
  have hknows := knows_iff_of_contexts (hr.accord h) name
  unfold Layout.mayReferTo
  rw [Bool.or_eq_true, Bool.or_eq_true, List.contains_iff_mem]
  rcases hvetted with hknown | hallowed
  · rcases (knows_iff_of_contexts h.accord name).mp hknown with hname | ⟨isDynamic, d, hd, hname⟩
    · refine .inl (.inl (hknows.mpr (.inl ?_)))
      rw [Registry.isCore, hcore]
      exact hname
    · cases isDynamic with
      | false =>
        refine .inl (.inl (hknows.mpr (.inr ⟨false, d, ?_, hname⟩)))
        rw [Context.list_eq_map_modules, layout_context] at hd ⊢
        show d ∈ p.loader.layout.staticContext.modules.map _
        rw [hr.static]
        exact hd
      | true =>
        -- The registry may have forgotten this name, but it is one of the batch.
        rw [Context.list_eq_map_modules, layout_context] at hd
        obtain ⟨m, hm, rfl⟩ := List.mem_map.mp hd
        refine .inl (.inr (List.mem_flatMap.mpr ⟨⟨m.descriptor, m.image⟩, ?_, ?_⟩))
        · exact List.mem_map_of_mem hm
        · exact (Descriptor.isNamed_iff _ _).mp hname
  · refine .inr ?_
    rw [show p.loader.layout.config = l.layout.config from hconfig]
    exact hallowed

/-- What was unloaded is a dynamic module still. -/
theorem isDynamic_of_mem (hr : l.Restored linker done p) (h : l.Replayable linker)
    (hu : u ∈ l.layout.unloaded) : p.loader.isDynamic u.descriptor = true := by
  obtain ⟨hlive, hsupport⟩ := h.accord.supportsReload_of_mem hu
  unfold isDynamic
  rw [hr.frame.1, show l.config.liveReload = true from hlive, hsupport]
  rfl

/-- What was linked is linked again. -/
theorem linked_of_mem (hr : l.Restored linker done p) (h : l.Replayable linker)
    (hu : u ∈ l.layout.unloaded) :
    ∃ linked, p.loader.dynamicContext.linkers.head.link u.descriptor u.image = .ok linked := by
  obtain ⟨m, hm, rfl⟩ := List.mem_map.mp hu
  rw [hr.linked.linkers, LinkerSequence.head_constant]
  exact h.linked.modules m hm

/-- The next module is loaded again. -/
theorem reload_eq_addLoaded (hr : l.Restored linker done p) (h : l.Replayable linker)
    (hu : u ∈ l.layout.unloaded) (hfree : p.loader.registry.conflict? u.descriptor = none) :
    ∃ l', (p.reload (l.layout.unloaded.flatMap fun u => u.descriptor.names) u).value =
        { p with loader := l' }.addLoaded u.descriptor.id p.loader.dynamicContext.nextHandle ∧
      l'.layout = p.loader.layout.add u.descriptor u.image := by
  obtain ⟨linked, hlink⟩ := hr.linked_of_mem h hu
  have hload := loadInspected_eq_ok (hr.accord h) (hr.isDynamic_of_mem h hu) (hr.admits h hu) hfree
    hlink
  have hcases := (p.loader.loadInspected_cases u.descriptor u.image _).resolve_left
    fun ⟨f, hf, _⟩ => nomatch hload.symm.trans hf
  exact ⟨_, Progress.reload_eq_addLoaded hr.grown.staged hr.missing
    (h.accord.supportsReload_of_mem hu).2 hload, hcases.2.2.2⟩

/-- The next module is back as well. -/
theorem step (hr : l.Restored linker done p) (h : l.Replayable linker)
    (hsplit : l.layout.unloaded = done ++ u :: rest) :
    l.Restored linker (done ++ [u])
      (p.reload (l.layout.unloaded.flatMap fun u => u.descriptor.names) u).value := by
  have hu : u ∈ l.layout.unloaded := by
    rw [hsplit]
    exact List.mem_append_right _ List.mem_cons_self
  have hdynamic : p.loader.layout.isDynamic u.descriptor = true := hr.isDynamic_of_mem h hu
  have hfree : p.loader.registry.conflict? u.descriptor = none :=
    h.accord.conflict?_eq_none h.distinct hsplit hr.frame.2 hr.held
  have hlinked := (p.meets_reload (l.layout.unloaded.flatMap fun u => u.descriptor.names)
    u).value.dynamic.linkedBy hr.linked
  obtain ⟨l', hvalue, hlayout⟩ := hr.reload_eq_addLoaded h hu hfree
  rw [hvalue] at hlinked ⊢
  constructor
  case grown =>
    show Layout.Grown _ l'.layout
    rw [hlayout]
    exact .add _ _ hr.grown hfree
  case static =>
    show l'.layout.staticContext = _
    rw [hlayout, ← hr.static]
    unfold Layout.add
    rw [hdynamic]
    rfl
  case held =>
    show l'.registry.held = _
    rw [show l'.registry = _ from congrArg Layout.registry hlayout, List.map_append,
      ← List.append_assoc, ← hr.held]
    exact Registry.held_add (Registry.not_mem_keys_of_conflict? hfree)
  case unloaded =>
    show l'.layout.unloaded = _
    rw [hlayout, ← hr.unloaded]
    unfold Layout.add Layout.unloaded
    rw [hdynamic]
    exact List.map_append ..
  case linked => exact hlinked
  case loaded =>
    show (p.loaded ++ [(u.descriptor.id, _)]).map Prod.fst = _
    rw [List.map_append, List.map_append, hr.loaded]
    rfl
  case skipped => exact hr.skipped
  case missing => exact hr.missing

/-- All other modules are back as well. -/
theorem foldl (hr : l.Restored linker done p) (h : l.Replayable linker)
    (hsplit : l.layout.unloaded = done ++ rest) :
    l.Restored linker l.layout.unloaded (rest.foldl (fun p u =>
      (p.reload (l.layout.unloaded.flatMap fun u => u.descriptor.names) u).value) p) := by
  induction rest generalizing done p with
  | nil =>
    rw [List.append_nil] at hsplit
    rw [hsplit]
    exact hr
  | cons u rest ih =>
    rw [List.foldl_cons]
    exact ih (hr.step h hsplit) (by rw [hsplit, List.append_assoc]; rfl)

end Restored

/-! ## The whole reload -/

/-- When the dynamic modules have just been dropped, none of them has been tried. -/
theorem Replayable.restored_start (h : l.Replayable linker) {dropped : Loader}
    (hlayout : dropped.layout = l.layout.dropped)
    (hlinked : dropped.dynamicContext.LinkedBy linker) :
    l.Restored linker [] (Progress.start dropped) := by
  have hstaged : l.layout.dropped.withStaged .empty = l.layout.dropped := by
    rw [← h.staged]
    rfl
  refine ⟨?_, ?_, ?_, ?_, hlinked, rfl, rfl, rfl⟩
  · show (l.layout.dropped.withStaged .empty).Grown dropped.layout
    rw [hstaged, hlayout]
    exact .refl
  · show dropped.layout.staticContext = _
    rw [hlayout]
    rfl
  · show dropped.registry.held = _
    rw [show dropped.registry = _ from congrArg Layout.registry hlayout, List.map_nil,
      List.append_nil]
  · show dropped.layout.unloaded = _
    rw [hlayout]
    rfl

/-- A reload that is accepted brings every module back. -/
theorem Replayable.startReload_restored (h : l.Replayable linker) {report : ReloadReport}
    (hv : l.startReload.value = (.ok report, l')) :
    ∃ p, l.Restored linker l.layout.unloaded p ∧ report.reloaded = p.loaded.map Prod.fst ∧
      report.failed = p.skipped ∧ l'.layout = p.loader.layout := by
  have hsupports : l.dynamicContext.supportsReload = true := h.accord.supportsReload true
  rcases startReload_course hsupports with
    ⟨-, reason, entry, hrefused, -⟩ | ⟨-, -, dropped, p, ready, j, hc⟩
  · rw [hrefused] at hv
    exact nomatch (Prod.mk.inj hv).1
  · have hlinked : dropped.dynamicContext.LinkedBy linker :=
      hc.drop.dynamic.linkedBy h.linked
    have hrestored := (h.restored_start hc.layout hlinked).foldl h rfl
    have hp : p = { dropped.tryAll l.layout.unloaded with
        loader := { (dropped.tryAll l.layout.unloaded).loader with staged := .empty } } :=
      hc.reload.trans (value_reloadAll ..)
    have hready : ready.layout = p.loader.layout := hc.restart ▸ layout_restart p.loader
    rw [hc.value, value_endOrWait_eq (hc.supportsReload hsupports) hc.extend.isMidReload] at hv
    obtain ⟨hreport, rfl⟩ := Prod.mk.inj hv
    obtain rfl := Except.ok.inj hreport
    refine ⟨dropped.tryAll l.layout.unloaded, hrestored, ?_, ?_, ?_⟩
    · rw [hp]
    · rw [hp]
    · show ready.layout = _
      have hstaged : (dropped.tryAll l.layout.unloaded).loader.staged = .empty :=
        hrestored.grown.staged
      rw [hready, hp, ← hstaged]

/-- A reload that loses nothing: it reports that all modules were reloaded, in the order in which
they had been loaded, and that none failed, and the dynamic context holds the same descriptors and
images in the same slots, in its next generation. -/
structure Lossless (l : Loader) (report : ReloadReport) (l' : Loader) : Prop where
  failed : report.failed = []
  reloaded : report.reloaded = l.dynamicContext.list.map (·.id)
  generation : l'.dynamicContext.generation = l.dynamicContext.generation + 1
  slots : l'.dynamicContext.slots.map Slot.placed =
    l.dynamicContext.slots.map fun s =>
      ⟨s.descriptor, s.image, { s.handle with generation := l.dynamicContext.generation + 1 }⟩

/-- If every dynamic module can be loaded again as it is, a reload loses nothing. -/
theorem Replayable.lossless (h : l.Replayable linker) {report : ReloadReport}
    (hv : l.startReload.value = (.ok report, l')) : l.Lossless report l' := by
  obtain ⟨p, hr, hreloaded, hfailed, hlayout⟩ := h.startReload_restored hv
  have ha : l'.layout.Accord := hlayout ▸ hr.accord h
  have hgeneration : l'.dynamicContext.generation = l.dynamicContext.generation + 1 := by
    have hgrown := hr.grown.generation
    rw [← hlayout] at hgrown
    exact hgrown
  have hid : l'.dynamicContext.id = l.dynamicContext.id :=
    (ha.id true).trans (h.accord.id true).symm
  have hunloaded : l'.layout.unloaded = l.layout.unloaded := hlayout ▸ hr.unloaded
  have hmodules := (h.accord.tidy true).modules_eq (ha.tidy true) hid hunloaded
  refine ⟨hfailed.trans hr.skipped, hreloaded.trans (hr.loaded.trans l.map_id_unloaded),
    hgeneration, ?_⟩
  rw [← hgeneration]
  refine hmodules.trans ?_
  show (l.dynamicContext.slots.map Slot.placed).map _ = _
  rw [List.map_map]
  rfl

/-! ## Runs in which nothing is staged -/

/-- Whether the sandboxed modules are vetted hangs on the modules of the contexts only. -/
theorem vetted_congr (ha : l.layout.Accord) (ha' : l'.layout.Accord)
    (hconfig : l'.config = l.config) (hcore : l'.registry.core = l.registry.core)
    (hlist : ∀ isDynamic, (l'.context isDynamic).list = (l.context isDynamic).list)
    (hv : l.layout.Vetted) : l'.layout.Vetted := by
  intro m hm hsandboxed name href
  have hlisted : m.descriptor ∈ l'.registry.list := (ha'.ordered.mem_list_iff _).mpr ⟨m, hm, rfl⟩
  obtain ⟨isDynamic, hd⟩ := (mem_registry_list_iff ha' m.descriptor).mp hlisted
  rw [hlist] at hd
  obtain ⟨m₀, hm₀, hsame⟩ :=
    (ha.ordered.mem_list_iff m.descriptor).mp ((mem_registry_list_iff ha _).mpr ⟨isDynamic, hd⟩)
  show l'.registry.knows name = true ∨ l'.config.sandbox.allows name = true
  rw [hconfig]
  refine (hv m₀ hm₀ (hsame ▸ hsandboxed) name (hsame ▸ href)).imp (fun hknown => ?_) id
  have hknown := (knows_iff_of_contexts ha name).mp hknown
  have hisCore : l'.registry.isCore name = l.registry.isCore name := by
    unfold Registry.isCore
    rw [hcore]
  rw [knows_iff_of_contexts ha', hisCore]
  simpa only [hlist] using hknown

/-- A reload leaves every sandboxed module vetted if all can be loaded again. -/
theorem Replayable.vetted_startReload (h : l.Replayable linker)
    (hs : l.config.sandboxing = true) : l.startReload.value.2.layout.Vetted := by
  rcases startReload_cases (h.accord.supportsReload true) with
    ⟨-, e, hv⟩ | ⟨-, -, dropped, l', isFinished, -, hv, -⟩
  · rw [hv]
    exact h.vetted hs
  · obtain ⟨p, hr, -, -, hlayout⟩ := h.startReload_restored hv
    have hlist : ∀ isDynamic, (l'.context isDynamic).list = (l.context isDynamic).list := by
      intro isDynamic
      rw [Context.list_eq_map_modules, Context.list_eq_map_modules, layout_context, layout_context,
        hlayout]
      cases isDynamic with
      | false => exact congrArg (·.modules.map (·.descriptor)) hr.static
      | true =>
        have hdescriptors := congrArg (·.map Unloaded.descriptor) hr.unloaded
        simp only [Layout.unloaded, List.map_map] at hdescriptors
        exact hdescriptors
    rw [hv]
    refine vetted_congr h.accord (hlayout ▸ hr.accord h) ?_ ?_ hlist (h.vetted hs)
    · exact (congrArg Layout.config hlayout).trans hr.frame.1
    · exact (congrArg (·.registry.core) hlayout).trans hr.frame.2

/-- Nothing becomes staged but by staging. -/
theorem staged_perform (ha : l.layout.Accord) (hs : l.staged = .empty) {op : Operation}
    (hop : ∀ id image, op ≠ .stage id image) : (l.perform op).value.staged = .empty := by
  have hgrown {m : Layout} (h : l.layout.Grown m) : m.staged = .empty := h.staged.trans hs
  have hsame {m : Layout} (h : m = l.layout) : m.staged = .empty := h ▸ hs
  cases op with
  | load image => exact hgrown (l.grown_load image)
  | loadStream stream path => exact hgrown (l.grown_load _)
  | loadBatch images => exact hgrown (l.grown_loadBatch images)
  | stage id image => exact absurd rfl (hop id image)
  | startReload =>
    simp only [perform, Journaled.value_map]
    rcases startReload_cases (ha.supportsReload true) with
      ⟨-, e, hv⟩ | ⟨-, -, dropped, l', isFinished, -, hv, hlayout⟩
    · rw [hv]
      exact hs
    · rw [hv]
      exact congrArg Layout.staged hlayout
  | endWaiting => exact hsame (layout_endWaiting (ha.supportsReload true))
  | enterLevel level => exact hsame (l.layout_enterLevel level)
  | update level frame => exact hs
  | shutdown => exact hsame l.layout_shutdown
  | withDependencies dependencies => exact hs
  | withCallbacks callbacks => exact hs
  | openInspection => exact hs
  | closeInspection => exact hsame l.layout_closeInspection

/-- Whatever is done but staging, all modules can be loaded again. -/
theorem Replayable.perform (h : l.Replayable linker) {op : Operation}
    (hop : ∀ id image, op ≠ .stage id image) : (l.perform op).value.Replayable linker := by
  have hsupports : l.dynamicContext.supportsReload = true := h.accord.supportsReload true
  have hstep := l.step_perform op hsupports
  have hconfig : (l.perform op).value.config = l.config := hstep.frame.1
  refine ⟨h.accord.step hstep, staged_perform h.accord h.staged hop, hstep.distinct h.distinct,
    fun hs => ?_, (reaches_perform hsupports op).2.linkedBy h.linked⟩
  rw [hconfig] at hs
  by_cases hreload : op = .startReload
  · subst hreload
    exact h.vetted_startReload hs
  · exact vetted_perform hs h.accord (h.vetted hs) hreload

/-- After every run in which nothing is staged, all modules can be loaded again. -/
theorem replayable_after (config : Config) (linker : Linker) (ops : List Operation)
    (hops : ∀ op ∈ ops, ∀ id image, op ≠ .stage id image) :
    (after config linker ops).Replayable linker := by
  have hnew : (new config linker).Replayable linker :=
    ⟨Layout.accord_new config linker, rfl,
      ⟨fun e he => absurd he List.not_mem_nil, List.nodup_nil, List.nodup_nil,
        fun e he => absurd he List.not_mem_nil⟩,
      fun _ m hm => absurd hm List.not_mem_nil, rfl, fun m hm => absurd hm List.not_mem_nil⟩
  suffices hrun : ∀ l : Loader, l.Replayable linker → (l.run ops).value.Replayable linker from
    hrun _ hnew
  induction ops with
  | nil => exact fun l hl => hl
  | cons op rest ih =>
    intro l hl
    rw [value_run_cons]
    exact ih (fun op hmem => hops op (List.mem_cons_of_mem _ hmem)) _
      (hl.perform (hops op List.mem_cons_self))

/-- After every run in which nothing is staged, with one linker for all calls, a reload that is
accepted loses nothing. -/
theorem lossless_after (config : Config) (linker : Linker) (ops : List Operation)
    (hops : ∀ op ∈ ops, ∀ id image, op ≠ .stage id image) {report : ReloadReport}
    (hv : (after config linker ops).startReload.value = (.ok report, l')) :
    (after config linker ops).Lossless report l' :=
  (replayable_after config linker ops hops).lossless hv

/-- Two modules of which the one that is loaded last refers to the other. -/
def backReference : List Operation :=
  [.load (reloadableImage "A" []), .load (reloadableImage "B" ["A"])]

/-- A reload brings back both modules in their order. -/
theorem lossless_after_backReference :
    (∀ op ∈ backReference, ∀ id image, op ≠ .stage id image) ∧
      ∃ report l', (after { Config.default with liveReload := true } (Linker.bare ["A", "B"])
          backReference).startReload.value = (.ok report, l') ∧
        (after { Config.default with liveReload := true } (Linker.bare ["A", "B"])
          backReference).Lossless report l' := by
  have hloads : ∀ op ∈ backReference, ∃ image, op = .load image := by
    simp only [backReference, List.forall_mem_cons, List.not_mem_nil, false_imp_iff, implies_true,
      and_true]
    exact ⟨⟨_, rfl⟩, ⟨_, rfl⟩⟩
  have hops : ∀ op ∈ backReference, ∀ id image, op ≠ .stage id image := by
    rintro op hop id image rfl
    obtain ⟨_, hload⟩ := hloads _ hop
    cases hload
  obtain ⟨report, l', hvalue⟩ := startReload_after_eq_ok
    { Config.default with liveReload := true } (Linker.bare ["A", "B"]) rfl
    fun op hop => (hloads op hop).imp fun _ h => .inl h
  exact ⟨hops, report, l', hvalue, lossless_after _ _ backReference hops hvalue⟩

end Loader

end ModuleRuntime.Module
