import ModuleRuntime.Module.Batch
import ModuleRuntime.Module.Reload
import ModuleRuntime.Proofs.Journaled

/-!
# The course of loads

Everything that a loader does comes to its contexts as one of a few operations on them, so what all
of these keep is kept by the loader. A load, be it single, in a batch or in a reload, changes
nothing else that matters to a reload: the inspections that it opens are closed again, and the hooks
that it calls are those by which entry points are created.
-/

set_option autoImplicit false

namespace ModuleRuntime.Module

open Journaled (Meets)

/-! ## Calls of hooks -/

namespace Activity

/-- Whether an activity updates an entry point. -/
def isUpdate : Activity → Bool
  | .called ⟨_, _, _, .update _ _⟩ => true
  | _ => false

/-- Whether an activity tells an entry point that a reload is over. -/
def isCompletion : Activity → Bool
  | .called ⟨_, _, _, .reloadCompleted⟩ => true
  | _ => false

/-- Activities that are neither updates nor belong to the end of a reload. -/
structure IsOrdinary (a : Activity) : Prop where
  isUpdate : a.isUpdate = false
  isCompletion : a.isCompletion = false

/-- A log entry is ordinary. -/
theorem isOrdinary_logged (entry : Log.Entry) : (logged entry).IsOrdinary :=
  ⟨rfl, rfl⟩

end Activity

open Activity (IsOrdinary isOrdinary_logged)

namespace Host

variable {h : Host}

/-- A new entry point has the handle of its module. -/
theorem meets_new (handle : Handle) (id : String) (index : Nat) (entry : EntryPoint)
    (dependencies : Dependencies) (callbacks : List Service) :
    (Host.new handle id index entry dependencies callbacks).Meets IsOrdinary
      fun h => h.handle = handle := by
  refine Meets.bind (.tell ⟨rfl, rfl⟩) fun _ _ => Meets.bind (.tell ⟨rfl, rfl⟩) fun _ _ => ?_
  exact Meets.bind (.tell ⟨rfl, rfl⟩) fun _ _ => .pure rfl

/-- A host that enters a level keeps its handle. -/
theorem meets_enter (h : Host) (level : RunLevel) (isReloading : Bool) :
    (h.enter level isReloading).Meets IsOrdinary fun h' => h'.handle = h.handle := by
  unfold enter
  split
  · exact Meets.bind (.tell ⟨rfl, rfl⟩) fun _ _ => .pure rfl
  · next stage hstage =>
    split
    · refine Meets.bind (.tell ?_) fun _ _ => .pure rfl
      cases level <;> cases hstage <;> split <;> exact ⟨rfl, rfl⟩
    · exact Meets.bind (.tell ⟨rfl, rfl⟩) fun _ _ => .pure rfl

/-- A host that is shut down keeps its handle. -/
theorem meets_shutdown (h : Host) :
    h.shutdown.Meets IsOrdinary fun h' => h'.handle = h.handle := by
  unfold shutdown
  split
  · exact Meets.bind (.tell ⟨rfl, rfl⟩) fun _ _ => .pure rfl
  · exact Meets.bind (.tell ⟨rfl, rfl⟩) fun _ _ => .pure rfl

/-- A host that is disposed of keeps its handle. -/
theorem meets_dispose (h : Host) :
    h.dispose.Meets IsOrdinary fun h' => h'.handle = h.handle := by
  unfold dispose
  split
  · exact Meets.bind (.tell ⟨rfl, rfl⟩) fun _ _ => .pure rfl
  · exact Meets.bind (.tell ⟨rfl, rfl⟩) fun _ _ => .pure rfl

/-- Announcing a reload to a host is ordinary. -/
theorem meets_announceReload (h : Host) :
    h.announceReload.Meets IsOrdinary fun _ => True := by
  unfold announceReload
  split
  · exact .tell ⟨rfl, rfl⟩
  · exact .pure trivial

end Host

/-! ## Contexts -/

namespace Context

/-- A context that came from another one by what loaders do with contexts. -/
inductive Reaches (c : Context) : Context → Prop where
  | refl : Reaches c c
  | load {c' : Context} (d : Descriptor) (image : Image) (h : Reaches c c') :
      Reaches c (c'.load d image).value.2
  | enterLevel {c' : Context} (level : RunLevel) (h : Reaches c c') :
      Reaches c (c'.enterLevel level).value
  | tearDown {c' : Context} (h : Reaches c c') : Reaches c c'.tearDown.value
  | emptied {c' : Context} (h : Reaches c c') : Reaches c c'.emptied
  | withDependencies {c' : Context} (dependencies : Dependencies) (h : Reaches c c') :
      Reaches c (c'.withDependencies dependencies)
  | withCallbacks {c' : Context} (callbacks : List Service) (h : Reaches c c') :
      Reaches c (c'.withCallbacks callbacks)
  | withReloading {c' : Context} (isReloading : Bool) (h : Reaches c c') :
      Reaches c (c'.withReloading isReloading)

/-- What is reached from what is reached is reached. -/
theorem Reaches.trans {c c' c'' : Context} (h : c.Reaches c') (h' : c'.Reaches c'') :
    c.Reaches c'' := by
  induction h' with
  | refl => exact h
  | load d image _ ih => exact ih.load d image
  | enterLevel level _ ih => exact ih.enterLevel level
  | tearDown _ ih => exact ih.tearDown
  | emptied _ ih => exact ih.emptied
  | withDependencies dependencies _ ih => exact ih.withDependencies dependencies
  | withCallbacks callbacks _ ih => exact ih.withCallbacks callbacks
  | withReloading isReloading _ ih => exact ih.withReloading isReloading

/-- Every new entry point has the handle of its module. -/
theorem meets_createHosts (c : Context) (id : String) (entryPoints : List EntryPoint) :
    (c.createHosts id entryPoints).Meets IsOrdinary
      fun hosts => ∀ h ∈ hosts, h.handle = c.nextHandle :=
  Meets.mapM (fun (entry, index) => Host.meets_new _ id index entry _ _) entryPoints.zipIdx

/-- A load to a context, whether it succeeds or fails, is ordinary. -/
theorem meets_load (c : Context) (d : Descriptor) (image : Image) :
    (c.load d image).Meets IsOrdinary fun a => c.Reaches a.2 := by
  refine ⟨?_, .load d image .refl⟩
  suffices h : (c.load d image).Meets IsOrdinary fun _ => True from h.journal
  unfold load
  split
  · exact Meets.bind (.tell ⟨rfl, rfl⟩) fun _ _ => .pure trivial
  · dsimp only
    split
    · exact Meets.bind (.tell ⟨rfl, rfl⟩) fun _ _ => .pure trivial
    · refine (meets_createHosts ..).bind fun hosts _ => ?_
      exact Meets.bind (.tell ⟨rfl, rfl⟩) fun _ _ => .pure trivial

/-- What every entry point does is what all of them do. -/
theorem meets_forEach (c : Context) {K : Activity → Prop} {f : Host → Journaled Activity Host}
    (hf : ∀ h, (f h).Meets K fun _ => True) : (c.forEach f).Meets K fun _ => True := by
  refine Meets.bind (Meets.mapM (R := fun _ => True) (fun s => ?_) c.slots) fun _ _ => .pure trivial
  exact (Meets.mapM (R := fun _ => True) hf s.hosts).bind fun _ _ => .pure trivial

/-- A context that enters a level does ordinary things only. -/
theorem meets_enterLevel (c : Context) (level : RunLevel) :
    (c.enterLevel level).Meets IsOrdinary c.Reaches := by
  refine ⟨?_, .enterLevel level .refl⟩
  suffices h : (c.enterLevel level).Meets IsOrdinary fun _ => True from h.journal
  unfold enterLevel
  split
  · exact Meets.bind (.tell ⟨rfl, rfl⟩) fun _ _ => .pure trivial
  · exact c.meets_forEach fun h => (h.meets_enter level _).mono fun _ _ => trivial

/-- A context that is torn down does ordinary things only. -/
theorem meets_tearDown (c : Context) : c.tearDown.Meets IsOrdinary c.Reaches := by
  refine ⟨?_, .tearDown .refl⟩
  suffices h : c.tearDown.Meets IsOrdinary fun _ => True from h.journal
  unfold tearDown
  refine Meets.bind (c.meets_forEach fun h => ?_) fun c' _ => c'.meets_forEach fun h => ?_
  · split
    · exact h.meets_shutdown.mono fun _ _ => trivial
    · exact .pure trivial
  · split
    · exact h.meets_dispose.mono fun _ _ => trivial
    · exact .pure trivial

/-- A context that is shut down does ordinary things only. -/
theorem meets_shutdown (c : Context) : c.shutdown.Meets IsOrdinary c.Reaches := by
  unfold shutdown
  exact c.meets_tearDown.bind fun c' h => Meets.bind (.tell ⟨rfl, rfl⟩) fun _ _ => .pure h

/-- A context that is unloaded, or refuses that, does ordinary things only. -/
theorem meets_unload (c : Context) : c.unload.Meets IsOrdinary fun a => c.Reaches a.2 := by
  unfold unload
  split
  · exact c.meets_tearDown.bind fun c' h =>
      Meets.bind (.tell ⟨rfl, rfl⟩) fun _ _ => .pure h.emptied
  · exact Meets.bind (.tell ⟨rfl, rfl⟩) fun _ _ => .pure .refl

/-- Announcing a reload to a context is ordinary. -/
theorem meets_announceReload (c : Context) :
    c.announceReload.Meets IsOrdinary fun _ => True := by
  unfold announceReload notify
  split
  · refine Meets.bind (Q := fun _ => True) ⟨fun w hw => ?_, trivial⟩ fun _ _ => .pure trivial
    unfold tellEach at hw
    rw [Journaled.journal_forM, List.mem_flatMap] at hw
    obtain ⟨h, -, hw⟩ := hw
    exact h.meets_announceReload.journal w hw
  · exact .pure trivial

end Context

/-! ## Loaders -/

/-- An inspection that is opened and closed again leaves the gauge as it was, unless somebody waits
though no other inspection is open. -/
theorem Gauge.value_release_acquire {g : Gauge} (h : g.isWaiting = true → g.openCount ≠ 0) :
    g.acquire.release.value = g := by
  have hlast : ¬(g.acquire.openCount = 1 ∧ g.acquire.isWaiting = true) := by
    rintro ⟨hcount, hwaiting⟩
    exact h hwaiting (Nat.succ.inj hcount)
  unfold release
  rw [if_neg hlast]
  rfl

namespace Loader

/-- A loader that came from another one by loads: both contexts may have changed, and nothing that
matters to a reload has. -/
structure Extends (l l' : Loader) : Prop where
  config : l'.config = l.config
  isMidReload : l'.isMidReload = l.isMidReload
  gauge : (l.gauge.isWaiting = true → l.gauge.openCount ≠ 0) → l'.gauge = l.gauge
  static : l.staticContext.Reaches l'.staticContext
  dynamic : l.dynamicContext.Reaches l'.dynamicContext

namespace Extends

variable {l l' l'' : Loader}

/-- Every loader extends itself. -/
theorem refl : l.Extends l :=
  ⟨rfl, rfl, fun _ => rfl, .refl, .refl⟩

/-- What extends an extension extends the loader itself. -/
theorem trans (h : l.Extends l') (h' : l'.Extends l'') : l.Extends l'' where
  config := h'.config.trans h.config
  isMidReload := h'.isMidReload.trans h.isMidReload
  gauge hw := by
    have hg := h.gauge hw
    rw [h'.gauge (by rw [hg]; exact hw), hg]
  static := h.static.trans h'.static
  dynamic := h.dynamic.trans h'.dynamic

/-- What is claimed does not matter. -/
theorem withRegistry (h : l.Extends l') (registry : Registry) :
    l.Extends { l' with registry := registry } :=
  ⟨h.config, h.isMidReload, h.gauge, h.static, h.dynamic⟩

/-- What is staged does not matter. -/
theorem withStaged (h : l.Extends l') (staged : Dictionary String Image) :
    l.Extends { l' with staged := staged } :=
  ⟨h.config, h.isMidReload, h.gauge, h.static, h.dynamic⟩

end Extends

variable {l : Loader} {d : Descriptor} {image : Image} {batch : List String}

/-- Logging a load is ordinary. -/
theorem meets_log (level : Log.Level) (event message : String) (fields : List (String × String)) :
    (log level event message fields).Meets IsOrdinary fun _ => True :=
  .tell (isOrdinary_logged _)

/-- Logging a reload is ordinary. -/
theorem meets_logReload (level : Log.Level) (event message : String)
    (fields : List (String × String)) :
    (logReload level event message fields).Meets IsOrdinary fun _ => True :=
  .tell (isOrdinary_logged _)

/-- An inspection opens and closes a session, and extends the loader. -/
theorem meets_inspect (l : Loader) (image : Image) :
    (l.inspect image).Meets IsOrdinary fun a => l.Extends a.2 := by
  refine Meets.bind (Q := fun a => (l.gauge.isWaiting = true → l.gauge.openCount ≠ 0) →
    a.2 = l.gauge) (.mapJournal isOrdinary_logged fun hw => ?_) fun (r, gauge) hg => .pure ?_
  · have hvalue : (l.inspector.inspect l.gauge image).value.2 = l.gauge.acquire.release.value := by
      unfold Inspector.inspect
      cases l.inspector.describe image <;> rfl
    rw [hvalue, Gauge.value_release_acquire hw]
  · exact ⟨rfl, rfl, hg, .refl, .refl⟩

/-- Vetting the references of a module is ordinary. -/
theorem meets_vetReferences (l : Loader) (d : Descriptor) (batch : List String) :
    (l.vetReferences d batch).Meets IsOrdinary fun _ => True := by
  unfold vetReferences
  split
  · split
    · exact (meets_log ..).bind fun _ _ => .pure trivial
    · exact .pure trivial
  · exact .pure trivial

/-- Placing a module in its context extends the loader. -/
theorem meets_place (l : Loader) (d : Descriptor) (image : Image) :
    (l.place d image).Meets IsOrdinary fun a => l.Extends a.2 := by
  unfold place
  split
  · exact (l.dynamicContext.meets_load d image).bind fun (r, c) h =>
      .pure ⟨rfl, rfl, fun _ => rfl, .refl, h⟩
  · exact (l.staticContext.meets_load d image).bind fun (r, c) h =>
      .pure ⟨rfl, rfl, fun _ => rfl, h, .refl⟩

/-- Settling a claim extends the loader. -/
theorem meets_settle (l : Loader) (d : Descriptor) (image : Image) :
    (l.settle d image).Meets IsOrdinary fun a => l.Extends a.2 := by
  refine (l.meets_place d image).bind fun (r, l') h => ?_
  cases r with
  | ok handle =>
    dsimp only
    split
    · exact .pure (h.withRegistry _)
    · exact .pure h
  | error e =>
    exact Meets.bind (Q := fun _ => True) (.mapJournal isOrdinary_logged trivial)
      fun (_, registry) _ => .pure (h.withRegistry registry)

/-- Loading an inspected module extends the loader. -/
theorem meets_loadInspected (l : Loader) (d : Descriptor) (image : Image) (batch : List String) :
    (l.loadInspected d image batch).Meets IsOrdinary fun a => l.Extends a.2 := by
  refine (l.meets_vetReferences d batch).bind fun r _ => ?_
  cases r with
  | error e => exact .pure .refl
  | ok _ =>
    refine Meets.bind (Q := fun _ => True) (.mapJournal isOrdinary_logged trivial) fun r _ => ?_
    cases r with
    | error c => exact .pure .refl
    | ok registry =>
      refine (meets_settle _ d image).bind fun (r, l') h => .pure ?_
      exact (Extends.refl.withRegistry registry).trans h

/-- Loading an image extends the loader. -/
theorem meets_load (l : Loader) (image : Image) :
    (l.load image).Meets IsOrdinary fun a => l.Extends a.2 := by
  refine (l.meets_inspect image).bind fun (r, l') h => ?_
  cases r with
  | error e => exact .pure h
  | ok d =>
    exact (l'.meets_loadInspected d image []).bind fun (r, l'') h' => .pure (h.trans h')

/-! ## Batches -/

/-- Inspecting the images of a batch extends the loader. -/
theorem meets_inspectAll (l : Loader) (images : List Image) :
    (l.inspectAll images).Meets IsOrdinary fun a => l.Extends a.2 := by
  induction images generalizing l with
  | nil => exact .pure .refl
  | cons image rest ih =>
    refine (l.meets_inspect image).bind fun (r, l') h => ?_
    exact (ih l').bind fun (inspected, l'') h' => .pure (h.trans h')

end Loader

namespace Progress

open Loader (meets_log meets_logReload)

/-- Sorting the inspected images extends the loader. -/
theorem meets_sift (p : Progress) (inspected : List (Image × Result Descriptor)) :
    (p.sift inspected).Meets IsOrdinary fun a => p.loader.Extends a.2.loader := by
  induction inspected generalizing p with
  | nil => exact .pure .refl
  | cons entry rest ih =>
    obtain ⟨image, r⟩ := entry
    cases r with
    | ok d => exact (ih p).bind fun (candidates, p') h => .pure h
    | error e =>
      rw [sift]
      exact (meets_log ..).bind fun _ _ =>
        ih { p with skipped := p.skipped ++ [⟨image.shownPath, e⟩] }

/-- Skipping a module of a cycle extends the loader. -/
theorem meets_skipCyclic (p : Progress) (d : Descriptor) :
    (p.skipCyclic d).Meets IsOrdinary fun p' => p.loader.Extends p'.loader :=
  (meets_log ..).bind fun _ _ => .pure .refl

/-- By induction on the modules that are left. -/
theorem meets_loadEach (batch : List String) (p : Progress)
    (members : List (Descriptor × Image)) :
    (p.loadEach batch members).Meets IsOrdinary fun a => p.loader.Extends a.2.loader := by
  induction members generalizing p with
  | nil => exact .pure .refl
  | cons member rest ih =>
    obtain ⟨d, image⟩ := member
    rw [loadEach]
    cases p.missingReference? d with
    | some name => exact (meets_log ..).bind fun _ _ => ih (p.skip d.id d _)
    | none =>
      refine (p.loader.meets_loadInspected d image batch).bind fun (r, l) h => ?_
      cases r with
      | ok handle => exact (ih _).mono fun _ h' => h.trans h'
      | error failure =>
        dsimp only
        split
        · exact (meets_log ..).bind fun _ _ => .pure h
        · exact (ih _).mono fun _ h' => h.trans h'

end Progress

namespace Loader

/-- Loading a batch extends the loader. -/
theorem meets_loadBatch (l : Loader) (images : List Image) :
    (l.loadBatch images).Meets IsOrdinary fun a => l.Extends a.2 := by
  refine (l.meets_inspectAll images).bind fun (inspected, l₁) h₁ => ?_
  refine ((Progress.start l₁).meets_sift inspected).bind fun (candidates, p₂) h₂ => ?_
  have hcyclic (p : Progress) (d : Descriptor) (h : l.Extends p.loader) :
      (p.skipCyclic d).Meets IsOrdinary fun p' => l.Extends p'.loader :=
    (p.meets_skipCyclic d).mono fun _ h' => h.trans h'
  refine (Meets.foldlM hcyclic (h₁.trans h₂) _).bind fun p₃ h₃ => ?_
  refine (p₃.meets_loadEach _ _).bind fun (r, p₄) h₄ => ?_
  cases r with
  | error e => exact .pure (h₃.trans h₄)
  | ok _ => exact (meets_log ..).bind fun _ _ => .pure (h₃.trans h₄)

/-! ## Reloads -/

/-- Finding what a module is loaded from extends the loader. -/
theorem meets_replacement (l : Loader) (u : Unloaded) :
    (l.replacement u).Meets IsOrdinary fun a => l.Extends a.2 := by
  unfold replacement
  split
  · exact .pure .refl
  · refine (meets_inspect _ _).bind fun (r, l') h => .pure ?_
    exact (Extends.refl.withStaged _).trans h

end Loader

open Loader (meets_log meets_logReload) in
/-- Loading a module again is a load. -/
theorem Progress.meets_reload (batch : List String) (p : Progress) (u : Unloaded) :
    (p.reload batch u).Meets IsOrdinary fun p' => p.loader.Extends p'.loader := by
  refine (p.loader.meets_replacement u).bind fun (r, l) h => ?_
  cases r with
  | error e => exact .pure h
  | ok found =>
    obtain ⟨d, image⟩ := found
    dsimp only
    split
    · exact .pure h
    · split
      · exact (meets_logReload ..).bind fun _ _ => .pure h
      · refine (l.meets_loadInspected d image batch).bind fun (r, l') h' => ?_
        cases r with
        | ok handle => exact .pure (h.trans h')
        | error failure => exact (meets_logReload ..).bind fun _ _ => .pure (h.trans h')

namespace Loader

/-- Loading the unloaded modules again extends the loader. -/
theorem meets_reloadAll (l : Loader) (unloaded : List Unloaded) :
    (l.reloadAll unloaded).Meets IsOrdinary fun p => l.Extends p.loader := by
  have hstep (batch : List String) (p : Progress) (u : Unloaded) (h : l.Extends p.loader) :
      (p.reload batch u).Meets IsOrdinary fun p' => l.Extends p'.loader :=
    (p.meets_reload batch u).mono fun _ h' => h.trans h'
  refine (Meets.foldlM (hstep _) (b := Progress.start l) .refl unloaded).bind fun p h => ?_
  exact .pure (h.withStaged .empty)

/-- The dynamic modules are dropped before they are loaded again. -/
theorem meets_dropDynamic (l : Loader) :
    l.dropDynamic.Meets IsOrdinary fun a => l.Extends a.2 := by
  refine l.dynamicContext.meets_announceReload.bind fun r _ => ?_
  cases r with
  | error e => exact .pure .refl
  | ok _ =>
    exact l.dynamicContext.meets_unload.bind fun (r, c) h =>
      .pure ⟨rfl, rfl, fun _ => rfl, .refl, h⟩

/-- The entry points of the dynamic modules are started when these have been loaded again. -/
theorem meets_restart (l : Loader) : l.restart.Meets IsOrdinary l.Extends := by
  have hlevel (c : Context) (level : RunLevel) (h : l.dynamicContext.Reaches c) :
      (c.enterLevel level).Meets IsOrdinary l.dynamicContext.Reaches :=
    (c.meets_enterLevel level).mono fun _ h' => h.trans h'
  refine (Meets.foldlM hlevel (.withReloading true .refl) _).bind fun c h => .pure ?_
  exact ⟨rfl, rfl, fun _ => rfl, .refl, h.withReloading false⟩

end Loader

end ModuleRuntime.Module
