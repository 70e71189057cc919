import ModuleRuntime.Proofs.Context.Content
import ModuleRuntime.Proofs.Reload.Clock

/-!
# What loaders ask of their contexts

Whatever a loader is asked, it logs and asks its contexts one thing after the other, and changes
them in no other way. A load comes to one load of a context at most, and a call to all entry points
comes to the same call of each context. A reload comes to a notice, an unload, loads, the start of
what was loaded, and, if it ends at once, another notice, all of the dynamic context.
-/

set_option autoImplicit false

namespace ModuleRuntime.Module

open Journaled (Chain Leads)

namespace Loader

variable {α : Type} {l : Loader} {admits : Context.Request → Prop} {r : Context.Request}
  {s d : Context}

/-- Both contexts of a loader, the static one first. -/
def contexts (l : Loader) : Context × Context :=
  (l.staticContext, l.dynamicContext)

/-- What a loader does at a time: it logs, or it asks one of its contexts something that is
admitted. -/
inductive Asks (admits : Context.Request → Prop) :
    Context × Context → List Activity → Context × Context → Prop where
  | log (entry : Log.Entry) (both : Context × Context) : Asks admits both [.logged entry] both
  | static {r : Context.Request} (hr : admits r) (s d : Context) :
      Asks admits (s, d) (s.perform r).journal ((s.perform r).value, d)
  | dynamic {r : Context.Request} (hr : admits r) (s d : Context) :
      Asks admits (s, d) (d.perform r).journal (s, (d.perform r).value)

/-- What admits more requests admits these too. -/
theorem Asks.mono {admits' : Context.Request → Prop} (hadmits : ∀ r, admits r → admits' r)
    {both both' : Context × Context} {j : List Activity} (h : Asks admits both j both') :
    Asks admits' both j both' := by
  cases h with
  | log entry => exact .log entry _
  | static hr => exact .static (hadmits _ hr) _ _
  | dynamic hr => exact .dynamic (hadmits _ hr) _ _

/-- A request to the static context leaves the dynamic one alone. -/
theorem leads_static (hr : admits r) (s d : Context) :
    (s.perform r).Leads (Asks admits) (s, d) fun s' => (s', d) :=
  .single (.static hr s d)

/-- A request to the dynamic context leaves the static one alone. -/
theorem leads_dynamic (hr : admits r) (s d : Context) :
    (d.perform r).Leads (Asks admits) (s, d) fun d' => (s, d') :=
  .single (.dynamic hr s d)

/-- What is only logged changes no context. -/
theorem leads_logged (x : Journaled Log.Entry α) (both : Context × Context) :
    (x.mapJournal Activity.logged).Leads (Asks admits) both fun _ => both := by
  suffices h : ∀ entries : List Log.Entry,
      Chain (Asks admits) both (entries.map Activity.logged) both from h x.journal
  intro entries
  induction entries with
  | nil => exact .nil both
  | cons entry rest ih => exact .cons (.log entry both) ih

/-- Logging a load changes no context. -/
theorem leads_log (level : Log.Level) (event message : String) (fields : List (String × String))
    (both : Context × Context) :
    (log level event message fields).Leads (Asks admits) both fun _ => both :=
  .single (.log _ both)

/-- Logging a reload changes no context. -/
theorem leads_logReload (level : Log.Level) (event message : String)
    (fields : List (String × String)) (both : Context × Context) :
    (logReload level event message fields).Leads (Asks admits) both fun _ => both :=
  .single (.log _ both)

/-! ## Loads -/

/-- An inspection changes no context. -/
theorem leads_inspect (l : Loader) (image : Image) :
    (l.inspect image).Leads (Asks admits) l.contexts fun a => a.2.contexts :=
  (leads_logged ..).bind fun _ => .pure rfl

/-- Inspecting the images of a batch changes no context. -/
theorem leads_inspectAll (l : Loader) (images : List Image) :
    (l.inspectAll images).Leads (Asks admits) l.contexts fun a => a.2.contexts := by
  induction images generalizing l with
  | nil => exact .pure rfl
  | cons image rest ih =>
    exact (l.leads_inspect image).bind fun (_, l') => (ih l').bind fun _ => .pure rfl

/-- Vetting the references of a module changes no context. -/
theorem leads_vetReferences (l : Loader) (d : Descriptor) (batch : List String) :
    (l.vetReferences d batch).Leads (Asks admits) l.contexts fun _ => l.contexts := by
  unfold vetReferences
  split
  · split
    · exact (leads_log ..).bind fun _ => .pure rfl
    · exact .pure rfl
  · exact .pure rfl

/-- Finding what a module is loaded from changes no context. -/
theorem leads_replacement (l : Loader) (u : Unloaded) :
    (l.replacement u).Leads (Asks admits) l.contexts fun a => a.2.contexts := by
  unfold replacement
  split
  · exact .pure rfl
  · exact (leads_inspect _ _).bind fun _ => .pure rfl

section Loads

variable (hload : ∀ d image, admits (.load d image))

include hload

/-- Placing a module comes to one load of the context in which it belongs. -/
theorem leads_place (l : Loader) (d : Descriptor) (image : Image) :
    (l.place d image).Leads (Asks admits) l.contexts fun a => a.2.contexts := by
  unfold place
  split
  · have hplaced : (l.dynamicContext.load d image).Leads (Asks admits) l.contexts
        fun a => (l.staticContext, a.2) := Leads.map_iff.mp (leads_dynamic (hload d image) ..)
    exact hplaced.bind fun _ => .pure rfl
  · have hplaced : (l.staticContext.load d image).Leads (Asks admits) l.contexts
        fun a => (a.2, l.dynamicContext) := Leads.map_iff.mp (leads_static (hload d image) ..)
    exact hplaced.bind fun _ => .pure rfl

/-- Settling a claim comes to one load of a context. -/
theorem leads_settle (l : Loader) (d : Descriptor) (image : Image) :
    (l.settle d image).Leads (Asks admits) l.contexts fun a => a.2.contexts := by
  refine (leads_place hload l d image).bind fun (r, l') => ?_
  cases r with
  | ok handle =>
    dsimp only
    split <;> exact .pure rfl
  | error e => exact (leads_logged ..).bind fun _ => .pure rfl

/-- Loading an inspected module comes to one load of a context at most. -/
theorem leads_loadInspected (l : Loader) (d : Descriptor) (image : Image) (batch : List String) :
    (l.loadInspected d image batch).Leads (Asks admits) l.contexts fun a => a.2.contexts := by
  refine (l.leads_vetReferences d batch).bind fun r => ?_
  cases r with
  | error e => exact .pure rfl
  | ok _ =>
    refine (leads_logged ..).bind fun r => ?_
    cases r with
    | error c => exact .pure rfl
    | ok registry => exact (leads_settle hload _ d image).bind fun _ => .pure rfl

/-- Loading an image comes to one load of a context at most. -/
theorem leads_load (l : Loader) (image : Image) :
    (l.load image).Leads (Asks admits) l.contexts fun a => a.2.contexts := by
  refine (l.leads_inspect image).bind fun (r, l') => ?_
  cases r with
  | error e => exact .pure rfl
  | ok d => exact (leads_loadInspected hload l' d image []).bind fun _ => .pure rfl

end Loads

end Loader

namespace Progress

open Loader (Asks leads_log leads_logReload)

variable {admits : Context.Request → Prop}

/-- Sorting the inspected images changes no context. -/
theorem leads_sift (p : Progress) (inspected : List (Image × Result Descriptor)) :
    (p.sift inspected).Leads (Asks admits) p.loader.contexts fun a => a.2.loader.contexts := by
  induction inspected generalizing p with
  | nil => exact .pure rfl
  | cons entry rest ih =>
    obtain ⟨image, r⟩ := entry
    cases r with
    | ok d => exact (ih p).bind fun _ => .pure rfl
    | error e =>
      rw [sift]
      exact (leads_log ..).bind fun _ =>
        ih { p with skipped := p.skipped ++ [⟨image.shownPath, e⟩] }

/-- Skipping a module of a cycle changes no context. -/
theorem leads_skipCyclic (p : Progress) (d : Descriptor) :
    (p.skipCyclic d).Leads (Asks admits) p.loader.contexts fun p' => p'.loader.contexts :=
  (leads_log ..).bind fun _ => .pure rfl

/-- By induction on the modules that are left. -/
theorem leads_loadEach (hload : ∀ d image, admits (.load d image)) (batch : List String)
    (p : Progress) (members : List (Descriptor × Image)) :
    (p.loadEach batch members).Leads (Asks admits) p.loader.contexts
      fun a => a.2.loader.contexts := by
  induction members generalizing p with
  | nil => exact .pure rfl
  | cons member rest ih =>
    obtain ⟨d, image⟩ := member
    rw [loadEach]
    cases p.missingReference? d with
    | some name => exact (leads_log ..).bind fun _ => ih (p.skip d.id d _)
    | none =>
      refine (Loader.leads_loadInspected hload p.loader d image batch).bind fun answer => ?_
      obtain ⟨r, l⟩ := answer
      cases r with
      | ok handle => exact ih _
      | error failure =>
        dsimp only
        split
        · exact (leads_log ..).bind fun _ => .pure rfl
        · exact ih _

/-- Loading a module again is a load. -/
theorem leads_reload (hload : ∀ d image, admits (.load d image)) (batch : List String)
    (p : Progress) (u : Unloaded) :
    (p.reload batch u).Leads (Asks admits) p.loader.contexts fun p' => p'.loader.contexts := by
  refine (Loader.leads_replacement p.loader u).bind fun (r, l) => ?_
  cases r with
  | error e => exact .pure rfl
  | ok found =>
    obtain ⟨d, image⟩ := found
    dsimp only
    split
    · exact .pure rfl
    · split
      · exact (leads_logReload ..).bind fun _ => .pure rfl
      · refine (Loader.leads_loadInspected hload l d image batch).bind fun (r, l') => ?_
        cases r with
        | ok handle => exact .pure rfl
        | error failure => exact (leads_logReload ..).bind fun _ => .pure rfl

end Progress

namespace Loader

variable {l : Loader} {admits : Context.Request → Prop}

/-- Loading a batch comes to loads of the contexts. -/
theorem leads_loadBatch (hload : ∀ d image, admits (.load d image)) (l : Loader)
    (images : List Image) :
    (l.loadBatch images).Leads (Asks admits) l.contexts fun a => a.2.contexts := by
  refine (l.leads_inspectAll images).bind fun (inspected, l') => ?_
  refine ((Progress.start l').leads_sift inspected).bind fun (candidates, p) => ?_
  refine (Leads.foldlM Progress.leads_skipCyclic p _).bind fun p' => ?_
  refine (Progress.leads_loadEach hload _ p' _).bind fun (r, p'') => ?_
  cases r with
  | error e => exact .pure rfl
  | ok _ => exact (leads_log ..).bind fun _ => .pure rfl

/-! ## Calls to all entry points -/

/-- Both contexts enter the level. -/
theorem leads_enterLevel {level : RunLevel} (hlevel : admits (.enterLevel level)) (l : Loader) :
    (l.enterLevel level).Leads (Asks admits) l.contexts contexts :=
  (leads_static hlevel l.staticContext l.dynamicContext).bind fun s' =>
    (leads_dynamic hlevel s' l.dynamicContext).bind fun _ => .pure rfl

/-- Both contexts are updated, or the static one alone. -/
theorem leads_update {level : UpdateLevel} {frame : Frame} (hupdate : admits (.update level frame))
    (l : Loader) :
    (l.update level frame).Leads (Asks admits) l.contexts fun _ => l.contexts := by
  have hstatic : (l.staticContext.update level frame).Leads (Asks admits) l.contexts
      fun _ => l.contexts := Leads.map_iff.mp (leads_static hupdate ..)
  refine hstatic.bind fun _ => ?_
  split
  · exact Leads.map_iff.mp (leads_dynamic hupdate ..)
  · exact .pure rfl

/-- Both contexts are shut down. -/
theorem leads_shutdown (hshutdown : admits .shutdown) (l : Loader) :
    l.shutdown.Leads (Asks admits) l.contexts contexts :=
  (leads_static hshutdown l.staticContext l.dynamicContext).bind fun s' =>
    (leads_dynamic hshutdown s' l.dynamicContext).bind fun _ => .pure rfl

/-! ## Reloads -/

/-- The modules are loaded again, and their entry points start. -/
theorem leads_reloadAll (hload : ∀ d image, admits (.load d image)) (l : Loader)
    (unloaded : List Unloaded) :
    (l.reloadAll unloaded).Leads (Asks admits) l.contexts fun p => p.loader.contexts :=
  (Leads.foldlM (Progress.leads_reload hload _) (Progress.start l) unloaded).bind fun _ => .pure rfl

/-- Starting the reloaded entry points comes to requests to the dynamic context. -/
theorem leads_restart (hlevel : ∀ level, admits (.enterLevel level))
    (hreloading : ∀ isReloading, admits (.withReloading isReloading)) (l : Loader) :
    l.restart.Leads (Asks admits) l.contexts contexts := by
  -- The switch that is turned on before and off after the calls is a request like they are.
  show (do
    let d ← l.dynamicContext.perform (.withReloading true)
    let d ← [RunLevel.preInit, .init, .postInit].foldlM
      (fun d level => d.perform (.enterLevel level)) d
    let d ← d.perform (.withReloading false)
    return { l with dynamicContext := d } : Journaled Activity Loader).Leads _ _ _
  refine (leads_dynamic (hreloading true) ..).bind fun d => ?_
  refine (Leads.foldlM (fun d level => leads_dynamic (hlevel level) l.staticContext d) d _).bind
    fun d => ?_
  exact (leads_dynamic (hreloading false) ..).bind fun _ => .pure rfl

end Loader

end ModuleRuntime.Module
