import ModuleRuntime.Proofs.Reload.Notice

/-!
# How a reload fills the dynamic context again

Between the end of the old dynamic entry points and the start of the new ones, a reload only logs
and loads modules into the dynamic context. So the static context stays what it is, and nothing is
called but new entry points of the dynamic context, each by the hooks by which it is created and
given what the host has for it, in the order in which they stand there.
-/

set_option autoImplicit false

namespace ModuleRuntime.Module

open Journaled (Chain Leads)

namespace Context

variable {c c' c'' : Context} {next more : List HookCall}

/-- Entry points were added to a context behind those that it had, and nothing else was called than
these, which are new, by the calls that create them. -/
structure Filled (c : Context) (next : List HookCall) (c' : Context) : Prop where
  supportsReload : c'.supportsReload = c.supportsReload
  dependencies : c'.dependencies = c.dependencies
  callbacks : c'.callbacks = c.callbacks
  added : ∃ new : List Host, c'.hosts = c.hosts ++ new ∧ (∀ h ∈ new, h.state = .uninitialized) ∧
    next = (new.map (·.addressee)).flatMap (·.creationCalls c.dependencies c.callbacks)

/-- No entry point is added. -/
theorem Filled.refl : c.Filled [] c :=
  ⟨rfl, rfl, rfl, [], (List.append_nil _).symm, fun _ h => absurd h List.not_mem_nil, rfl⟩

/-- Some entry points and then others are added. -/
theorem Filled.trans (h : c.Filled next c') (h' : c'.Filled more c'') :
    c.Filled (next ++ more) c'' := by
  obtain ⟨new, hhosts, hnew, hnext⟩ := h.added
  obtain ⟨later, hhosts', hlater, hmore⟩ := h'.added
  refine ⟨h'.supportsReload.trans h.supportsReload, h'.dependencies.trans h.dependencies,
    h'.callbacks.trans h.callbacks, new ++ later, ?_, ?_, ?_⟩
  · rw [hhosts', hhosts, List.append_assoc]
  · intro k hk
    rcases List.mem_append.mp hk with hk | hk
    · exact hnew k hk
    · exact hlater k hk
  · rw [hmore, hnext, h.dependencies, h.callbacks, List.map_append, List.flatMap_append]

/-- A load leaves what the context gives to new entry points as it is. -/
theorem load_settings (c : Context) (d : Descriptor) (image : Image) :
    (c.load d image).value.2.dependencies = c.dependencies ∧
      (c.load d image).value.2.callbacks = c.callbacks := by
  unfold load
  split
  · exact ⟨rfl, rfl⟩
  · dsimp only
    split <;> exact ⟨rfl, rfl⟩

/-- A load adds the entry points of its module, if it succeeds, and nothing else. -/
theorem filled_load (c : Context) (d : Descriptor) (image : Image) :
    c.Filled (calls (c.load d image).journal) (c.load d image).value.2 := by
  obtain ⟨hdependencies, hcallbacks⟩ := c.load_settings d image
  refine ⟨(c.frame_perform (.load d image)).2.1, hdependencies, hcallbacks, ?_⟩
  rcases c.load_course d image with ⟨-, hslots, hcalls⟩ | ⟨s, -, hslots, -, -, hnew, hcalls⟩
  · refine ⟨[], ?_, fun _ h => absurd h List.not_mem_nil, hcalls⟩
    rw [hosts, hslots, List.append_nil]
    rfl
  · refine ⟨s.hosts, ?_, hnew, hcalls⟩
    rw [hosts, hslots, List.flatMap_append, List.flatMap_singleton]
    rfl

end Context

namespace Loader

variable {α : Type} {l : Loader} {d : Descriptor} {image : Image} {batch : List String}
  {both both' : Context × Context} {j : List Activity}

/-- What a reload does at a time while it loads modules: it logs, or it loads a module into the
dynamic context. -/
inductive Fills : Context × Context → List Activity → Context × Context → Prop where
  | log (entry : Log.Entry) (both : Context × Context) : Fills both [.logged entry] both
  | load (d : Descriptor) (image : Image) (s c : Context) :
      Fills (s, c) (c.load d image).journal (s, (c.load d image).value.2)

/-- However many modules are loaded so, they fill the dynamic context, and the static one stays what
it is. -/
theorem filled_of_fills (h : Chain Fills both j both') :
    both'.1 = both.1 ∧ both.2.Filled (calls j) both'.2 := by
  induction h with
  | nil => exact ⟨rfl, .refl⟩
  | cons hstep _ ih =>
    obtain ⟨hstatic, hfilled⟩ := ih
    rw [calls_append]
    cases hstep with
    | log entry => exact ⟨hstatic, hfilled⟩
    | load d image s c => exact ⟨hstatic, (c.filled_load d image).trans hfilled⟩

/-- What asks nothing of the contexts only logs. -/
theorem fills_of_silent {x : Journaled Activity α} {view : α → Context × Context}
    (h : x.Leads (Asks fun _ => False) both view) : x.Leads Fills both view := by
  refine h.mono fun hstep => ?_
  cases hstep with
  | log entry => exact .log entry _
  | static hr => exact hr.elim
  | dynamic hr => exact hr.elim

/-! ## Loads of dynamic modules -/

/-- Placing a dynamic module adds its entry points to the dynamic context. -/
theorem fills_place (hd : l.isDynamic d = true) (image : Image) :
    (l.place d image).Leads Fills l.contexts fun a => a.2.contexts := by
  have hplaced : (l.dynamicContext.load d image).Leads Fills l.contexts
      fun a => (l.staticContext, a.2) := .single (.load d image ..)
  unfold place
  rw [if_pos hd]
  exact hplaced.bind fun _ => .pure rfl

/-- Settling the claim of a dynamic module adds its entry points to the dynamic context. -/
theorem fills_settle (hd : l.isDynamic d = true) (image : Image) :
    (l.settle d image).Leads Fills l.contexts fun a => a.2.contexts := by
  refine (fills_place hd image).bind fun (r, l') => ?_
  cases r with
  | ok handle =>
    dsimp only
    split <;> exact .pure rfl
  | error e => exact (fills_of_silent (leads_logged ..)).bind fun _ => .pure rfl

/-- Loading an inspected dynamic module adds its entry points to the dynamic context, if any. -/
theorem fills_loadInspected (hd : l.isDynamic d = true) (image : Image) (batch : List String) :
    (l.loadInspected d image batch).Leads Fills l.contexts fun a => a.2.contexts := by
  refine (fills_of_silent (l.leads_vetReferences d batch)).bind fun r => ?_
  cases r with
  | error e => exact .pure rfl
  | ok _ =>
    refine (fills_of_silent (leads_logged ..)).bind fun r => ?_
    cases r with
    | error c => exact .pure rfl
    | ok registry =>
      have hsettled : (settle { l with registry := registry } d image).Leads Fills l.contexts
          fun a => a.2.contexts := fills_settle (l := { l with registry := registry }) hd image
      exact hsettled.bind fun _ => .pure rfl

end Loader

open Loader (Fills leads_logReload fills_of_silent) in
/-- Where live reload is on, loading a module again is a load into the dynamic context, because what
does not support reloads any more is not loaded. -/
theorem Progress.fills_reload (batch : List String) {p : Progress}
    (hlive : p.loader.config.liveReload = true) (u : Unloaded) :
    (p.reload batch u).Leads Fills p.loader.contexts fun p' => p'.loader.contexts := by
  have hconfig := (p.loader.meets_replacement u).value.config
  refine (fills_of_silent (p.loader.leads_replacement u)).bind_value ?_
  generalize (p.loader.replacement u).value = answer at hconfig
  obtain ⟨r, l⟩ := answer
  cases r with
  | error e => exact .pure rfl
  | ok found =>
    obtain ⟨d, image⟩ := found
    dsimp only
    split
    · exact .pure rfl
    · next hsupports =>
      have hd : l.isDynamic d = true := by
        unfold Loader.isDynamic
        rw [show l.config.liveReload = true from hconfig ▸ hlive, Bool.true_and]
        simpa using hsupports
      split
      · exact (fills_of_silent (leads_logReload ..)).bind fun _ => .pure rfl
      · refine (Loader.fills_loadInspected hd image batch).bind fun (r, l') => ?_
        cases r with
        | ok handle => exact .pure rfl
        | error failure => exact (fills_of_silent (leads_logReload ..)).bind fun _ => .pure rfl

/-- When the modules were loaded again, the dynamic context has been filled, and the static one is
what it was. -/
theorem Loader.filled_reloadAll {l : Loader} (hlive : l.config.liveReload = true)
    (unloaded : List Unloaded) :
    (l.reloadAll unloaded).value.loader.staticContext = l.staticContext ∧
      l.dynamicContext.Filled (calls (l.reloadAll unloaded).journal)
        (l.reloadAll unloaded).value.loader.dynamicContext := by
  have hstep (batch : List String) (p : Progress) (u : Unloaded)
      (hp : p.loader.config.liveReload = true) :
      (p.reload batch u).Leads Fills p.loader.contexts (fun p' => p'.loader.contexts) ∧
        (p.reload batch u).value.loader.config.liveReload = true :=
    ⟨p.fills_reload batch hp u, (p.meets_reload batch u).value.config ▸ hp⟩
  have hall : (l.reloadAll unloaded).Leads Fills l.contexts fun p => p.loader.contexts :=
    (Leads.foldlM_of (hstep _) (b := Progress.start l) hlive unloaded).bind fun _ => .pure rfl
  exact filled_of_fills hall

/-! ## The contexts through a reload -/

/-- A context that starts all its entry points as after a reload. -/
def Context.restart (c : Context) : Journaled Activity Context := do
  let c ← [RunLevel.preInit, .init, .postInit].foldlM enterLevel (c.withReloading true)
  return c.withReloading false

namespace Loader

variable {l : Loader}

/-- Starting the reloaded entry points concerns the dynamic context only. -/
theorem restart_eq (l : Loader) :
    l.restart = do return { l with dynamicContext := ← l.dynamicContext.restart } := by
  unfold restart Context.restart
  simp only [bind_assoc, pure_bind]

/-- A reload that is accepted unloads the dynamic context, fills it and starts it again. It tells
the listeners of its end if no inspection is open, and the static context stays what it is. -/
theorem Invariant.startReload_refills (h : l.Invariant) (hlive : l.config.liveReload = true)
    (hmid : l.isMidReload = false) :
    ∃ report l' loads filled, l.startReload.value = (.ok report, l') ∧
      l'.staticContext = l.staticContext ∧
      (l.dynamicContext.perform .unload).value.Filled loads filled ∧
      l'.dynamicContext = filled.restart.value ∧
      calls l.startReload.journal =
        calls (l.dynamicContext.perform .announceReload).journal ++
          (calls (l.dynamicContext.perform .unload).journal ++
            (loads ++ (calls filled.restart.journal ++ if l.gauge.openCount = 0 then
              calls (l'.dynamicContext.perform .announceReloadEnd).journal else []))) := by
  obtain ⟨dropped, hdropped, hcontexts, hvalue, hcalls⟩ :=
    startReload_stages h.supportsReload hlive hmid
  obtain ⟨hstatic, hdynamic⟩ := Prod.mk.inj hcontexts
  have hlive' : dropped.config.liveReload = true := hdropped.config ▸ hlive
  obtain ⟨hkept, hfilled⟩ := filled_reloadAll hlive' l.layout.unloaded
  have hagain := (dropped.meets_reloadAll l.layout.unloaded).value
  generalize (dropped.reloadAll l.layout.unloaded).value = p at *
  generalize (dropped.reloadAll l.layout.unloaded).journal = loads at *
  have hstarted := p.loader.meets_restart.value
  have hready := (hdropped.trans hagain).trans hstarted
  have hsupports : p.loader.restart.value.dynamicContext.supportsReload = true :=
    hready.dynamic.frame.2.trans h.supportsReload
  have hgauge : p.loader.restart.value.gauge = l.gauge :=
    hready.gauge h.sound.openCount_ne_zero
  rw [value_endOrWait_eq hsupports hready.isMidReload] at hvalue
  rw [calls_endOrWait hsupports hready.isMidReload, hgauge, restart_eq] at hcalls
  refine ⟨_, _, calls loads, p.loader.dynamicContext, hvalue, ?_, hdynamic ▸ hfilled, ?_, ?_⟩
  · rw [restart_eq]
    exact hkept.trans hstatic
  · rw [restart_eq]
    rfl
  · rw [hcalls]
    simp only [restart_eq, Journaled.journal_bind, Journaled.journal_pure, List.append_nil]

end Loader

end ModuleRuntime.Module
