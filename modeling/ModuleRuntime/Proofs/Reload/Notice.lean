import ModuleRuntime.Proofs.Context.Presence
import ModuleRuntime.Proofs.Loading.Request
import ModuleRuntime.Proofs.Reload.Ending

/-!
# Notices of reloads

The listeners of the dynamic context are told when a reload starts, and again when it ends. Neither
heeds how far the entry points have come, so those that a shutdown has disposed of are told as well:
of the start if they were shut down before it, and of the end if that was awaited and they were shut
down in the meantime. Nothing else reaches an entry point that has been disposed of, and a reload
that ends at once tells none of them of its end, because all of its entry points have just started.
-/

set_option autoImplicit false

namespace ModuleRuntime.Module

open Journaled (Chain Leads)

namespace Context

variable {c : Context} {r : Request}

/-- Requests by which no listener is told of a reload. -/
def Request.IsQuiet : Request → Prop
  | .announceReload | .announceReloadEnd => False
  | _ => True

/-- Quiet requests by which no entry point comes to its end. -/
def Request.IsConstructive : Request → Prop
  | .announceReload | .announceReloadEnd | .shutdown | .unload => False
  | _ => True

/-- Where nothing comes to its end nobody is told of a reload. -/
theorem Request.IsConstructive.isQuiet (h : r.IsConstructive) : r.IsQuiet := by
  cases r with
  | announceReload | announceReloadEnd | shutdown | unload => exact h.elim
  | _ => trivial

/-- A quiet request tells nobody of a reload. -/
theorem Request.IsQuiet.notice?_eq_none (h : r.IsQuiet) (c : Context) : c.notice? r = none := by
  cases r with
  | announceReload | announceReloadEnd => exact h.elim
  | _ => rfl

/-- Whether no entry point of a context has begun to shut down. -/
def IsUp (c : Context) : Prop :=
  ∀ h ∈ c.hosts, h.state.isUp = true

/-- As long as no entry point comes to its end, all that are up stay so, and so are new ones. -/
theorem IsUp.perform (hc : c.IsUp) (hr : r.IsConstructive) : (c.perform r).value.IsUp := by
  have hacts := c.acts_perform r
  unfold IsUp at hc ⊢
  generalize calls (c.perform r).journal = next, (c.perform r).value.hosts = hosts at hacts
  cases hacts with
  | rest => exact hc
  | create hnew =>
    intro h hh
    rcases List.mem_append.mp hh with hh | hh
    · exact hc h hh
    · rw [hnew h hh]
      rfl
  | goOn _ hgoes =>
    intro h' hh'
    obtain ⟨h, hh, rfl⟩ := List.mem_map.mp hh'
    rw [(hgoes h).isUp]
    exact hc h hh
  | notify _ => exact hc
  | tearDown hend => exact (hend ▸ hr : Request.IsConstructive .shutdown).elim
  | unload hend => exact (hend ▸ hr : Request.IsConstructive .unload).elim

/-- As long as all entry points are up, no notice is late. -/
theorem IsUp.not_isLateNotice (hc : c.IsUp) (notice? : Option Hook) (call : HookCall) :
    ¬IsLateNotice notice? c.hosts call := by
  rintro ⟨-, h, hh, hstate, -⟩
  have hup := hc h hh
  rw [hstate] at hup
  cases hup

end Context

namespace Loader

open Context (Request)
open Presence (ofHosts)

variable {l : Loader} {permits : HookCall → Prop} {both both' : Context × Context}
  {j : List Activity}

/-! ## Who is present -/

/-- The entry points of two contexts that have not been disposed of. -/
def present (both : Context × Context) : Multiset Addressee :=
  ofHosts both.1.hosts + ofHosts both.2.hosts

/-- A request to the static context, seen from both. -/
theorem course_static (r : Request) (s d : Context) :
    Presence.Course (IsLateNotice (s.notice? r) s.hosts) (present (s, d))
      (calls (s.perform r).journal) (present ((s.perform r).value, d)) :=
  (s.acts_perform r).course.frame _

/-- A request to the dynamic context, seen from both. -/
theorem course_dynamic (r : Request) (s d : Context) :
    Presence.Course (IsLateNotice (d.notice? r) d.hosts) (present (s, d))
      (calls (d.perform r).journal) (present (s, (d.perform r).value)) := by
  have hcourse := (d.acts_perform r).course.frame (ofHosts s.hosts)
  rw [Multiset.add_comm, Multiset.add_comm (ofHosts (d.perform r).value.hosts)] at hcourse
  exact hcourse

/-- Quiet requests reach nobody who has left. -/
theorem Asks.course (h : Asks Request.IsQuiet both j both') :
    Presence.Course permits (present both) (calls j) (present both') := by
  have hnone {r : Request} (hr : r.IsQuiet) (c : Context) (call : HookCall) :
      IsLateNotice (c.notice? r) c.hosts call → permits call := by
    rintro ⟨hsome, -⟩
    rw [hr.notice?_eq_none] at hsome
    cases hsome
  cases h with
  | log entry => exact .nil _
  | @static r hr s d => exact (course_static r s d).mono (hnone hr s)
  | @dynamic r hr s d => exact (course_dynamic r s d).mono (hnone hr d)

/-- By induction on what the loader asks. -/
theorem course_of_leads (h : Chain (Asks Request.IsQuiet) both j both') :
    Presence.Course permits (present both) (calls j) (present both') := by
  induction h with
  | nil => exact .nil _
  | cons hstep _ ih =>
    rw [calls_append]
    exact hstep.course.trans ih

/-- As long as no entry point comes to its end, all that are up in the dynamic context stay so. -/
theorem isUp_of_leads (h : Chain (Asks Request.IsConstructive) both j both') (hup : both.2.IsUp) :
    both'.2.IsUp := by
  induction h with
  | nil => exact hup
  | cons hstep _ ih =>
    refine ih ?_
    cases hstep with
    | log => exact hup
    | static => exact hup
    | dynamic hr => exact hup.perform hr

/-! ## The parts of a reload -/

/-- When the dynamic modules are dropped, the listeners are told before all are unloaded. -/
theorem dropDynamic_eq (h : l.dynamicContext.supportsReload = true) :
    ∃ dropped, l.dropDynamic = ⟨(.ok l.layout.unloaded, dropped),
        (l.dynamicContext.perform .announceReload).journal ++
          (l.dynamicContext.perform .unload).journal⟩ ∧
      dropped.contexts = (l.staticContext, (l.dynamicContext.perform .unload).value) := by
  obtain ⟨hunloaded, -⟩ := l.dynamicContext.value_unload h
  refine ⟨{ l with
    dynamicContext := (l.dynamicContext.perform .unload).value
    registry := l.registry.forgetDynamic.2 }, Journaled.ext ?_ ?_, rfl⟩
  · unfold dropDynamic Context.announceReload
    simp only [Journaled.value_bind, value_notify h, hunloaded, Journaled.value_pure]
    rfl
  · unfold dropDynamic Context.perform Context.announceReload
    simp only [Journaled.journal_bind, value_notify h, Journaled.journal_map,
      Journaled.journal_pure, List.append_nil]

/-- The stages of a reload that is accepted: the listeners are told and the dynamic modules are
unloaded, these are loaded again, their entry points start, and the reload ends or waits. -/
theorem startReload_stages (h : l.dynamicContext.supportsReload = true)
    (hlive : l.config.liveReload = true) (hmid : l.isMidReload = false) :
    ∃ dropped : Loader, ({ l with isMidReload := true } : Loader).Extends dropped ∧
      dropped.contexts = (l.staticContext, (l.dynamicContext.perform .unload).value) ∧
      let again := dropped.reloadAll l.layout.unloaded
      let started := again.value.loader.restart
      let ended := started.value.endOrWait
      l.startReload.value =
          (ended.value.1.map (⟨again.value.loaded.map Prod.fst, again.value.skipped, ·⟩),
            ended.value.2) ∧
        calls l.startReload.journal =
          calls (l.dynamicContext.perform .announceReload).journal ++
            (calls (l.dynamicContext.perform .unload).journal ++
              (calls again.journal ++ (calls started.journal ++ calls ended.journal))) := by
  obtain ⟨dropped, hdrop, hcontexts⟩ := dropDynamic_eq (l := { l with isMidReload := true }) h
  have hdropped := (meets_dropDynamic { l with isMidReload := true }).value
  rw [hdrop] at hdropped
  refine ⟨dropped, hdropped, hcontexts, ?_, ?_⟩
  · unfold startReload
    simp only [hlive, hmid, Bool.not_true, Bool.false_eq_true, if_false, Journaled.value_bind,
      hdrop]
    rfl
  · unfold startReload
    simp only [hlive, hmid, Bool.not_true, Bool.false_eq_true, if_false, Journaled.journal_bind,
      Journaled.journal_pure, List.append_nil, hdrop, calls_append, List.append_assoc]
    rfl

/-- What is loaded again and started comes to no entry point but by constructive requests, and then
the reload ends or waits. -/
theorem startReload_parts (h : l.dynamicContext.supportsReload = true)
    (hlive : l.config.liveReload = true) (hmid : l.isMidReload = false) :
    ∃ (again : List Activity) (ready : Loader),
      Chain (Asks Request.IsConstructive)
        (l.staticContext, (l.dynamicContext.perform .unload).value) again ready.contexts ∧
      ready.isMidReload = true ∧ ready.dynamicContext.supportsReload = true ∧
      (l.perform .startReload).value = ready.endOrWait.value.2 ∧
      calls (l.perform .startReload).journal =
        calls (l.dynamicContext.perform .announceReload).journal ++
          (calls (l.dynamicContext.perform .unload).journal ++
            (calls again ++ calls ready.endOrWait.journal)) := by
  obtain ⟨dropped, hdropped, hcontexts, hvalue, hcalls⟩ := startReload_stages h hlive hmid
  have hreloaded := (dropped.meets_reloadAll l.layout.unloaded).value
  have hreload : (dropped.reloadAll l.layout.unloaded).Leads (Asks Request.IsConstructive)
      dropped.contexts fun p => p.loader.contexts := leads_reloadAll (fun _ _ => trivial) dropped _
  have hstarted := (dropped.reloadAll l.layout.unloaded).value.loader.meets_restart.value
  have hstart : (dropped.reloadAll l.layout.unloaded).value.loader.restart.Leads
      (Asks Request.IsConstructive) (dropped.reloadAll l.layout.unloaded).value.loader.contexts
      contexts := leads_restart (fun _ => trivial) (fun _ => trivial) _
  have hready := (hdropped.trans hreloaded).trans hstarted
  refine ⟨_, _, hcontexts ▸ Chain.trans hreload hstart, hready.isMidReload,
    hready.dynamic.frame.2.trans h, ?_, ?_⟩
  · unfold perform
    rw [Journaled.value_map, hvalue]
  · unfold perform
    rw [Journaled.journal_map, hcalls, calls_append, List.append_assoc]

/-- When a reload ends, the listeners are told, and nobody else is called. -/
theorem calls_endReload (h : l.dynamicContext.supportsReload = true) (hmid : l.isMidReload = true) :
    calls l.endReload.journal = calls (l.dynamicContext.perform .announceReloadEnd).journal := by
  obtain ⟨entry, hjournal⟩ := journal_endReload h hmid
  unfold Context.perform
  rw [hjournal, calls_append, Journaled.journal_map, Context.journal_announceReloadEnd h]
  exact List.append_nil _

/-- What is called when a reload ends at once, or nothing if it has to wait. -/
theorem calls_endOrWait (h : l.dynamicContext.supportsReload = true) (hmid : l.isMidReload = true) :
    calls l.endOrWait.journal = if l.gauge.openCount = 0 then
      calls (l.dynamicContext.perform .announceReloadEnd).journal else [] := by
  unfold endOrWait Gauge.arm
  by_cases hopen : l.gauge.openCount = 0
  · have hend := calls_endReload (l := { l with gauge := ⟨0, false, false⟩ }) h hmid
    simp only [hopen, if_true, Journaled.journal_bind, Journaled.journal_pure, List.append_nil]
    exact hend
  · simp only [hopen, if_false]
    rfl

/-- What is called when a reload ends that has waited, or nothing if it need not end yet. -/
theorem calls_endWaiting (h : l.dynamicContext.supportsReload = true) :
    calls l.endWaiting.journal = if l.isMidReload && l.gauge.isReady then
      calls (l.dynamicContext.perform .announceReloadEnd).journal else [] := by
  unfold endWaiting Gauge.takeReady
  cases hmid : l.isMidReload with
  | false => rfl
  | true =>
    cases hready : l.gauge.isReady with
    | false => rfl
    | true =>
      have hend := calls_endReload
        (l := { l with isMidReload := true, gauge := { l.gauge with isReady := false } }) h rfl
      simp only [if_true, Journaled.journal_bind, Journaled.journal_pure, List.append_nil,
        Bool.and_self]
      exact hend

/-! ## Who is called by an operation -/

/-- The hook by which an operation tells the listeners of the dynamic context of a reload, however
far they have come. -/
def notice? (l : Loader) : Operation → Option Hook
  | .startReload =>
    if l.config.liveReload && !l.isMidReload then some .reloadTriggered else none
  | .endWaiting => if l.isMidReload && l.gauge.isReady then some .reloadCompleted else none
  | _ => none

/-- What neither starts nor ends a reload asks only quiet things. -/
theorem leads_perform (l : Loader) {op : Operation} (hstart : op ≠ .startReload)
    (hend : op ≠ .endWaiting) :
    (l.perform op).Leads (Asks Request.IsQuiet) l.contexts contexts := by
  cases op with
  | load image => exact Leads.map_iff.mpr (leads_load (fun _ _ => trivial) l image)
  | loadStream stream path => exact Leads.map_iff.mpr (leads_load (fun _ _ => trivial) l _)
  | loadBatch images => exact Leads.map_iff.mpr (leads_loadBatch (fun _ _ => trivial) l images)
  | stage id image =>
    simp only [perform, stage]
    cases l.dynamicContext.contains id <;> exact .pure rfl
  | startReload => exact absurd rfl hstart
  | endWaiting => exact absurd rfl hend
  | enterLevel level => exact leads_enterLevel trivial l
  | update level frame =>
    exact (leads_update trivial l).bind fun _ => .pure rfl
  | shutdown => exact leads_shutdown trivial l
  | withDependencies dependencies =>
    exact Chain.trans (leads_static (r := .withDependencies dependencies) trivial ..)
      (leads_dynamic (r := .withDependencies dependencies) trivial ..)
  | withCallbacks callbacks =>
    exact Chain.trans (leads_static (r := .withCallbacks callbacks) trivial ..)
      (leads_dynamic (r := .withCallbacks callbacks) trivial ..)
  | openInspection => exact .pure rfl
  | closeInspection =>
    unfold perform
    dsimp only
    split
    · exact .pure rfl
    · exact (leads_logged ..).bind fun _ => .pure rfl

/-- A reload that starts reaches those who have left by the notice of its start only. -/
theorem course_startReload (h : l.dynamicContext.supportsReload = true) :
    Presence.Course (IsLateNotice (l.notice? .startReload) l.dynamicContext.hosts)
      (present l.contexts) (calls (l.perform .startReload).journal)
      (present (l.perform .startReload).value.contexts) := by
  rcases startReload_course h with ⟨-, reason, entry, hv, -⟩ | ⟨hlive, hmid, -⟩
  · simp only [perform, Journaled.journal_map, Journaled.value_map, hv]
    exact .nil _
  · obtain ⟨again, ready, hagain, hready, hsupports, hvalue, hcalls⟩ :=
      startReload_parts h hlive hmid
    have hnotice : l.notice? .startReload = l.dynamicContext.notice? .announceReload := by
      simp [notice?, Context.notice?, hlive, hmid, h]
    rw [hnotice, hvalue, value_endOrWait_eq hsupports hready, hcalls,
      calls_endOrWait hsupports hready]
    refine (course_dynamic .announceReload l.staticContext l.dynamicContext).trans ?_
    refine (course_of_leads (leads_dynamic (r := .unload) trivial ..)).trans ?_
    refine (course_of_leads (hagain.mono (·.mono fun _ => Request.IsConstructive.isQuiet))).trans ?_
    split
    case isFalse => exact .nil _
    case isTrue =>
      -- All dynamic entry points have been created by this reload, so they are up.
      have hup : ready.dynamicContext.IsUp := by
        refine isUp_of_leads hagain fun host hhost => ?_
        rw [(Context.unload_of_supportsReload h).2.1] at hhost
        exact absurd hhost List.not_mem_nil
      exact (course_dynamic .announceReloadEnd ready.staticContext ready.dynamicContext).mono
        fun call hcall => absurd hcall (hup.not_isLateNotice _ call)

/-- A reload that ends later reaches those who have left by the notice of its end only. -/
theorem course_endWaiting (h : l.dynamicContext.supportsReload = true) :
    Presence.Course (IsLateNotice (l.notice? .endWaiting) l.dynamicContext.hosts)
      (present l.contexts) (calls (l.perform .endWaiting).journal)
      (present (l.perform .endWaiting).value.contexts) := by
  have hends : l.notice? .endWaiting = if l.isMidReload && l.gauge.isReady then
      l.dynamicContext.notice? .announceReloadEnd else none := by
    simp only [notice?, Context.notice?, h, if_true]
  simp only [perform, Journaled.journal_map, Journaled.value_map, value_endWaiting_eq h,
    calls_endWaiting h, hends]
  split
  · exact course_dynamic .announceReloadEnd l.staticContext l.dynamicContext
  · exact .nil _

/-- An operation calls entry points that are present, and besides those that its notice
may reach. -/
theorem course_perform (h : l.dynamicContext.supportsReload = true) (op : Operation) :
    Presence.Course (IsLateNotice (l.notice? op) l.dynamicContext.hosts) (present l.contexts)
      (calls (l.perform op).journal) (present (l.perform op).value.contexts) := by
  by_cases hstart : op = .startReload
  · subst hstart
    exact course_startReload h
  · by_cases hend : op = .endWaiting
    · subst hend
      exact course_endWaiting h
    · exact course_of_leads (l.leads_perform hstart hend)

/-- The notice of an operation goes to all listeners of the dynamic context, those who have left
among them. -/
theorem mem_calls_of_notice (h : l.dynamicContext.supportsReload = true) {op : Operation}
    {hook : Hook} (hnotice : l.notice? op = some hook) {host : Host}
    (hhost : host ∈ l.dynamicContext.hosts) (hlistener : host.entry.isListener = true) :
    host.addressee.call hook ∈ calls (l.perform op).journal := by
  have hmem {r : Request} (hr : l.dynamicContext.notice? r = some hook) :
      host.addressee.call hook ∈ calls (l.dynamicContext.perform r).journal := by
    rw [(Context.perform_of_notice hr).2]
    exact List.mem_map.mpr ⟨host, List.mem_filter.mpr ⟨hhost, hlistener⟩, rfl⟩
  cases op with
  | startReload =>
    obtain ⟨haccepted, hhook⟩ := Option.ite_none_right_eq_some.mp hnotice
    rw [Bool.and_eq_true, Bool.not_eq_true'] at haccepted
    obtain ⟨again, ready, -, -, -, -, hcalls⟩ := startReload_parts h haccepted.1 haccepted.2
    rw [hcalls, List.mem_append]
    exact .inl (hmem (Option.ite_none_right_eq_some.mpr ⟨h, hhook⟩))
  | endWaiting =>
    obtain ⟨hends, hhook⟩ := Option.ite_none_right_eq_some.mp hnotice
    unfold perform
    rw [Journaled.journal_map, calls_endWaiting h, if_pos hends]
    exact hmem (Option.ite_none_right_eq_some.mpr ⟨h, hhook⟩)
  | _ => cases hnotice

/-! ## Runs -/

/-- By induction on the operations. Creations and disposals balance along them. -/
theorem Invariant.balanced_run {past : List HookCall} (h : l.Invariant)
    (hbalanced : Presence.Balanced past (present l.contexts)) (ops : List Operation) :
    Presence.Balanced (past ++ calls (l.run ops).journal) (present (l.run ops).value.contexts) := by
  induction ops generalizing l past with
  | nil =>
    show Presence.Balanced (past ++ calls []) _
    rw [calls_nil, List.append_nil]
    exact hbalanced
  | cons op rest ih =>
    show Presence.Balanced (past ++ calls ((l.perform op).journal ++ _)) _
    rw [calls_append, ← List.append_assoc]
    exact ih (h.perform op) (hbalanced.course (course_perform h.supportsReload op))

/-- By every operation, after every run of a loader, entry points that have been disposed of hear
nothing but notices. -/
theorem hearsOnlyNotices_perform (config : Config) (linkers : LinkerSequence)
    (ops : List Operation) (op : Operation) :
    let ran := (new config linkers).run ops
    HearsOnlyNotices ran.value.dynamicContext.hosts (ran.value.notice? op) (calls ran.journal)
      (calls (ran.value.perform op).journal) := by
  intro ran
  have hinv : ran.value.Invariant := invariant_after config linkers ops
  have hnobody : Presence.Balanced [] (present (new config linkers).contexts) := rfl
  have hbalanced : Presence.Balanced (calls ran.journal) (present ran.value.contexts) :=
    (invariant_after config linkers []).balanced_run hnobody ops
  refine ⟨fun _ _ _ => hbalanced.create_or_permitted (course_perform hinv.supportsReload op), ?_⟩
  exact fun hook hnotice host => mem_calls_of_notice hinv.supportsReload hnotice

end Loader

/-- Nothing reaches an entry point that has been disposed of, in a context or in a loader, whatever
they are asked, but a notice that a reload starts or has ended. Such a notice does reach it. -/
theorem hearsOnlyNotices_after (linkers : LinkerSequence) (id : UInt32) (name : String)
    (supportsReload : Bool) (requests : List Context.Request) (r : Context.Request)
    (config : Config) (ops : List Operation) (op : Operation) :
    (let ran := (Context.new id name supportsReload linkers).run requests
     HearsOnlyNotices ran.value.hosts (ran.value.notice? r) (calls ran.journal)
       (calls (ran.value.perform r).journal)) ∧
    (let ran := (Loader.new config linkers).run ops
     HearsOnlyNotices ran.value.dynamicContext.hosts (ran.value.notice? op) (calls ran.journal)
       (calls (ran.value.perform op).journal)) :=
  ⟨Context.hearsOnlyNotices_perform id name supportsReload linkers requests r,
    Loader.hearsOnlyNotices_perform config linkers ops op⟩

/-- A listener that a shutdown has disposed of is told of a reload. -/
example :
    let ran := (Context.new 0 "dynamic" true Linker.ofTwoModules).run [.bare "A", .shutdown]
    let listener : Addressee := ⟨⟨0, 0, 0⟩, 0, ⟨"a", false, true⟩⟩
    IsGone (calls ran.journal) listener ∧
      listener.call .reloadTriggered ∈ calls (ran.value.perform .announceReload).journal := by
  decide

end ModuleRuntime.Module
