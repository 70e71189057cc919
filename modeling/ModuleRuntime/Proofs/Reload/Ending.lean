import Mathlib.Data.List.Induction
import ModuleRuntime.Proofs.Loading.Accord
import ModuleRuntime.Proofs.Reload.Clock

/-!
# How a reload ends

A reload that was accepted ends exactly once: at once if no inspection is open, and else by the
first question whether it has ended that is asked after there was a moment without an open
inspection. By its end, and by nothing else, each listener of the dynamic context is told of it.
Until then no other reload is accepted and no dynamic entry point is updated.
-/

set_option autoImplicit false

namespace ModuleRuntime.Module

open Journaled (Meets)
open Activity (IsOrdinary isOrdinary_logged)

/-- Of what has happened, the calls that tell an entry point that a reload is over. -/
def completions (j : List Activity) : List Activity :=
  j.filter (·.isCompletion)

/-- The completions in some activities and then in others. -/
@[simp]
theorem completions_append (j j' : List Activity) :
    completions (j ++ j') = completions j ++ completions j' :=
  List.filter_append ..

/-- Where no activity is a completion there are none. -/
theorem completions_eq_nil {j : List Activity} (h : ∀ a ∈ j, a.isCompletion = false) :
    completions j = [] :=
  List.filter_eq_nil_iff.mpr fun a ha => by rw [h a ha]; exact Bool.false_ne_true

namespace Context

variable {c c' : Context}

/-! ## Whose entry points are called -/

/-- The entry points of a context have handles of this context. -/
def IsHome (c : Context) : Prop :=
  ∀ h ∈ c.hosts, h.handle.context = c.id

/-- A context is a home whatever its entry points do, as long as they keep their handles. -/
theorem IsHome.forEach (hc : c.IsHome) {f : Host → Journaled Activity Host}
    (hf : ∀ h, (f h).value.handle = h.handle) : (c.forEach f).value.IsHome := by
  intro h hh
  unfold hosts at hh
  rw [slots_forEach, List.mem_flatMap] at hh
  obtain ⟨s', hs', hh⟩ := hh
  obtain ⟨s, hs, rfl⟩ := List.mem_map.mp hs'
  obtain ⟨h₀, hh₀, rfl⟩ := List.mem_map.mp hh
  rw [hf h₀]
  exact hc h₀ (List.mem_flatMap.mpr ⟨s, hs, hh₀⟩)

/-- A module that is loaded gets entry points with its handle. -/
theorem IsHome.load (hc : c.IsHome) (d : Descriptor) (image : Image) :
    (c.load d image).value.2.IsHome := by
  unfold Context.load
  split
  · exact hc
  · dsimp only
    split
    · exact hc
    · next linked _ =>
      intro h hh
      have hnew := (meets_createHosts { c.afterCall with pending := c.pending.put d.id d } d.id
        linked.entryPoints).value
      simp only [Journaled.value_bind, Journaled.value_pure] at hh
      unfold hosts addSlot at hh
      rw [List.flatMap_append, List.mem_append] at hh
      rcases hh with hh | hh
      · exact hc h hh
      · rw [List.flatMap_singleton] at hh
        rw [hnew h hh]
        rfl

/-- Whatever loaders do with a context, its entry points have handles of it. -/
theorem Reaches.isHome (h : c.Reaches c') (hc : c.IsHome) : c'.IsHome := by
  induction h with
  | refl => exact hc
  | load d image _ ih => exact ih.load d image
  | enterLevel level _ ih =>
    unfold Context.enterLevel
    split
    · exact ih
    · exact ih.forEach fun h => (h.meets_enter level _).value
  | tearDown _ ih =>
    refine (ih.forEach fun h => ?_).forEach fun h => ?_
    · split
      · exact h.meets_shutdown.value
      · rfl
    · split
      · exact h.meets_dispose.value
      · rfl
  | emptied _ _ => exact fun h hh => absurd hh List.not_mem_nil
  | withDependencies dependencies _ ih => exact ih
  | withCallbacks callbacks _ ih => exact ih
  | withReloading isReloading _ ih => exact ih

/-- By an update a context calls its own entry points only, and tells none of them that a reload is
over. -/
theorem journal_update {a : Activity} {level : UpdateLevel} {frame : Frame}
    (ha : a ∈ (c.update level frame).journal) :
    a.isCompletion = false ∧ ∃ h ∈ c.hosts, ∃ index entry hook,
      a = .called ⟨h.handle, index, entry, hook⟩ := by
  unfold Context.update tellEach at ha
  rw [Journaled.journal_forM, List.mem_flatMap] at ha
  obtain ⟨h, hh, ha⟩ := ha
  unfold Host.update at ha
  split at ha
  · obtain rfl := List.mem_singleton.mp ha
    exact ⟨rfl, h, hh, _, _, _, rfl⟩
  · exact absurd ha List.not_mem_nil

/-! ## Who is told of the end -/

/-- The calls that tell all listeners of a context that a reload is over. -/
def completions (c : Context) : List Activity :=
  (c.hosts.filter (·.entry.isListener)).map fun h =>
    .called ⟨h.handle, h.index, h.entry, .reloadCompleted⟩

/-- Nothing else happens when the listeners are told. -/
theorem journal_announceReloadEnd (h : c.supportsReload = true) :
    c.announceReloadEnd.journal = c.completions := by
  have hone (h : Host) : h.announceReloadEnd.journal =
      if h.entry.isListener then [.called ⟨h.handle, h.index, h.entry, .reloadCompleted⟩]
      else [] := by
    unfold Host.announceReloadEnd
    split <;> rfl
  unfold announceReloadEnd notify tellEach completions
  rw [if_pos h, Journaled.journal_bind, Journaled.journal_pure, List.append_nil,
    Journaled.journal_forM]
  simp only [hone]
  induction c.hosts with
  | nil => rfl
  | cons h rest ih =>
    rw [List.flatMap_cons, ih, List.filter_cons]
    split <;> rfl

end Context

namespace Loader

variable {l l' : Loader}

/-! ## What happens at the end of a reload -/

/-- When a reload ends, its listeners are told, and the end is logged. -/
theorem journal_endReload (h : l.dynamicContext.supportsReload = true)
    (hmid : l.isMidReload = true) :
    ∃ entry, l.endReload.journal = l.dynamicContext.completions ++ [.logged entry] := by
  unfold endReload
  rw [if_pos hmid]
  simp only [Journaled.journal_bind, l.dynamicContext.journal_announceReloadEnd h]
  unfold Context.announceReloadEnd
  rw [value_notify h]
  exact ⟨_, rfl⟩

/-- Of the calls by which listeners are told, all belong to the end of a reload, and none is an
update. -/
theorem completions_endReload (h : l.dynamicContext.supportsReload = true)
    (hmid : l.isMidReload = true) :
    completions l.endReload.journal = l.dynamicContext.completions ∧
      ∀ a ∈ l.endReload.journal, a.isUpdate = false := by
  obtain ⟨entry, hjournal⟩ := journal_endReload h hmid
  have hcalls : ∀ a ∈ l.dynamicContext.completions, a.isCompletion = true ∧ a.isUpdate = false := by
    intro a ha
    obtain ⟨host, -, rfl⟩ := List.mem_map.mp ha
    exact ⟨rfl, rfl⟩
  rw [hjournal, completions_append]
  refine ⟨?_, fun a ha => ?_⟩
  · have hlogged : completions [.logged entry] = [] := rfl
    rw [hlogged, List.append_nil]
    exact List.filter_eq_self.mpr fun a ha => (hcalls a ha).1
  · rcases List.mem_append.mp ha with ha | ha
    · exact (hcalls a ha).2
    · rw [List.mem_singleton.mp ha]
      rfl

/-- The listeners are told at once iff no inspection is open. -/
theorem completions_endOrWait (h : l.dynamicContext.supportsReload = true)
    (hmid : l.isMidReload = true) :
    completions l.endOrWait.journal =
      if l.gauge.openCount = 0 then l.dynamicContext.completions else [] := by
  unfold endOrWait Gauge.arm
  by_cases hopen : l.gauge.openCount = 0
  · have hend := (completions_endReload (l := { l with gauge := ⟨0, false, false⟩ }) h hmid).1
    simp only [hopen, if_true, Journaled.journal_bind, Journaled.journal_pure, List.append_nil]
    exact hend
  · simp only [hopen, if_false]
    rfl

/-- The listeners are told when a reload that waits is ended, and nobody is updated by that. -/
theorem completions_endWaiting (h : l.dynamicContext.supportsReload = true) :
    (completions l.endWaiting.journal =
      if l.isMidReload && l.gauge.isReady then l.dynamicContext.completions else []) ∧
      ∀ a ∈ l.endWaiting.journal, a.isUpdate = false := by
  unfold endWaiting Gauge.takeReady
  cases hmid : l.isMidReload with
  | false => exact ⟨rfl, fun a ha => absurd ha List.not_mem_nil⟩
  | true =>
    cases hready : l.gauge.isReady with
    | false => exact ⟨rfl, fun a ha => absurd ha List.not_mem_nil⟩
    | true =>
      have hend := completions_endReload
        (l := { l with isMidReload := true, gauge := { l.gauge with isReady := false } }) h rfl
      simp only [if_true, Journaled.journal_bind, Journaled.journal_pure, List.append_nil,
        Bool.and_self]
      exact hend

/-! ## What every run keeps -/

/-- What holds of every loader that a run can reach: the registry and the contexts agree, the clock
is sound, no reload is under way unless live reload is on, and the entry points of each context have
handles of it. -/
structure Invariant (l : Loader) : Prop where
  accord : l.layout.Accord
  sound : l.clock.Sound
  live : l.isMidReload = true → l.config.liveReload = true
  static : l.staticContext.IsHome
  dynamic : l.dynamicContext.IsHome

namespace Invariant

/-- The dynamic context supports reloads. -/
theorem supportsReload (h : l.Invariant) : l.dynamicContext.supportsReload = true :=
  h.accord.supportsReload true

/-- Every operation keeps the invariant. -/
theorem perform (h : l.Invariant) (op : Operation) : (l.perform op).value.Invariant := by
  have hstep := l.step_perform op h.supportsReload
  have hclock := clock_perform h.supportsReload h.sound op
  obtain ⟨hstatic, hdynamic⟩ := reaches_perform h.supportsReload op
  refine ⟨h.accord.step hstep, ?_, fun hmid => ?_, hstatic.isHome h.static,
    hdynamic.isHome h.dynamic⟩
  · rw [hclock]
    exact h.sound.turn _ op
  · rw [show (l.perform op).value.config = l.config from hstep.frame.1]
    rw [show (l.perform op).value.isMidReload = _ from congrArg Clock.isMidReload hclock] at hmid
    rcases Clock.isMidReload_of_turn hmid with hbefore | hlive
    · exact h.live hbefore
    · exact hlive

/-- By induction on the operations. -/
theorem run (h : l.Invariant) (ops : List Operation) : (l.run ops).value.Invariant := by
  induction ops generalizing l with
  | nil => exact h
  | cons op rest ih => exact ih (h.perform op)

end Invariant

/-- The invariant holds after every run. -/
theorem invariant_after (config : Config) (linkers : LinkerSequence) (ops : List Operation) :
    (after config linkers ops).Invariant := by
  have hnew : (new config linkers).Invariant :=
    ⟨Layout.accord_new config linkers, .idle 0, fun hmid => (nomatch hmid),
      fun h hh => absurd hh List.not_mem_nil, fun h hh => absurd hh List.not_mem_nil⟩
  exact hnew.run ops

/-- The last operation of a run is performed on what the others have left. -/
theorem run_concat (l : Loader) (ops : List Operation) (op : Operation) :
    (l.run (ops ++ [op])).value = ((l.run ops).value.perform op).value ∧
      (l.run (ops ++ [op])).journal =
        (l.run ops).journal ++ ((l.run ops).value.perform op).journal := by
  unfold run
  rw [List.foldlM_append, Journaled.value_bind, Journaled.journal_bind, List.foldlM_cons]
  simp only [List.foldlM_nil, Journaled.value_bind, Journaled.value_pure, Journaled.journal_bind,
    Journaled.journal_pure, List.append_nil, and_self]

/-! ## What one operation tells -/

/-- A start that is refused, as every start is while a reload is under way, changes nothing and only
logs. -/
theorem Invariant.startReload_refused (h : l.Invariant)
    (hrefused : ∀ report l', l.startReload.value ≠ (.ok report, l')) :
    ∃ reason entry, l.startReload = ⟨(.error (.misplaced reason), l), [.logged entry]⟩ ∧
      (l.isMidReload = true → reason = .reloadInProgress) := by
  rcases startReload_course h.supportsReload with
    ⟨-, reason, entry, hv, hreason⟩ | ⟨-, -, dropped, p, ready, j, hc⟩
  · exact ⟨reason, entry, hv, fun hmid => hreason (h.live hmid)⟩
  · have hv := hc.value
    rw [value_endOrWait_eq (hc.supportsReload h.supportsReload) hc.extend.isMidReload] at hv
    exact absurd hv (hrefused _ _)

/-- While a reload is under way, no other one is accepted. -/
theorem Invariant.startReload_ne_ok (h : l.Invariant) (hmid : l.isMidReload = true)
    (report : ReloadReport)
    (l' : Loader) : l.startReload.value ≠ (.ok report, l') := by
  rcases startReload_course h.supportsReload with ⟨-, reason, entry, hv, -⟩ | ⟨-, hno, -⟩
  · rw [hv]
    exact fun heq => nomatch (Prod.mk.inj heq).1
  · exact absurd (hmid.symm.trans hno) Bool.noConfusion

/-- By an update the static entry points are called, and, unless a reload is under way, the dynamic
ones. -/
theorem mem_journal_update {level : UpdateLevel} {frame : Frame} {a : Activity}
    (ha : a ∈ (l.perform (.update level frame)).journal) :
    a ∈ (l.staticContext.update level frame).journal ∨
      l.isMidReload = false ∧ a ∈ (l.dynamicContext.update level frame).journal := by
  simp only [perform, update, Journaled.journal_bind, Journaled.journal_pure, List.append_nil,
    List.mem_append] at ha
  refine ha.imp id fun ha => ?_
  split at ha
  case isTrue hno => exact ⟨by simpa using hno, ha⟩
  case isFalse => exact absurd ha List.not_mem_nil

/-- An inspection that closes is at most logged. -/
theorem meets_closeInspection (l : Loader) :
    (l.perform .closeInspection).Meets IsOrdinary fun l' => l'.isMidReload = l.isMidReload := by
  simp only [perform]
  split
  · exact .pure rfl
  · exact Meets.bind (Q := fun _ => True) (.mapJournal isOrdinary_logged trivial)
      fun gauge _ => .pure rfl

/-- What neither starts nor ends a reload tells no listener of an end. -/
theorem Invariant.completions_eq_nil (h : l.Invariant) {op : Operation} (hend : op ≠ .endWaiting)
    (hstart : op = .startReload → ∀ report l', l.startReload.value ≠ (.ok report, l')) :
    completions (l.perform op).journal = [] ∧
      (l.perform op).value.isMidReload = l.isMidReload := by
  by_cases hplain : op.IsPlain
  case pos =>
    have hmeets := l.meets_perform hplain
    exact ⟨Module.completions_eq_nil fun a ha => (hmeets.journal a ha).isCompletion,
      hmeets.value.isMidReload⟩
  case neg =>
    cases op with
    | update level frame =>
      refine ⟨Module.completions_eq_nil fun a ha => ?_, rfl⟩
      rcases mem_journal_update ha with ha | ⟨-, ha⟩
      · exact (Context.journal_update ha).1
      · exact (Context.journal_update ha).1
    | openInspection => exact ⟨rfl, rfl⟩
    | closeInspection =>
      have hmeets := l.meets_closeInspection
      exact ⟨Module.completions_eq_nil fun a ha => (hmeets.journal a ha).isCompletion,
        hmeets.value⟩
    | endWaiting => exact absurd rfl hend
    | startReload =>
      obtain ⟨reason, entry, hv, -⟩ := h.startReload_refused (hstart rfl)
      simp only [Loader.perform, Journaled.value_map, Journaled.journal_map, hv]
      exact ⟨rfl, trivial⟩
    | _ => exact absurd trivial hplain

/-- While a reload is under way, the listeners are told by the operation that ends it, and by no
other. -/
theorem Invariant.completions_perform (h : l.Invariant) (hmid : l.isMidReload = true)
    (op : Operation) :
    completions (l.perform op).journal =
      if (l.perform op).value.isMidReload then []
      else (l.perform op).value.dynamicContext.completions := by
  by_cases hend : op = .endWaiting
  case pos =>
    subst hend
    simp only [Loader.perform, Journaled.value_map, Journaled.journal_map,
      (completions_endWaiting h.supportsReload).1, value_endWaiting_eq h.supportsReload, hmid,
      Bool.true_and]
    cases l.gauge.isReady <;> rfl
  case neg =>
    obtain ⟨hnone, hsame⟩ := h.completions_eq_nil hend fun _ => h.startReload_ne_ok hmid
    rw [hnone, hsame, hmid]
    rfl

/-- A reload that is accepted waits iff an inspection is open, and else the listeners are told at
once. -/
theorem Invariant.startReload_accepted (h : l.Invariant) {report : ReloadReport}
    (hv : l.startReload.value = (.ok report, l')) :
    (report.isFinished = true ↔ l.gauge.openCount = 0) ∧ l'.isMidReload = !report.isFinished ∧
      l'.gauge = l.gauge.arm.2 ∧
      completions l.startReload.journal =
        if l'.isMidReload then [] else l'.dynamicContext.completions := by
  rcases startReload_course h.supportsReload with
    ⟨-, reason, entry, hrefused, -⟩ | ⟨-, hmid, dropped, p, ready, j, hc⟩
  · rw [hrefused] at hv
    exact nomatch (Prod.mk.inj hv).1
  · have hsupports := hc.supportsReload h.supportsReload
    have hgauge := hc.gauge h.sound hmid
    rw [hc.value, value_endOrWait_eq hsupports hc.extend.isMidReload, hgauge] at hv
    obtain ⟨hreport, rfl⟩ := Prod.mk.inj hv
    obtain rfl := Except.ok.inj hreport
    have hnone : completions j = [] :=
      Module.completions_eq_nil fun a ha => (hc.ordinary a ha).isCompletion
    rw [hc.journal, completions_append, hnone, List.nil_append,
      completions_endOrWait hsupports hc.extend.isMidReload, hgauge]
    by_cases hopen : l.gauge.openCount = 0
    · simp [hopen]
    · simp [hopen, bne]

/-- While a reload is under way, the static entry points only are updated. -/
theorem Invariant.isUpdate_perform (h : l.Invariant) (hmid : l.isMidReload = true) {op : Operation}
    {call : HookCall} (hcall : .called call ∈ (l.perform op).journal)
    (hupdate : (Activity.called call).isUpdate = true) :
    call.handle.context = l.staticContext.id := by
  have hno {a : Activity} (ha : a.isUpdate = false) (heq : a = .called call) : False := by
    rw [heq, hupdate] at ha
    cases ha
  by_cases hplain : op.IsPlain
  case pos => exact (hno ((l.meets_perform hplain).journal _ hcall).isUpdate rfl).elim
  case neg =>
    cases op with
    | update level frame =>
      rcases mem_journal_update hcall with hcall | ⟨hfree, -⟩
      · obtain ⟨-, host, hhost, index, entry, hook, heq⟩ := Context.journal_update hcall
        obtain rfl := Activity.called.inj heq
        exact h.static host hhost
      · exact absurd (hmid.symm.trans hfree) Bool.noConfusion
    | openInspection => exact absurd hcall List.not_mem_nil
    | closeInspection => exact (hno (l.meets_closeInspection.journal _ hcall).isUpdate rfl).elim
    | endWaiting =>
      simp only [Loader.perform, Journaled.journal_map] at hcall
      exact (hno ((completions_endWaiting h.supportsReload).2 _ hcall) rfl).elim
    | startReload =>
      obtain ⟨reason, entry, hv, -⟩ := h.startReload_refused (h.startReload_ne_ok hmid)
      simp only [Loader.perform, Journaled.journal_map, hv, List.mem_singleton] at hcall
      cases hcall
    | _ => exact absurd trivial hplain

/-! ## From the start of a reload to its end -/

/-- After any part of a run during which a reload was under way, the gauge is ready iff there was a
moment without an open inspection. -/
theorem Invariant.isReady_run (h : l.Invariant)
    (hstart : l.gauge.isReady = true ↔ l.gauge.openCount = 0) (since : List Operation)
    (hmid : ∀ before, before <+: since → (l.run before).value.isMidReload = true) :
    (l.run since).value.gauge.isReady = true ↔
      ∃ before, before <+: since ∧ (l.run before).value.gauge.openCount = 0 := by
  -- From the end of the run: the last operation adds one moment to those that the others had.
  induction since using List.reverseRecOn with
  | nil =>
    simp only [List.prefix_nil, exists_eq_left]
    exact hstart
  | append_singleton since op ih =>
    have hbefore := ih fun before hp => hmid before (hp.trans (List.prefix_append ..))
    have hinv := h.run since
    have hclock := clock_perform hinv.supportsReload hinv.sound op
    have hnext := hmid (since ++ [op]) List.prefix_rfl
    rw [(l.run_concat since op).1] at hnext ⊢
    have hready := hinv.sound.isReady_turn (hmid since (List.prefix_append ..))
      (l.run since).value.config.liveReload op (by rw [← hclock]; exact hnext)
    rw [← hclock] at hready
    refine hready.trans ?_
    rw [show (l.run since).value.clock.gauge.isReady = (l.run since).value.gauge.isReady from rfl,
      hbefore]
    constructor
    · rintro (⟨before, hp, hzero⟩ | hzero)
      · exact ⟨before, hp.trans (List.prefix_append ..), hzero⟩
      · exact ⟨since ++ [op], List.prefix_rfl, by rw [(l.run_concat since op).1]; exact hzero⟩
    · rintro ⟨before, hp, hzero⟩
      rcases List.prefix_concat_iff.mp hp with rfl | hp
      · rw [(l.run_concat since op).1] at hzero
        exact .inr hzero
      · exact .inl ⟨before, hp, hzero⟩

/-- As long as a reload is under way no listener is told of its end, and all are when it ends. -/
theorem Invariant.completions_run (h : l.Invariant) (since : List Operation)
    (hmid : ∀ before, before <+: since → before ≠ since →
      (l.run before).value.isMidReload = true) {j : List Activity}
    (hj : completions j = if l.isMidReload then [] else l.dynamicContext.completions) :
    completions (j ++ (l.run since).journal) =
      if (l.run since).value.isMidReload then []
      else (l.run since).value.dynamicContext.completions := by
  -- From the end of the run: no operation but the last one can have ended the reload.
  induction since using List.reverseRecOn with
  | nil =>
    rw [show (l.run []).journal = [] from rfl, List.append_nil]
    exact hj
  | append_singleton since op ih =>
    have hlast : (l.run since).value.isMidReload = true :=
      hmid since (List.prefix_append ..) (by simp)
    have hbefore : completions (j ++ (l.run since).journal) = [] := by
      rw [ih fun before hp _ => ?_, hlast]
      · rfl
      · refine hmid before (hp.trans (List.prefix_append ..)) fun heq => ?_
        have hlength := hp.length_le
        rw [heq, List.length_append, List.length_singleton] at hlength
        omega
    obtain ⟨hvalue, hjournal⟩ := l.run_concat since op
    rw [hvalue, hjournal, ← List.append_assoc, completions_append, hbefore, List.nil_append]
    exact (h.run since).completions_perform hlast op

/-- A reload is accepted iff live reload is on and no other one is under way. -/
theorem Invariant.exists_startReload_iff (h : l.Invariant) :
    (∃ report l', l.startReload.value = (.ok report, l')) ↔
      l.config.liveReload = true ∧ l.isMidReload = false := by
  rcases startReload_course h.supportsReload with
    ⟨hrefused, reason, entry, hv, -⟩ | ⟨hlive, hmid, dropped, p, ready, j, hc⟩
  · have hno : ¬∃ report l', l.startReload.value = (.ok report, l') := by
      rintro ⟨report, l', hok⟩
      rw [hv] at hok
      exact nomatch (Prod.mk.inj hok).1
    refine iff_of_false hno ?_
    rintro ⟨hlive, hmid⟩
    rw [hlive, hmid] at hrefused
    exact hrefused.elim Bool.noConfusion Bool.noConfusion
  · have hv := hc.value
    rw [value_endOrWait_eq (hc.supportsReload h.supportsReload) hc.extend.isMidReload] at hv
    exact iff_of_true ⟨_, _, hv⟩ ⟨hlive, hmid⟩

/-- The invariant holds after the start of a reload. -/
theorem Invariant.startReload (h : l.Invariant) {report : ReloadReport} {l' : Loader}
    (hv : l.startReload.value = (.ok report, l')) : l'.Invariant := by
  have hnext := h.perform .startReload
  simpa only [Loader.perform, Journaled.value_map, hv] using hnext

/-- A reload that is under way after its start waits for inspections that are open. -/
theorem Invariant.gauge_of_startReload (h : l.Invariant) {report : ReloadReport} {l' : Loader}
    (hv : l.startReload.value = (.ok report, l')) (hbusy : l'.isMidReload = true) :
    l'.gauge.isReady = false ∧ l'.gauge.openCount ≠ 0 := by
  obtain ⟨hfinished, hwaits, hgauge, -⟩ := h.startReload_accepted hv
  have hopen : l.gauge.openCount ≠ 0 := by
    intro hzero
    rw [hbusy, hfinished.mpr hzero] at hwaits
    cases hwaits
  rw [hgauge, Gauge.arm, if_neg hopen]
  exact ⟨rfl, hopen⟩

/-! ## Every reload ends once -/

/-- How reloads end. -/
structure EndsReloadsOnce (l : Loader) : Prop where
  /-- A reload is accepted iff live reload is on and no other one is under way. -/
  accepted : (∃ report l', l.startReload.value = (.ok report, l')) ↔
    l.config.liveReload = true ∧ l.isMidReload = false
  /-- A reload that is accepted ends at once iff no inspection is open, and else is under way. -/
  started : ∀ report l', l.startReload.value = (.ok report, l') →
    (report.isFinished = true ↔ l.gauge.openCount = 0) ∧ l'.isMidReload = !report.isFinished
  /-- While one is under way, no other one is accepted, and the loader stays as it is. -/
  refused : l.isMidReload = true →
    l.startReload.value = (.error (.misplaced .reloadInProgress), l)
  /-- While one is under way, nothing that is done updates an entry point of a dynamic module. -/
  paused : l.isMidReload = true → ∀ op call, .called call ∈ (l.perform op).journal →
    (Activity.called call).isUpdate = true →
      ∀ h ∈ l.dynamicContext.hosts, call.handle ≠ h.handle
  /-- Whoever asks while one is under way is answered that it has ended, and then it has, iff at
  some moment since its start no inspection was open. -/
  drained : ∀ report l' since, l.startReload.value = (.ok report, l') →
    (∀ before, before <+: since → (l'.run before).value.isMidReload = true) →
      ∃ hasEnded l'', (l'.run since).value.endWaiting.value = (.ok hasEnded, l'') ∧
        l''.isMidReload = !hasEnded ∧
        (hasEnded = true ↔ ∃ before, before <+: since ∧ (l'.run before).value.gauge.openCount = 0)
  /-- From the start of a reload to its end no listener is told of the end, and by it each listener
  that is there then is told once. -/
  completed : ∀ report l' since, l.startReload.value = (.ok report, l') →
    (∀ before, before <+: since → before ≠ since → (l'.run before).value.isMidReload = true) →
      completions (l.startReload.journal ++ (l'.run since).journal) =
        if (l'.run since).value.isMidReload then []
        else (l'.run since).value.dynamicContext.completions
  /-- After the end, no listener is told of it again, and no reload is under way before one is
  accepted. -/
  quiet : l.isMidReload = false → ∀ op,
    (op = .startReload → ∀ report l', l.startReload.value ≠ (.ok report, l')) →
      completions (l.perform op).journal = [] ∧ (l.perform op).value.isMidReload = false
  /-- As long as no reload is under way, the gauge is neither armed nor ready. -/
  idle : l.isMidReload = false → l.gauge.isWaiting = false ∧ l.gauge.isReady = false

/-- Where the invariant holds, every reload ends once. -/
theorem Invariant.endsReloadsOnce (h : l.Invariant) : l.EndsReloadsOnce where
  accepted := h.exists_startReload_iff
  started report l' hv := by
    obtain ⟨hfinished, hmid, -⟩ := h.startReload_accepted hv
    exact ⟨hfinished, hmid⟩
  refused hmid := by
    obtain ⟨reason, entry, hv, hreason⟩ := h.startReload_refused (h.startReload_ne_ok hmid)
    rw [hv, hreason hmid]
  paused hmid op call hcall hupdate host hhost heq := by
    have hstatic := h.isUpdate_perform hmid hcall hupdate
    rw [heq, h.dynamic host hhost] at hstatic
    have hids : l.dynamicContext.id = 1 ∧ l.staticContext.id = 0 :=
      ⟨h.accord.id true, h.accord.id false⟩
    rw [hids.1, hids.2] at hstatic
    exact absurd hstatic (by decide)
  drained report l' since hv hmid := by
    have hinv : l'.Invariant := h.startReload hv
    obtain ⟨hready, hopen⟩ := h.gauge_of_startReload hv (hmid [] (List.nil_prefix ..))
    have hstart : l'.gauge.isReady = true ↔ l'.gauge.openCount = 0 :=
      iff_of_false (Bool.eq_false_iff.mp hready) hopen
    have hend := value_endWaiting_eq (hinv.run since).supportsReload
    rw [hmid since List.prefix_rfl] at hend
    exact ⟨_, _, hend, rfl, hinv.isReady_run hstart since hmid⟩
  completed report l' since hv hmid :=
    (h.startReload hv).completions_run since hmid (h.startReload_accepted hv).2.2.2
  quiet hmid op hstart := by
    by_cases hend : op = .endWaiting
    · subst hend
      simp only [Loader.perform, Journaled.value_map, Journaled.journal_map,
        (completions_endWaiting h.supportsReload).1, value_endWaiting_eq h.supportsReload, hmid]
      exact ⟨rfl, rfl⟩
    · obtain ⟨hnone, hsame⟩ := h.completions_eq_nil hend hstart
      exact ⟨hnone, hsame.trans hmid⟩
  idle := h.sound.isMidReload_eq_false_iff.mp

/-- After every run, whatever inspections are opened and closed in it, every reload ends once. -/
theorem endsReloadsOnce_after (config : Config) (linkers : LinkerSequence) (ops : List Operation) :
    (after config linkers ops).EndsReloadsOnce :=
  (invariant_after config linkers ops).endsReloadsOnce

end Loader

end ModuleRuntime.Module
