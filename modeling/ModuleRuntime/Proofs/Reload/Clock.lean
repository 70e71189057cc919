import ModuleRuntime.Proofs.Loading.Course
import ModuleRuntime.Proofs.Loading.Operation

/-!
# The clock of a reload

When a reload ends is decided by its clock: whether one is under way, and the gauge of the open
inspections. A clock is idle, or a reload waits for inspections of which at least one is open, or
the last of them has closed since and the reload can be ended. An operation turns the clock in a way
that hangs on nothing but the clock itself and on whether live reload is on.
-/

set_option autoImplicit false

namespace ModuleRuntime.Module

open Journaled (Meets)
open Activity (IsOrdinary isOrdinary_logged)

/-- What decides on when a reload ends. -/
structure Clock where
  isMidReload : Bool
  gauge : Gauge

namespace Clock

/-- The clocks that a run can reach. -/
inductive Sound : Clock → Prop where
  | idle (openCount : Nat) : Sound ⟨false, ⟨openCount, false, false⟩⟩
  | waiting (others : Nat) : Sound ⟨true, ⟨others + 1, true, false⟩⟩
  | drained (openCount : Nat) : Sound ⟨true, ⟨openCount, false, true⟩⟩

/-- The clock after an operation. -/
def turn (isLive : Bool) (c : Clock) : Operation → Clock
  | .startReload =>
    if isLive && !c.isMidReload then ⟨c.gauge.openCount != 0, c.gauge.arm.2⟩ else c
  | .endWaiting => if c.isMidReload then ⟨!c.gauge.isReady, c.gauge.takeReady.2⟩ else c
  | .openInspection => { c with gauge := c.gauge.acquire }
  | .closeInspection =>
    if c.gauge.openCount = 0 then c else { c with gauge := c.gauge.release.value }
  | _ => c

variable {c : Clock}

/-- In a sound clock, who waits does so for an open inspection. -/
theorem Sound.openCount_ne_zero (h : c.Sound) (hw : c.gauge.isWaiting = true) :
    c.gauge.openCount ≠ 0 := by
  cases h with
  | idle => cases hw
  | waiting others => exact Nat.succ_ne_zero others
  | drained => cases hw

/-- No reload is under way exactly if the gauge is neither armed nor ready. -/
theorem Sound.isMidReload_eq_false_iff (h : c.Sound) :
    c.isMidReload = false ↔ c.gauge.isWaiting = false ∧ c.gauge.isReady = false := by
  cases h <;> simp

/-- An inspection that closes is one less; if it was the last one for which somebody waits, the
gauge is ready. -/
theorem value_release (g : Gauge) :
    g.release.value =
      if g.isWaiting = true ∧ g.openCount = 1 then ⟨0, false, true⟩
      else { g with openCount := g.openCount - 1 } := by
  unfold Gauge.release
  simp only [and_comm (a := g.openCount = 1)]
  split <;> rfl

/-- Every operation turns a sound clock into a sound one. -/
theorem Sound.turn (h : c.Sound) (isLive : Bool) (op : Operation) : (c.turn isLive op).Sound := by
  cases op with
  | openInspection =>
    cases h with
    | idle openCount => exact .idle (openCount + 1)
    | waiting others => exact .waiting (others + 1)
    | drained openCount => exact .drained (openCount + 1)
  | closeInspection =>
    unfold Clock.turn
    dsimp only
    split
    case isTrue => exact h
    case isFalse =>
      rw [value_release]
      cases h with
      | idle openCount => exact .idle (openCount - 1)
      | drained openCount => exact .drained (openCount - 1)
      | waiting others =>
        cases others with
        | zero => exact .drained 0
        | succ others => exact .waiting others
  | startReload =>
    unfold Clock.turn Gauge.arm
    dsimp only
    split
    case isFalse => exact h
    case isTrue =>
      cases c.gauge.openCount with
      | zero => exact .idle 0
      | succ others => exact .waiting others
  | endWaiting =>
    cases h with
    | idle openCount => exact .idle openCount
    | waiting others => exact .waiting others
    | drained openCount => exact .idle openCount
  | _ => exact h

/-- A reload that is under way was so before, or live reload is on. -/
theorem isMidReload_of_turn {isLive : Bool} {op : Operation}
    (h : (c.turn isLive op).isMidReload = true) : c.isMidReload = true ∨ isLive = true := by
  cases op with
  | startReload =>
    cases isLive with
    | false => exact .inl h
    | true => exact .inr rfl
  | endWaiting =>
    cases hmid : c.isMidReload with
    | false => simp [turn, hmid] at h
    | true => exact .inl rfl
  | closeInspection =>
    unfold turn at h
    dsimp only at h
    split at h <;> exact .inl h
  | _ => exact .inl h

/-- While a reload is under way and does not end, the clock is ready iff it was so before or no
inspection is open now. -/
theorem Sound.isReady_turn (h : c.Sound) (hmid : c.isMidReload = true) (isLive : Bool)
    (op : Operation) (hnext : (c.turn isLive op).isMidReload = true) :
    (c.turn isLive op).gauge.isReady = true ↔
      c.gauge.isReady = true ∨ (c.turn isLive op).gauge.openCount = 0 := by
  cases h with
  | idle => cases hmid
  | waiting others =>
    cases op with
    | closeInspection =>
      cases others with
      | zero => simp [Clock.turn, value_release]
      | succ others => simp [Clock.turn, value_release]
    | _ => simp [Clock.turn, Gauge.acquire, Gauge.takeReady]
  | drained openCount =>
    -- Only the end of the reload takes the readiness away.
    have hready : (Clock.turn isLive ⟨true, ⟨openCount, false, true⟩⟩ op).gauge.isReady = true := by
      cases op with
      | closeInspection =>
        simp only [Clock.turn, value_release]
        split <;> rfl
      | endWaiting => cases hnext
      | startReload => simp [Clock.turn]
      | _ => rfl
    simp [hready]

end Clock

/-- What loaders do with a context changes neither its id nor whether it supports reloads. -/
theorem Context.Reaches.frame {c c' : Context} (h : c.Reaches c') :
    c'.id = c.id ∧ c'.supportsReload = c.supportsReload := by
  have hlayout {k k' : Context} (hk : k'.layout = k.layout) :
      k'.id = k.id ∧ k'.supportsReload = k.supportsReload :=
    ⟨congrArg Context.Layout.id hk, congrArg Context.Layout.supportsReload hk⟩
  have htrans {k k' : Context} (hk : k'.id = k.id ∧ k'.supportsReload = k.supportsReload)
      (ih : k.id = c.id ∧ k.supportsReload = c.supportsReload) :
      k'.id = c.id ∧ k'.supportsReload = c.supportsReload :=
    ⟨hk.1.trans ih.1, hk.2.trans ih.2⟩
  induction h with
  | refl => exact ⟨rfl, rfl⟩
  | @load k d image _ ih =>
    rcases k.load_cases d image with ⟨e, -, hl⟩ | ⟨-, -, hl⟩
    · exact htrans (hlayout hl) ih
    · exact htrans ⟨congrArg Context.Layout.id hl, congrArg Context.Layout.supportsReload hl⟩ ih
  | @enterLevel k level _ ih => exact htrans (hlayout (k.layout_enterLevel level)) ih
  | @tearDown k _ ih => exact htrans (hlayout k.layout_tearDown) ih
  | emptied _ ih => exact ih
  | withDependencies dependencies _ ih => exact ih
  | withCallbacks callbacks _ ih => exact ih
  | withReloading isReloading _ ih => exact ih

/-- Operations that neither update entry points nor turn clocks. -/
def Operation.IsPlain : Operation → Prop
  | .update .. | .startReload | .endWaiting | .openInspection | .closeInspection => False
  | _ => True

/-- A plain operation turns no clock. -/
theorem Clock.turn_of_isPlain {op : Operation} (hop : op.IsPlain) (isLive : Bool) (c : Clock) :
    c.turn isLive op = c := by
  cases op with
  | update | startReload | endWaiting | openInspection | closeInspection => exact hop.elim
  | _ => rfl

namespace Loader

variable {l l' : Loader}

/-- The clock of a loader. -/
def clock (l : Loader) : Clock :=
  ⟨l.isMidReload, l.gauge⟩

/-- A load does not turn a sound clock. -/
theorem Extends.clock_eq (h : l.Extends l') (hs : l.clock.Sound) : l'.clock = l.clock := by
  have hgauge : l'.gauge = l.gauge := h.gauge hs.openCount_ne_zero
  unfold clock
  rw [h.isMidReload, hgauge]

/-! ## Plain operations -/

/-- Entering a level extends the loader. -/
theorem meets_enterLevel (l : Loader) (level : RunLevel) :
    (l.enterLevel level).Meets IsOrdinary l.Extends :=
  (l.staticContext.meets_enterLevel level).bind fun _ hs =>
    (l.dynamicContext.meets_enterLevel level).bind fun _ hd =>
      .pure ⟨rfl, rfl, fun _ => rfl, hs, hd⟩

/-- A shutdown extends the loader. -/
theorem meets_shutdown (l : Loader) : l.shutdown.Meets IsOrdinary l.Extends :=
  l.staticContext.meets_shutdown.bind fun _ hs =>
    l.dynamicContext.meets_shutdown.bind fun _ hd => .pure ⟨rfl, rfl, fun _ => rfl, hs, hd⟩

/-- A plain operation does to the loader what loads do. -/
theorem meets_perform (l : Loader) {op : Operation} (hop : op.IsPlain) :
    (l.perform op).Meets IsOrdinary l.Extends := by
  cases op with
  | load image => exact (l.meets_load image).map
  | loadStream stream path => exact (l.meets_load _).map
  | loadBatch images => exact (l.meets_loadBatch images).map
  | stage id image =>
    simp only [perform, stage]
    cases l.dynamicContext.contains id with
    | true => exact .pure (Extends.refl.withStaged _)
    | false => exact .pure .refl
  | enterLevel level => exact l.meets_enterLevel level
  | shutdown => exact l.meets_shutdown
  | withDependencies dependencies =>
    exact .pure ⟨rfl, rfl, fun _ => rfl, .withDependencies _ .refl, .withDependencies _ .refl⟩
  | withCallbacks callbacks =>
    exact .pure ⟨rfl, rfl, fun _ => rfl, .withCallbacks _ .refl, .withCallbacks _ .refl⟩
  | _ => exact hop.elim

/-- Plain operations neither begin nor end a reload. -/
theorem isMidReload_run {ops : List Operation} (hops : ∀ op ∈ ops, op.IsPlain) (l : Loader) :
    (l.run ops).value.isMidReload = l.isMidReload := by
  induction ops generalizing l with
  | nil => rfl
  | cons op rest ih =>
    rw [value_run_cons, ih fun op hop => hops op (List.mem_cons_of_mem _ hop)]
    exact (l.meets_perform (hops op List.mem_cons_self)).value.isMidReload

/-- Without requests for a reload none is under way. -/
theorem isMidReload_after_of_isPlain (config : Config) (linkers : LinkerSequence)
    {ops : List Operation} (hops : ∀ op ∈ ops, op.IsPlain) :
    (after config linkers ops).isMidReload = false :=
  isMidReload_run hops (new config linkers)

/-! ## The way of a reload -/

/-- A reload ends at once iff no inspection is open. -/
theorem value_endOrWait_eq (h : l.dynamicContext.supportsReload = true)
    (hmid : l.isMidReload = true) :
    l.endOrWait.value = (.ok (l.gauge.openCount == 0),
      { l with isMidReload := l.gauge.openCount != 0, gauge := l.gauge.arm.2 }) := by
  unfold endOrWait Gauge.arm
  by_cases hopen : l.gauge.openCount = 0
  · simp [hopen, value_endReload, h, Except.map]
  · simp [hopen, hmid]

/-- A reload that waits is ended iff the gauge is ready. -/
theorem value_endWaiting_eq (h : l.dynamicContext.supportsReload = true) :
    l.endWaiting.value = (.ok (l.isMidReload && l.gauge.isReady),
      { l with
        isMidReload := l.isMidReload && !l.gauge.isReady
        gauge := if l.isMidReload then l.gauge.takeReady.2 else l.gauge }) := by
  unfold endWaiting Gauge.takeReady
  cases hmid : l.isMidReload with
  | false =>
    simp only [Bool.false_eq_true, if_false, Bool.false_and, Journaled.value_pure]
    rw [← hmid]
  | true =>
    cases hready : l.gauge.isReady with
    | true => simp [value_endReload, h, Except.map]
    | false => simp

/-- The way of a reload that is accepted: the dynamic modules are dropped and loaded again, their
entry points are started, and then it ends or waits. All that happens before is ordinary. -/
structure Course (l dropped : Loader) (p : Progress) (ready : Loader) (j : List Activity) :
    Prop where
  drop : ({ l with isMidReload := true } : Loader).Extends dropped
  layout : dropped.layout = l.layout.dropped
  reload : p = (dropped.reloadAll l.layout.unloaded).value
  restart : ready = p.loader.restart.value
  extend : ({ l with isMidReload := true } : Loader).Extends ready
  ordinary : ∀ a ∈ j, a.IsOrdinary
  value : l.startReload.value =
    (ready.endOrWait.value.1.map (⟨p.loaded.map Prod.fst, p.skipped, ·⟩), ready.endOrWait.value.2)
  journal : l.startReload.journal = j ++ ready.endOrWait.journal

/-- A reload that is not refused goes all the way. -/
theorem exists_course (h : l.dynamicContext.supportsReload = true)
    (hlive : l.config.liveReload = true) (hmid : l.isMidReload = false) :
    ∃ dropped p ready j, l.Course dropped p ready j := by
  have hstarted := meets_logReload .info "mod.reload.start" "live reload started"
    (dynamicFields { l with isMidReload := true })
  have hdropped := meets_dropDynamic { l with isMidReload := true }
  obtain ⟨dropped, hdrop, hlayout⟩ := value_dropDynamic (l := { l with isMidReload := true }) h
  have hreloaded := dropped.meets_reloadAll l.layout.unloaded
  have hrestarted := (dropped.reloadAll l.layout.unloaded).value.loader.meets_restart
  have hextends := hdropped.value
  rw [hdrop] at hextends
  refine ⟨dropped, _, _,
    (logReload .info "mod.reload.start" "live reload started"
        (dynamicFields { l with isMidReload := true })).journal ++
      (dropDynamic { l with isMidReload := true }).journal ++
      (dropped.reloadAll l.layout.unloaded).journal ++
      (dropped.reloadAll l.layout.unloaded).value.loader.restart.journal,
    hextends, hlayout, rfl, rfl, (hextends.trans hreloaded.value).trans hrestarted.value,
    ?_, ?_, ?_⟩
  · -- Four parts in turn write the journal, and none of them does what is not ordinary.
    intro a ha
    simp only [List.mem_append] at ha
    rcases ha with ((ha | ha) | ha) | ha
    · exact hstarted.journal a ha
    · exact hdropped.journal a ha
    · exact hreloaded.journal a ha
    · exact hrestarted.journal a ha
  · unfold startReload
    simp only [hlive, hmid, Bool.not_true, Bool.false_eq_true, if_false, Journaled.value_bind]
    rw [hdrop]
    rfl
  · unfold startReload
    simp only [hlive, hmid, Bool.not_true, Bool.false_eq_true, if_false, Journaled.journal_bind]
    rw [hdrop]
    simp only [Journaled.journal_bind, Journaled.journal_pure, List.append_nil,
      List.append_assoc]
    rfl

/-- A reload is refused without any change, or it goes all the way. -/
theorem startReload_course (h : l.dynamicContext.supportsReload = true) :
    ((l.config.liveReload = false ∨ l.isMidReload = true) ∧
        ∃ reason entry, l.startReload = ⟨(.error (.misplaced reason), l), [.logged entry]⟩ ∧
          (l.config.liveReload = true → reason = .reloadInProgress)) ∨
      (l.config.liveReload = true ∧ l.isMidReload = false ∧
        ∃ dropped p ready j, l.Course dropped p ready j) := by
  cases hlive : l.config.liveReload with
  | false =>
    refine .inl ⟨.inl rfl, .reloadDisabled, ?disabled, ?off, fun hon => nomatch hon⟩
    case off =>
      unfold startReload
      rw [hlive]
      rfl
  | true =>
    cases hmid : l.isMidReload with
    | true =>
      refine .inl ⟨.inr rfl, .reloadInProgress, ?inProgress, ?busy, fun _ => rfl⟩
      case busy =>
        unfold startReload
        rw [hlive, hmid]
        rfl
    | false => exact .inr ⟨rfl, rfl, exists_course h hlive hmid⟩

/-- Until a reload ends or waits, the gauge stays as it is. -/
theorem Course.gauge {dropped ready : Loader} {p : Progress} {j : List Activity}
    (hc : l.Course dropped p ready j) (hs : l.clock.Sound) (hmid : l.isMidReload = false) :
    ready.gauge = l.gauge := by
  have hidle : l.gauge.isWaiting = false := (hs.isMidReload_eq_false_iff.mp hmid).1
  exact hc.extend.gauge fun hw => nomatch hidle.symm.trans hw

/-- When the modules are ready, the dynamic context supports reloads as it did before. -/
theorem Course.supportsReload {dropped ready : Loader} {p : Progress} {j : List Activity}
    (hc : l.Course dropped p ready j) (h : l.dynamicContext.supportsReload = true) :
    ready.dynamicContext.supportsReload = true :=
  hc.extend.dynamic.frame.2.trans h

/-! ## What an operation does to the clock -/

/-- An operation comes to each context by what loaders do with contexts. -/
theorem reaches_perform (h : l.dynamicContext.supportsReload = true) (op : Operation) :
    l.staticContext.Reaches (l.perform op).value.staticContext ∧
      l.dynamicContext.Reaches (l.perform op).value.dynamicContext := by
  by_cases hplain : op.IsPlain
  case pos =>
    have hext := (l.meets_perform hplain).value
    exact ⟨hext.static, hext.dynamic⟩
  case neg =>
    cases op with
    | update level frame => exact ⟨.refl, .refl⟩
    | openInspection => exact ⟨.refl, .refl⟩
    | closeInspection =>
      simp only [perform]
      split <;> exact ⟨.refl, .refl⟩
    | endWaiting =>
      simp only [perform, Journaled.value_map, value_endWaiting_eq h]
      exact ⟨.refl, .refl⟩
    | startReload =>
      simp only [perform, Journaled.value_map]
      rcases startReload_course h with
        ⟨-, reason, entry, hv, -⟩ | ⟨-, -, dropped, p, ready, j, hc⟩
      · rw [hv]
        exact ⟨.refl, .refl⟩
      · rw [hc.value, value_endOrWait_eq (hc.supportsReload h) hc.extend.isMidReload]
        exact ⟨hc.extend.static, hc.extend.dynamic⟩
    | _ => exact absurd trivial hplain

/-- Every operation turns the clock, if that is sound, as it turns clocks. -/
theorem clock_perform (h : l.dynamicContext.supportsReload = true) (hs : l.clock.Sound)
    (op : Operation) : (l.perform op).value.clock = l.clock.turn l.config.liveReload op := by
  by_cases hplain : op.IsPlain
  case pos =>
    have hext := (l.meets_perform hplain).value
    rw [hext.clock_eq hs, Clock.turn_of_isPlain hplain]
  case neg =>
    cases op with
    | update level frame => rfl
    | openInspection => rfl
    | closeInspection =>
      by_cases hopen : l.gauge.openCount = 0
      · simp [perform, Clock.turn, clock, hopen]
      · simp [perform, Clock.turn, clock, hopen]
    | endWaiting =>
      simp only [perform, Journaled.value_map, value_endWaiting_eq h, Clock.turn, clock]
      by_cases hmid : l.isMidReload = true
      · simp [hmid]
      · simp [hmid]
    | startReload =>
      simp only [perform, Journaled.value_map, Clock.turn]
      rcases startReload_course h with
        ⟨hrefused, reason, entry, hv, -⟩ | ⟨hlive, hmid, dropped, p, ready, j, hc⟩
      · have hsame : (l.config.liveReload && !l.clock.isMidReload) = false := by
          rcases hrefused with hoff | hbusy
          · rw [hoff, Bool.false_and]
          · rw [show l.clock.isMidReload = true from hbusy, Bool.not_true, Bool.and_false]
        rw [hv, hsame]
        rfl
      · rw [hc.value, value_endOrWait_eq (hc.supportsReload h) hc.extend.isMidReload, hlive,
          show l.clock.isMidReload = false from hmid, hc.gauge hs hmid]
        rfl
    | _ => exact absurd trivial hplain

end Loader

end ModuleRuntime.Module
