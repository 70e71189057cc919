import Mathlib.Data.List.Forall2
import ModuleRuntime.Module.Host

/-!
# Lives of entry points

Whatever is asked of a host, and in whatever order, its entry point sees the hooks of the levels in
their order, then updates, if it has come through all levels, and at last it is shut down and
disposed of. This may break off anywhere, and the shutdown may come at any time before the end. All
such sequences of hooks do occur, and no others. The state never goes back.
-/

set_option autoImplicit false

namespace ModuleRuntime.Module

/-! ## Hooks -/

/-- Whether a hook belongs to the way of an entry point from its start to its end. Those by which it
is created or told of reloads do not. -/
def Hook.isLifecycle : Hook → Bool
  | create | setDependencies _ | setTestingCallbacks _ | reloadTriggered | reloadCompleted => false
  | _ => true

/-- The hook that is called, if it belongs to the way from start to end. -/
def Activity.lifecycleHook? : Activity → Option Hook
  | .called call => if call.hook.isLifecycle then some call.hook else none
  | .logged _ => none

/-- The hooks from start to end, in the order of the calls. -/
def lifecycleHooks (activities : List Activity) : List Hook :=
  activities.filterMap Activity.lifecycleHook?

/-- The hooks of one sequence of activities and then of another one. -/
@[simp]
theorem lifecycleHooks_append (l m : List Activity) :
    lifecycleHooks (l ++ m) = lifecycleHooks l ++ lifecycleHooks m :=
  List.filterMap_append

/-- The hooks of the levels in their order, each with the one for entry points that start again. -/
def startHooks : List (Hook × Hook) :=
  [(.preInit, .reloadedPreInit), (.init, .reloadedInit), (.postInit, .reloadedPostInit)]

namespace EntryPoint

open Host (Stage stage?)

variable {entry : EntryPoint} {levels : List (Hook × Hook)} {level : Hook × Hook} {hook : Hook}
  {started updates ending hooks later : List Hook} {s s' s'' : EntryState}

/-- Whether a hook is the one of a level, or the one for starting again if the entry point
has it. -/
def Starts (entry : EntryPoint) (hook : Hook) (level : Hook × Hook) : Prop :=
  hook = level.1 ∨ entry.isReloadable = true ∧ hook = level.2

/-- What an entry point sees that has some levels still before it: one hook for each level up to
some level, updates only behind the last level, and then the end or a part of it. -/
structure Lifecycle (entry : EntryPoint) (levels : List (Hook × Hook))
    (started updates ending : List Hook) : Prop where
  starts : ∃ reached, reached <+: levels ∧ List.Forall₂ entry.Starts started reached
  runs : updates = [] ∨ started.length = levels.length
  areUpdates : ∀ hook ∈ updates, ∃ level frame, hook = .update level frame
  ends : ending <+: [.shutdown, .dispose]

namespace Lifecycle

/-- All levels may be left out. -/
theorem ended (h : ending <+: [.shutdown, .dispose]) : entry.Lifecycle levels [] [] ending :=
  ⟨⟨[], List.nil_prefix, .nil⟩, .inl rfl, fun _ hin => absurd hin List.not_mem_nil, h⟩

/-- A further level may come first. -/
theorem cons (h : entry.Lifecycle levels started updates ending) (hhook : entry.Starts hook level) :
    entry.Lifecycle (level :: levels) (hook :: started) updates ending := by
  obtain ⟨reached, hreached, hstarted⟩ := h.starts
  refine ⟨⟨level :: reached, ?_, .cons hhook hstarted⟩, ?_, h.areUpdates, h.ends⟩
  · exact List.cons_prefix_cons.mpr ⟨rfl, hreached⟩
  · rcases h.runs with hnone | hall
    · exact .inl hnone
    · right
      rw [List.length_cons, List.length_cons, hall]

/-- Either the first level is entered or nothing comes but the end. -/
theorem of_cons (h : entry.Lifecycle (level :: levels) started updates ending) :
    (started = [] ∧ updates = []) ∨ ∃ hook rest, started = hook :: rest ∧
      entry.Starts hook level ∧ entry.Lifecycle levels rest updates ending := by
  obtain ⟨reached, hreached, hstarted⟩ := h.starts
  cases hstarted with
  | nil =>
    rcases h.runs with hnone | hall
    · exact .inl ⟨rfl, hnone⟩
    · simp at hall
  | @cons hook level' rest reached hhook hrest =>
    obtain ⟨rfl, hprefix⟩ := List.cons_prefix_cons.mp hreached
    refine .inr ⟨hook, rest, rfl, hhook, ⟨reached, hprefix, hrest⟩, ?_, h.areUpdates, h.ends⟩
    rcases h.runs with hnone | hall
    · exact .inl hnone
    · right
      simpa using hall

/-- Behind the last level no level is entered. -/
theorem started_eq_nil (h : entry.Lifecycle [] started updates ending) : started = [] := by
  obtain ⟨reached, hreached, hstarted⟩ := h.starts
  rw [List.prefix_nil.mp hreached] at hstarted
  cases hstarted
  rfl

end Lifecycle

/-! ## Steps -/

/-- What one request does to the state of an entry point, and the hooks that are called. -/
inductive Step (entry : EntryPoint) : EntryState → List Hook → EntryState → Prop where
  | skip (s : EntryState) : Step entry s [] s
  | enter {level : RunLevel} {stage : Stage} {hook : Hook} (hstage : stage? level = some stage)
      (hhook : entry.Starts hook (stage.hook, stage.reloadedHook)) :
      Step entry stage.before [hook] stage.after
  | update (level : UpdateLevel) (frame : Frame) :
      Step entry .running [.update level frame] .running
  | shutdown {s : EntryState} (h : s.isUp = true) : Step entry s [.shutdown] .shuttingDown
  | dispose : Step entry .shuttingDown [.dispose] .disposed

/-- Several steps, and all hooks that are called. -/
inductive Course (entry : EntryPoint) : EntryState → List Hook → EntryState → Prop where
  | nil (s : EntryState) : Course entry s [] s
  | cons {s s' s'' : EntryState} {hooks later : List Hook} (h : entry.Step s hooks s')
      (hlater : Course entry s' later s'') : Course entry s (hooks ++ later) s''

/-- A step never lowers the rank of the state. -/
theorem Step.rank_le (h : entry.Step s hooks s') : s.rank ≤ s'.rank := by
  cases h with
  | skip => exact Nat.le_refl _
  | @enter level stage hook hstage =>
    cases level <;> cases hstage <;> decide
  | update => exact Nat.le_refl _
  | shutdown hup =>
    have hlt : s.rank < EntryState.shuttingDown.rank := by simpa [EntryState.isUp] using hup
    exact Nat.le_of_lt hlt
  | dispose => decide

/-- By induction on the steps, none of which lowers the rank. -/
theorem Course.rank_le (h : entry.Course s hooks s') : s.rank ≤ s'.rank := by
  induction h with
  | nil => exact Nat.le_refl _
  | cons hstep _ ih => exact Nat.le_trans hstep.rank_le ih

/-! ## Hooks from a state on -/

/-- The hooks that may come from a state on. -/
def Accepts (entry : EntryPoint) (hooks : List Hook) : EntryState → Prop
  | .shuttingDown => hooks <+: [.dispose]
  | .disposed => hooks = []
  | s => ∃ started updates ending, hooks = started ++ updates ++ ending ∧
      entry.Lifecycle (startHooks.drop s.rank) started updates ending

/-- An entry point that is up accepts the levels that it has yet to enter, then updates if it has
entered all, then its end. -/
theorem accepts_iff_of_isUp (h : s.isUp = true) :
    entry.Accepts hooks s ↔ ∃ started updates ending, hooks = started ++ updates ++ ending ∧
      entry.Lifecycle (startHooks.drop s.rank) started updates ending := by
  cases s with
  | shuttingDown => cases h
  | disposed => cases h
  | _ => rfl

/-- Nothing needs to come any more. -/
theorem accepts_nil (entry : EntryPoint) (s : EntryState) : entry.Accepts [] s := by
  cases hup : s.isUp with
  | true => exact (accepts_iff_of_isUp hup).mpr ⟨[], [], [], rfl, .ended List.nil_prefix⟩
  | false =>
    cases s with
    | shuttingDown => exact List.nil_prefix
    | disposed => rfl
    | _ => cases hup

/-- The states before and after a stage are those of an entry point that is up. -/
theorem isUp_stage {level : RunLevel} {stage : Stage} (h : stage? level = some stage) :
    stage.before.isUp = true ∧ stage.after.isUp = true := by
  cases level <;> cases h <;> decide

/-- The level of a stage is the next one that is before an entry point. -/
theorem drop_startHooks {level : RunLevel} {stage : Stage} (h : stage? level = some stage) :
    startHooks.drop stage.before.rank =
      (stage.hook, stage.reloadedHook) :: startHooks.drop stage.after.rank := by
  cases level <;> cases h <;> rfl

/-- A step adds its hooks in front of those that come later. -/
theorem Step.accepts (h : entry.Step s hooks s') (hlater : entry.Accepts later s') :
    entry.Accepts (hooks ++ later) s := by
  cases h with
  | skip => exact hlater
  | @enter level stage hook hstage hhook =>
    obtain ⟨hbefore, hafter⟩ := isUp_stage hstage
    obtain ⟨started, updates, ending, rfl, hlife⟩ := (accepts_iff_of_isUp hafter).mp hlater
    refine (accepts_iff_of_isUp hbefore).mpr ⟨hook :: started, updates, ending, rfl, ?_⟩
    rw [drop_startHooks hstage]
    exact hlife.cons hhook
  | update level frame =>
    -- Behind the last level nothing is started, so the update stands first.
    obtain ⟨started, updates, ending, rfl, hlife⟩ := hlater
    obtain rfl : started = [] := hlife.started_eq_nil
    refine ⟨[], .update level frame :: updates, ending, rfl, hlife.starts, .inr rfl, ?_,
      hlife.ends⟩
    intro hook hin
    rcases List.mem_cons.mp hin with rfl | hin
    · exact ⟨level, frame, rfl⟩
    · exact hlife.areUpdates hook hin
  | shutdown hup =>
    refine (accepts_iff_of_isUp hup).mpr ⟨[], [], .shutdown :: later, rfl, .ended ?_⟩
    exact List.cons_prefix_cons.mpr ⟨rfl, hlater⟩
  | dispose =>
    obtain rfl : later = [] := hlater
    exact List.prefix_rfl

/-- What an entry point sees along its states is accepted from the first of them. -/
theorem Course.accepts (h : entry.Course s hooks s') : entry.Accepts hooks s := by
  induction h with
  | nil s => exact accepts_nil entry s
  | cons hstep _ ih => exact hstep.accepts ih

/-! ## Courses for hooks -/

/-- Some course from a state on calls the hooks. -/
def Realizes (entry : EntryPoint) (s : EntryState) (hooks : List Hook) : Prop :=
  ∃ s', entry.Course s hooks s'

/-- A step and then what is realized behind it. -/
theorem Step.realizes (h : entry.Step s [hook] s') (hlater : entry.Realizes s' later) :
    entry.Realizes s (hook :: later) := by
  obtain ⟨s'', hcourse⟩ := hlater
  exact ⟨s'', .cons h hcourse⟩

/-- Nothing need be seen. -/
theorem realizes_nil (entry : EntryPoint) (s : EntryState) : entry.Realizes s [] :=
  ⟨s, .nil s⟩

/-- From every state before the end an entry point can be shut down and disposed of. -/
theorem realizes_ending (hup : s.isUp = true) (h : ending <+: [.shutdown, .dispose]) :
    entry.Realizes s ending := by
  rcases List.prefix_cons_iff.mp h with rfl | ⟨rest, rfl, hrest⟩
  · exact realizes_nil entry s
  · apply Step.realizes (.shutdown hup)
    rcases List.prefix_cons_iff.mp hrest with rfl | ⟨last, rfl, hlast⟩
    · exact realizes_nil entry .shuttingDown
    · rw [List.prefix_nil.mp hlast]
      exact Step.realizes .dispose (realizes_nil entry .disposed)

/-- From the state in which it runs, an entry point realizes whatever is accepted there. -/
theorem realizes_running (h : entry.Accepts hooks .running) : entry.Realizes .running hooks := by
  obtain ⟨started, updates, ending, rfl, hlife⟩ := h
  obtain rfl : started = [] := hlife.started_eq_nil
  have hupdates := hlife.areUpdates
  have hending : entry.Realizes .running ending := realizes_ending rfl hlife.ends
  clear hlife
  -- The updates come one by one, and behind the last of them the end.
  induction updates with
  | nil => exact hending
  | cons hook rest ih =>
    obtain ⟨level, frame, rfl⟩ := hupdates hook List.mem_cons_self
    have hrest := ih fun hook hin => hupdates hook (List.mem_cons_of_mem _ hin)
    exact Step.realizes (.update level frame) hrest

/-- From the state before a level, an entry point realizes whatever is accepted there, given that it
does so from the state after the level. -/
theorem realizes_before (level : RunLevel) {stage : Stage} (hstage : stage? level = some stage)
    (hafter : ∀ later, entry.Accepts later stage.after → entry.Realizes stage.after later)
    (h : entry.Accepts hooks stage.before) : entry.Realizes stage.before hooks := by
  obtain ⟨hupBefore, hupAfter⟩ := isUp_stage hstage
  obtain ⟨started, updates, ending, rfl, hlife⟩ := (accepts_iff_of_isUp hupBefore).mp h
  rw [drop_startHooks hstage] at hlife
  rcases hlife.of_cons with ⟨rfl, rfl⟩ | ⟨hook, rest, rfl, hhook, hrest⟩
  · exact realizes_ending hupBefore hlife.ends
  · have hlater : entry.Accepts (rest ++ updates ++ ending) stage.after :=
      (accepts_iff_of_isUp hupAfter).mpr ⟨rest, updates, ending, rfl, hrest⟩
    exact Step.realizes (.enter hstage hhook) (hafter _ hlater)

/-- From its first state, an entry point realizes whatever is accepted there. -/
theorem realizes_uninitialized (h : entry.Accepts hooks .uninitialized) :
    entry.Realizes .uninitialized hooks := by
  -- What is known of the state behind a level gives the state before it.
  have hinit (hooks : List Hook) (h : entry.Accepts hooks .init) : entry.Realizes .init hooks :=
    realizes_before .postInit rfl (fun _ => realizes_running) h
  have hpreInit (hooks : List Hook) (h : entry.Accepts hooks .preInit) :
      entry.Realizes .preInit hooks :=
    realizes_before .init rfl hinit h
  exact realizes_before .preInit rfl hpreInit h

end EntryPoint

/-! ## Hosts -/

namespace Host

/-- What can be asked of a host. -/
inductive Request where
  | enter (level : RunLevel) (isReloading : Bool)
  | update (level : UpdateLevel) (frame : Frame)
  | shutdown
  | dispose

/-- The host after a request. -/
def perform (h : Host) : Request → Journaled Activity Host
  | .enter level isReloading => h.enter level isReloading
  | .update level frame => (fun _ => h) <$> h.update level frame
  | .shutdown => h.shutdown
  | .dispose => h.dispose

/-- The host after several requests. -/
def run (h : Host) (requests : List Request) : Journaled Activity Host :=
  requests.foldlM perform h

/-- The life of an entry point: it is created, and then its host gets some requests. -/
def live (handle : Handle) (moduleId : String) (index : Nat) (entry : EntryPoint)
    (dependencies : Dependencies) (callbacks : List Service) (requests : List Request) :
    Journaled Activity Host := do
  let h ← new handle moduleId index entry dependencies callbacks
  h.run requests

variable {hooks : List Hook} {s : EntryState}

/-- The hooks of a stage belong to the lifecycle. -/
theorem isLifecycle_stage {level : RunLevel} {stage : Stage} (h : stage? level = some stage) :
    stage.hook.isLifecycle = true ∧ stage.reloadedHook.isLifecycle = true := by
  cases level <;> cases h <;> decide

/-- Calling a hook of the lifecycle is seen as that hook. -/
theorem lifecycleHooks_call (h : Host) {hook : Hook} (hhook : hook.isLifecycle = true) :
    lifecycleHooks (h.call hook).journal = [hook] := by
  simp [call, lifecycleHooks, Activity.lifecycleHook?, hhook]

/-- A request does not replace the entry point. -/
theorem entry_perform (h : Host) (request : Request) :
    (h.perform request).value.entry = h.entry := by
  cases request with
  | enter level isReloading =>
    show (h.enter level isReloading).value.entry = h.entry
    unfold enter
    cases stage? level with
    | none => rfl
    | some stage =>
      dsimp only
      split <;> rfl
  | update => rfl
  | shutdown =>
    show h.shutdown.value.entry = h.entry
    unfold shutdown
    split <;> rfl
  | dispose =>
    show h.dispose.value.entry = h.entry
    unfold dispose
    split <;> rfl

/-- Before a level it is entered by one hook. -/
theorem enter_eq (h : Host) {level : RunLevel} {stage : Stage} (hstage : stage? level = some stage)
    (hbefore : h.state = stage.before) (isReloading : Bool) :
    h.enter level isReloading = do
      h.call (if isReloading && h.entry.isReloadable then stage.reloadedHook else stage.hook)
      return { h with state := stage.after } := by
  unfold enter
  rw [hstage]
  exact if_pos hbefore

/-- Entering a level is a step, whether the level is due or not. -/
theorem step_enter (h : Host) (level : RunLevel) (isReloading : Bool) :
    h.entry.Step h.state (lifecycleHooks (h.enter level isReloading).journal)
      (h.enter level isReloading).value.state := by
  cases hstage : stage? level with
  | none =>
    unfold enter
    rw [hstage]
    exact .skip h.state
  | some stage =>
    by_cases hbefore : h.state = stage.before
    · obtain ⟨hnormal, hreloaded⟩ := isLifecycle_stage hstage
      rw [h.enter_eq hstage hbefore, hbefore, Journaled.journal_bind, Journaled.journal_pure,
        List.append_nil]
      cases hcond : isReloading && h.entry.isReloadable with
      | true =>
        rw [if_pos rfl, h.lifecycleHooks_call hreloaded]
        exact .enter hstage (.inr ⟨(Bool.and_eq_true_iff.mp hcond).2, rfl⟩)
      | false =>
        rw [if_neg Bool.false_ne_true, h.lifecycleHooks_call hnormal]
        exact .enter hstage (.inl rfl)
    · unfold enter
      rw [hstage]
      dsimp only
      rw [if_neg hbefore]
      exact .skip h.state

/-- An update is a step that keeps the state. -/
theorem step_update (h : Host) (level : UpdateLevel) (frame : Frame) :
    h.entry.Step h.state (lifecycleHooks (h.update level frame).journal) h.state := by
  unfold update
  by_cases hrunning : h.state = .running
  · rw [if_pos hrunning, h.lifecycleHooks_call rfl, hrunning]
    exact .update level frame
  · rw [if_neg hrunning]
    exact .skip h.state

/-- A shutdown is a step. -/
theorem step_shutdown (h : Host) :
    h.entry.Step h.state (lifecycleHooks h.shutdown.journal) h.shutdown.value.state := by
  unfold shutdown
  cases hup : h.state.isUp with
  | true => exact .shutdown hup
  | false => exact .skip h.state

/-- A disposal is a step. -/
theorem step_dispose (h : Host) :
    h.entry.Step h.state (lifecycleHooks h.dispose.journal) h.dispose.value.state := by
  unfold dispose
  by_cases hdown : h.state = .shuttingDown
  · rw [if_pos hdown, hdown]
    exact .dispose
  · rw [if_neg hdown]
    exact .skip h.state

/-- Every request is a step. -/
theorem step_perform (h : Host) (request : Request) :
    h.entry.Step h.state (lifecycleHooks (h.perform request).journal)
      (h.perform request).value.state := by
  cases request with
  | enter level isReloading => exact h.step_enter level isReloading
  | update level frame =>
    unfold perform
    rw [Journaled.journal_map]
    exact h.step_update level frame
  | shutdown => exact h.step_shutdown
  | dispose => exact h.step_dispose

/-- By induction on the requests. -/
theorem course_run (h : Host) (requests : List Request) :
    h.entry.Course h.state (lifecycleHooks (h.run requests).journal)
      (h.run requests).value.state := by
  induction requests generalizing h with
  | nil => exact .nil h.state
  | cons request rest ih =>
    have hlater := ih (h.perform request).value
    rw [h.entry_perform] at hlater
    unfold run
    rw [List.foldlM_cons, Journaled.journal_bind, lifecycleHooks_append]
    exact .cons (h.step_perform request) hlater

/-- Some requests and then more of them. -/
theorem value_run_append (h : Host) (requests more : List Request) :
    (h.run (requests ++ more)).value = ((h.run requests).value.run more).value := by
  unfold run
  rw [Journaled.value_foldlM, Journaled.value_foldlM, Journaled.value_foldlM, List.foldl_append]

/-- Every step is made by some request. -/
theorem exists_perform (h : Host) (hstep : h.entry.Step h.state hooks s) :
    ∃ request, lifecycleHooks (h.perform request).journal = hooks ∧
      (h.perform request).value = { h with state := s } := by
  obtain ⟨handle, moduleId, index, entry, state⟩ := h
  cases hstep with
  | skip => exact ⟨.enter .error false, rfl, rfl⟩
  | @enter level stage hook hstage hhook =>
    have hperform (isReloading : Bool) := enter_eq ⟨handle, moduleId, index, entry, stage.before⟩
      hstage rfl isReloading
    obtain ⟨hnormal, hreloaded⟩ := isLifecycle_stage hstage
    unfold perform
    rcases hhook with rfl | ⟨hreloadable, rfl⟩
    · refine ⟨.enter level false, ?_, congrArg Journaled.value (hperform false)⟩
      dsimp only
      rw [hperform, Journaled.journal_bind, Journaled.journal_pure, List.append_nil]
      exact lifecycleHooks_call _ hnormal
    · refine ⟨.enter level true, ?_, congrArg Journaled.value (hperform true)⟩
      dsimp only at hreloadable ⊢
      rw [hperform, Journaled.journal_bind, Journaled.journal_pure, List.append_nil, hreloadable]
      exact lifecycleHooks_call _ hreloaded
  | update level frame => exact ⟨.update level frame, rfl, rfl⟩
  | shutdown hup =>
    refine ⟨.shutdown, ?_, ?_⟩
    · unfold perform shutdown
      dsimp only at hup ⊢
      rw [hup]
      rfl
    · unfold perform shutdown
      dsimp only at hup ⊢
      rw [hup]
      rfl
  | dispose => exact ⟨.dispose, rfl, rfl⟩

/-- By induction on the steps, to each of which there is a request. -/
theorem exists_run {entry : EntryPoint} {s' : EntryState} (hcourse : entry.Course s hooks s')
    (h : Host) (hentry : h.entry = entry) (hstate : h.state = s) :
    ∃ requests, lifecycleHooks (h.run requests).journal = hooks := by
  induction hcourse generalizing h with
  | nil => exact ⟨[], rfl⟩
  | cons hstep _ ih =>
    subst hentry hstate
    obtain ⟨request, hhooks, hvalue⟩ := h.exists_perform hstep
    obtain ⟨rest, hrest⟩ := ih (h.perform request).value (by rw [hvalue]) (by rw [hvalue])
    refine ⟨request :: rest, ?_⟩
    unfold run
    rw [List.foldlM_cons, Journaled.journal_bind, lifecycleHooks_append, hhooks]
    exact congrArg _ hrest

/-- The state of an entry point never goes back, and the hooks that it can see are the levels in
their order, then updates, then the end. -/
theorem lifecycle_after (handle : Handle) (moduleId : String) (index : Nat) (entry : EntryPoint)
    (dependencies : Dependencies) (callbacks : List Service) :
    (∀ requests more,
      (live handle moduleId index entry dependencies callbacks requests).value.state.rank ≤
        (live handle moduleId index entry dependencies callbacks
          (requests ++ more)).value.state.rank) ∧
    ∀ hooks,
      (∃ requests, lifecycleHooks
        (live handle moduleId index entry dependencies callbacks requests).journal = hooks) ↔
      ∃ started updates ending, hooks = started ++ updates ++ ending ∧
        entry.Lifecycle startHooks started updates ending := by
  refine ⟨?_, ?_⟩
  · intro requests more
    have hmore := (live handle moduleId index entry dependencies callbacks
      requests).value.course_run more
    unfold live at hmore ⊢
    rw [Journaled.value_bind, Journaled.value_bind, value_run_append]
    exact hmore.rank_le
  · intro hooks
    let h : Host := ⟨handle, moduleId, index, entry, .uninitialized⟩
    have hlive (requests : List Request) : lifecycleHooks
        (live handle moduleId index entry dependencies callbacks requests).journal =
          lifecycleHooks (h.run requests).journal := rfl
    constructor
    · rintro ⟨requests, rfl⟩
      exact (h.course_run requests).accepts
    · intro haccepts
      obtain ⟨s', hcourse⟩ := EntryPoint.realizes_uninitialized haccepts
      exact exists_run hcourse h rfl rfl

end Host

end ModuleRuntime.Module
