import ModuleRuntime.Proofs.Host.Lifecycle

/-!
# Calls of entry points

A call names an entry point by its module, its index and what it is. Whatever a host is asked, it
calls its own entry point only, and by nothing but the hooks of its way from start to end. A new
entry point is created and given what the host has for it.
-/

set_option autoImplicit false

namespace ModuleRuntime.Module

/-! ## Calls of hooks -/

/-- An entry point of a module, as calls of its hooks name it. -/
structure Addressee where
  handle : Handle
  index : Nat
  entry : EntryPoint
  deriving DecidableEq

/-- The call of a hook of an entry point. -/
def Addressee.call (a : Addressee) (hook : Hook) : HookCall :=
  ⟨a.handle, a.index, a.entry, hook⟩

/-- The entry point of which a hook is called. -/
def HookCall.addressee (c : HookCall) : Addressee :=
  ⟨c.handle, c.index, c.entry⟩

/-- The entry point of a host. -/
def Host.addressee (h : Host) : Addressee :=
  ⟨h.handle, h.index, h.entry⟩

/-- The entry point of a call. -/
@[simp]
theorem Addressee.addressee_call (a : Addressee) (hook : Hook) : (a.call hook).addressee = a := rfl

/-- The hook of a call. -/
@[simp]
theorem Addressee.hook_call (a : Addressee) (hook : Hook) : (a.call hook).hook = hook := rfl

/-- The call, if an activity is one. -/
def Activity.call? : Activity → Option HookCall
  | .called c => some c
  | .logged _ => none

/-- The calls among activities. -/
def calls (activities : List Activity) : List HookCall :=
  activities.filterMap Activity.call?

/-- No activities, no calls. -/
@[simp]
theorem calls_nil : calls [] = [] := rfl

/-- The calls among some activities and then among others. -/
@[simp]
theorem calls_append (l m : List Activity) : calls (l ++ m) = calls l ++ calls m :=
  List.filterMap_append

/-- The calls among activities that come from the members of a list. -/
theorem calls_flatMap {α : Type} (f : α → List Activity) (l : List α) :
    calls (l.flatMap f) = l.flatMap fun a => calls (f a) :=
  List.filterMap_flatMap

/-- The entry points of which a hook is called, in the order of the calls. -/
def addressees (hook : Hook) (calls : List HookCall) : List Addressee :=
  (calls.filter fun c => c.hook = hook).map (·.addressee)

/-- Those called by some calls and then by others. -/
@[simp]
theorem addressees_append (hook : Hook) (l m : List HookCall) :
    addressees hook (l ++ m) = addressees hook l ++ addressees hook m := by
  unfold addressees
  rw [List.filter_append, List.map_append]

/-- Those called by calls that come from the members of a list. -/
theorem addressees_flatMap {α : Type} (hook : Hook) (f : α → List HookCall) (l : List α) :
    addressees hook (l.flatMap f) = l.flatMap fun a => addressees hook (f a) := by
  unfold addressees
  rw [List.filter_flatMap, List.map_flatMap]

/-- If one hook of several entry points is called, no other hook is. -/
@[simp]
theorem addressees_map_call (hook called : Hook) (l : List Addressee) :
    addressees hook (l.map (·.call called)) = if called = hook then l else [] := by
  unfold addressees
  rw [List.filter_map, List.map_map]
  by_cases h : called = hook
  · simp [h, Function.comp_def]
  · simp [h, Function.comp_def]

/-- Nobody is called by a hook that no call has. -/
theorem addressees_eq_nil {hook : Hook} {l : List HookCall} (h : ∀ c ∈ l, c.hook ≠ hook) :
    addressees hook l = [] := by
  unfold addressees
  rw [List.map_eq_nil_iff, List.filter_eq_nil_iff]
  exact fun c hc => by simpa using h c hc

/-- The calls by which a new entry point is created and given what the host has for it. -/
def Addressee.creationCalls (a : Addressee) (dependencies : Dependencies)
    (callbacks : List Service) : List HookCall :=
  [Hook.create, .setDependencies dependencies, .setTestingCallbacks callbacks].map a.call

/-- New entry points are created one after the other. -/
theorem addressees_create_creationCalls (l : List Addressee) (dependencies : Dependencies)
    (callbacks : List Service) :
    addressees .create (l.flatMap (·.creationCalls dependencies callbacks)) = l := by
  have hone (a : Addressee) :
      addressees .create (a.creationCalls dependencies callbacks) = [a] := rfl
  rw [addressees_flatMap]
  simp only [hone, List.flatMap_singleton']

/-- A new entry point is neither shut down nor disposed of. -/
theorem addressees_end_creationCalls (l : List Addressee) (dependencies : Dependencies)
    (callbacks : List Service) :
    addressees .shutdown (l.flatMap (·.creationCalls dependencies callbacks)) = [] ∧
      addressees .dispose (l.flatMap (·.creationCalls dependencies callbacks)) = [] := by
  rw [addressees_flatMap, addressees_flatMap]
  exact ⟨List.flatMap_eq_nil_iff.mpr fun _ _ => rfl, List.flatMap_eq_nil_iff.mpr fun _ _ => rfl⟩

/-! ## What hosts do -/

namespace Host

variable {h : Host} {x : Journaled Activity Host}

/-- The entry point of a host may go on its way from start to end, and nothing else happens to the
host. -/
structure Moves (h : Host) (x : Journaled Activity Host) : Prop where
  value : x.value = { h with state := x.value.state }
  step : h.entry.Step h.state (lifecycleHooks x.journal) x.value.state
  calls : calls x.journal = (lifecycleHooks x.journal).map h.addressee.call

/-- The entry point of a host keeps its address. -/
theorem Moves.addressee (hx : h.Moves x) : x.value.addressee = h.addressee := by
  rw [hx.value]
  rfl

/-- As long as every host keeps its entry point, all of them together do. -/
theorem map_addressee {f : Host → Journaled Activity Host}
    (hf : ∀ h, (f h).value.addressee = h.addressee) (hosts : List Host) :
    (hosts.map fun h => (f h).value).map (·.addressee) = hosts.map (·.addressee) := by
  rw [List.map_map]
  exact List.map_congr_left fun h _ => hf h

/-- Nothing happens to the host. -/
theorem moves_pure (h : Host) : h.Moves (pure h) :=
  ⟨rfl, .skip h.state, rfl⟩

/-- Something happens to the host on a condition. -/
theorem Moves.ite {p : Prop} [Decidable p] (hx : h.Moves x) :
    h.Moves (if p then x else pure h) := by
  split
  · exact hx
  · exact h.moves_pure

/-- What a call of a hook of the lifecycle is seen as. -/
theorem calls_call (h : Host) {hook : Hook} (hhook : hook.isLifecycle = true) :
    calls (h.call hook).journal = (lifecycleHooks (h.call hook).journal).map h.addressee.call := by
  rw [h.lifecycleHooks_call hhook]
  rfl

/-- Entering a level is on the way from start to end. -/
theorem moves_enter (h : Host) (level : RunLevel) (isReloading : Bool) :
    h.Moves (h.enter level isReloading) := by
  refine ⟨?_, h.step_enter level isReloading, ?_⟩
  · unfold enter
    cases stage? level with
    | none => rfl
    | some stage =>
      dsimp only
      split <;> rfl
  · unfold enter
    cases hstage : stage? level with
    | none => rfl
    | some stage =>
      obtain ⟨hnormal, hreloaded⟩ := isLifecycle_stage hstage
      dsimp only
      -- A host that does not stand right before the stage only logs.
      split
      · rw [Journaled.journal_bind, Journaled.journal_pure, List.append_nil]
        split
        · exact h.calls_call hreloaded
        · exact h.calls_call hnormal
      · rfl

/-- An update is on the way from start to end. -/
theorem moves_update (h : Host) (level : UpdateLevel) (frame : Frame) :
    h.Moves ((fun _ => h) <$> h.update level frame) := by
  refine ⟨rfl, ?_, ?_⟩
  · rw [Journaled.journal_map]
    exact h.step_update level frame
  · rw [Journaled.journal_map]
    unfold update
    split <;> rfl

/-- A shutdown is on the way from start to end. -/
theorem moves_shutdown (h : Host) : h.Moves h.shutdown := by
  refine ⟨?_, h.step_shutdown, ?_⟩
  · unfold shutdown
    split <;> rfl
  · unfold shutdown
    split <;> rfl

/-- A disposal is on the way from start to end. -/
theorem moves_dispose (h : Host) : h.Moves h.dispose := by
  refine ⟨?_, h.step_dispose, ?_⟩
  · unfold dispose
    split <;> rfl
  · unfold dispose
    split <;> rfl

/-- The entry point of a host may go on, but it comes no nearer to its end. -/
structure GoesOn (h : Host) (x : Journaled Activity Host) : Prop where
  addressee : x.value.addressee = h.addressee
  isUp : x.value.state.isUp = h.state.isUp
  disposed : h.state = .disposed → x.value.state = .disposed
  calls : ∀ call ∈ calls x.journal, call.hook ∉ [Hook.create, .shutdown, .dispose]

/-- No hook of a level creates an entry point, shuts one down or disposes of one. -/
theorem not_mem_of_stage {level : RunLevel} {stage : Stage} (h : stage? level = some stage) :
    stage.hook ∉ [Hook.create, .shutdown, .dispose] ∧
      stage.reloadedHook ∉ [Hook.create, .shutdown, .dispose] := by
  cases level <;> cases h <;> decide

/-- Entering a level brings an entry point no nearer to its end. -/
theorem goesOn_enter (h : Host) (level : RunLevel) (isReloading : Bool) :
    h.GoesOn (h.enter level isReloading) := by
  unfold enter
  split
  · exact ⟨rfl, rfl, id, fun _ hcall => absurd hcall List.not_mem_nil⟩
  · next stage hstage =>
    obtain ⟨hbefore, hafter⟩ := EntryPoint.isUp_stage hstage
    split
    · next hstate =>
      refine ⟨rfl, ?_, ?_, ?_⟩
      · rw [hstate, hbefore]
        exact hafter
      · intro hdisposed
        rw [← hstate, hdisposed] at hbefore
        cases hbefore
      · intro call hcall
        obtain rfl := List.mem_singleton.mp hcall
        obtain ⟨hnormal, hreloaded⟩ := not_mem_of_stage hstage
        show (if _ then _ else _) ∉ _
        split
        · exact hreloaded
        · exact hnormal
    · exact ⟨rfl, rfl, id, fun _ hcall => absurd hcall List.not_mem_nil⟩

/-- An update brings an entry point no nearer to its end. -/
theorem goesOn_update (h : Host) (level : UpdateLevel) (frame : Frame) :
    h.GoesOn ((fun _ => h) <$> h.update level frame) := by
  refine ⟨rfl, rfl, id, ?_⟩
  rw [Journaled.journal_map]
  unfold update
  split
  · intro call hcall
    obtain rfl := List.mem_singleton.mp hcall
    simp
  · exact fun _ hcall => absurd hcall List.not_mem_nil

end Host

end ModuleRuntime.Module
