import Mathlib.Data.List.Induction
import ModuleRuntime.Proofs.Context.Content

/-!
# Handles

A handle names one module for good. It is computed from the generation of a context and the number
of its modules, and is looked up by the same numbers, so this is a fact about whole runs: as long as
the numbers do not wrap around, a handle is live from the load that answered with it to the next
unload, and until then it leads to the descriptor of that load and to the states in which the calls
have left the entry points of that load.
-/

set_option autoImplicit false

namespace ModuleRuntime.Module

/-! ## States by calls -/

/-- The state of an entry point after a call of one of its hooks. -/
def EntryState.after (s : EntryState) : Hook → EntryState
  | .create => .uninitialized
  | .preInit | .reloadedPreInit => .preInit
  | .init | .reloadedInit => .init
  | .postInit | .reloadedPostInit => .running
  | .shutdown => .shuttingDown
  | .dispose => .disposed
  | .setDependencies _ | .setTestingCallbacks _ | .update _ _ | .reloadTriggered
  | .reloadCompleted => s

/-- The hooks of an entry point that are called, in their order. -/
def hooksOf (a : Addressee) (calls : List HookCall) : List Hook :=
  (calls.filter fun c => c.addressee = a).map (·.hook)

/-- The state in which calls leave an entry point. -/
def stateBy (calls : List HookCall) (a : Addressee) : EntryState :=
  (hooksOf a calls).foldl EntryState.after .uninitialized

/-- The hooks of some calls and then of others. -/
theorem hooksOf_append (a : Addressee) (l m : List HookCall) :
    hooksOf a (l ++ m) = hooksOf a l ++ hooksOf a m := by
  unfold hooksOf
  rw [List.filter_append, List.map_append]

/-- The state after some calls and then after others. -/
theorem stateBy_append (past next : List HookCall) (a : Addressee) :
    stateBy (past ++ next) a = (hooksOf a next).foldl EntryState.after (stateBy past a) := by
  unfold stateBy
  rw [hooksOf_append, List.foldl_append]

/-- Calls of other entry points have no hook of this one. -/
theorem hooksOf_eq_nil {a : Addressee} {l : List HookCall} (h : ∀ c ∈ l, c.addressee ≠ a) :
    hooksOf a l = [] := by
  unfold hooksOf
  rw [List.map_eq_nil_iff, List.filter_eq_nil_iff]
  exact fun c hc => by simpa using h c hc

/-- The hooks of calls that are all of one entry point. -/
theorem hooksOf_map_call (a : Addressee) (hooks : List Hook) :
    hooksOf a (hooks.map a.call) = hooks := by
  unfold hooksOf
  rw [List.filter_eq_self.mpr fun c hc => ?_, List.map_map]
  · exact List.map_id hooks
  · obtain ⟨hook, -, rfl⟩ := List.mem_map.mp hc
    simp

/-- If different members of a list have different entry points and each calls its own one, an entry
point gets the calls of its member. -/
theorem hooksOf_flatMap {α : Type} {key : α → Addressee} {hooks : α → List Hook} {l : List α}
    (hdistinct : (l.map key).Nodup) {b : α} (hb : b ∈ l) :
    hooksOf (key b) (l.flatMap fun b => (hooks b).map (key b).call) = hooks b := by
  induction l with
  | nil => exact absurd hb List.not_mem_nil
  | cons first rest ih =>
    rw [List.map_cons, List.nodup_cons] at hdistinct
    have hother {b : α} {a : Addressee} (ha : key b ≠ a) :
        hooksOf a ((hooks b).map (key b).call) = [] :=
      hooksOf_eq_nil fun c hc => by
        obtain ⟨hook, -, rfl⟩ := List.mem_map.mp hc
        exact ha
    rw [List.flatMap_cons, hooksOf_append]
    -- The first member is none of the rest, so it gets no calls of them, nor they of it.
    rcases List.mem_cons.mp hb with rfl | hin
    · rw [hooksOf_map_call, hooksOf_eq_nil, List.append_nil]
      intro c hc heq
      obtain ⟨b', hb', hc⟩ := List.mem_flatMap.mp hc
      obtain ⟨hook, -, rfl⟩ := List.mem_map.mp hc
      exact hdistinct.1 (List.mem_map.mpr ⟨b', hb', heq⟩)
    · have hne : key first ≠ key b := fun heq => hdistinct.1 (heq ▸ List.mem_map_of_mem hin)
      rw [hother hne, List.nil_append, ih hdistinct.2 hin]

/-- A notice leaves every state as it is. -/
theorem foldl_after_of_notices {hooks : List Hook} {s : EntryState}
    (h : ∀ hook ∈ hooks, hook = .reloadTriggered ∨ hook = .reloadCompleted) :
    hooks.foldl EntryState.after s = s := by
  induction hooks with
  | nil => rfl
  | cons hook rest ih =>
    have hrest := ih fun hook hin => h hook (List.mem_cons_of_mem _ hin)
    rcases h hook List.mem_cons_self with rfl | rfl
    · exact hrest
    · exact hrest

/-- On its way from start to end an entry point is always in the state in which the calls
leave it. -/
theorem EntryPoint.Step.foldl_after {entry : EntryPoint} {s s' : EntryState} {hooks : List Hook}
    (h : entry.Step s hooks s') : hooks.foldl EntryState.after s = s' := by
  cases h with
  | @enter level stage hook hstage hhook =>
    rcases hhook with rfl | ⟨-, rfl⟩ <;> cases level <;> cases hstage <;> rfl
  | _ => rfl

namespace Context

variable {c : Context} {r : Request} {past next : List HookCall} {hosts : List Host}
  {requests : List Request}

/-- Every host is in the state in which the calls have left its entry point. -/
def AreBy (past : List HookCall) (hosts : List Host) : Prop :=
  ∀ h ∈ hosts, stateBy past h.addressee = h.state

/-- The states go on to follow the calls when entry points go on their way. -/
theorem AreBy.moves (h : AreBy past hosts) (hdistinct : (hosts.map (·.addressee)).Nodup)
    {f : Host → Journaled Activity Host} (hf : ∀ h : Host, h.Moves (f h)) :
    AreBy (past ++ hosts.flatMap fun h => calls (f h).journal)
      (hosts.map fun h => (f h).value) := by
  intro k hk
  obtain ⟨k, hin, rfl⟩ := List.mem_map.mp hk
  have hcalls (k : Host) := (hf k).calls
  simp only [hcalls]
  rw [stateBy_append, (hf k).addressee, h k hin, hooksOf_flatMap hdistinct hin]
  exact (hf k).step.foldl_after

/-- The states go on to follow the calls when new entry points are created. -/
theorem AreBy.create (h : AreBy past hosts) {new : List Host}
    (hdistinct : ((hosts ++ new).map (·.addressee)).Nodup)
    (hnew : ∀ h ∈ new, h.state = .uninitialized) (dependencies : Dependencies)
    (callbacks : List Service) :
    AreBy (past ++ (new.map (·.addressee)).flatMap (·.creationCalls dependencies callbacks))
      (hosts ++ new) := by
  rw [List.map_append, List.nodup_append] at hdistinct
  obtain ⟨-, hown, hapart⟩ := hdistinct
  intro k hk
  rw [stateBy_append]
  rcases List.mem_append.mp hk with hin | hin
  · rw [hooksOf_eq_nil, h k hin]
    · rfl
    · intro call hcall heq
      obtain ⟨a, ha, hcall⟩ := List.mem_flatMap.mp hcall
      obtain ⟨hook, -, rfl⟩ := List.mem_map.mp hcall
      exact hapart _ (List.mem_map_of_mem hin) a ha heq.symm
  · have hfirst : hooksOf k.addressee
        (new.flatMap fun h => h.addressee.creationCalls dependencies callbacks) =
          [.create, .setDependencies dependencies, .setTestingCallbacks callbacks] :=
      hooksOf_flatMap hown hin
    rw [List.flatMap_map, hfirst, hnew k hin]
    rfl

/-- The states go on to follow the calls after every request. -/
theorem AreBy.acts (h : AreBy past c.hosts) (hdistinct : (c.hosts.map (·.addressee)).Nodup)
    (hacts : c.Acts r next hosts) (hdistinct' : (hosts.map (·.addressee)).Nodup) :
    AreBy (past ++ next) hosts := by
  cases hacts with
  | rest =>
    rw [List.append_nil]
    exact h
  | create hnew => exact h.create hdistinct' hnew _ _
  | goOn hmoves _ => exact h.moves hdistinct hmoves
  | @notify hook hnotice =>
    intro k hk
    rw [stateBy_append, h k hk]
    refine foldl_after_of_notices fun called hcalled => ?_
    obtain ⟨call, hcall, rfl⟩ := List.mem_map.mp hcalled
    obtain ⟨-, -, rfl⟩ := List.mem_map.mp (List.mem_filter.mp hcall).1
    exact notice?_eq_some hnotice
  | tearDown _ =>
    obtain ⟨f, g, hf, hg, hhosts, hcalls⟩ := c.tearDown_passes
    have hsame := Host.map_addressee (fun k => (hf k).addressee) c.hosts
    rw [hhosts, hcalls, ← List.append_assoc]
    exact (h.moves hdistinct hf).moves (hsame ▸ hdistinct) hg
  | unload _ => exact fun k hk => absurd hk List.not_mem_nil

/-! ## Handles over whole runs -/

/-- Whether a run comes to no more unloads and to no more modules at a time than handles can tell
apart. -/
structure Fits (c : Context) (requests : List Request) : Prop where
  unloads : c.unloads requests < 2 ^ 32
  modules : ∀ earlier, earlier <+: requests → (c.run earlier).value.moduleCount < 2 ^ 32

/-- What does not wrap around in the long run does not do so before. -/
theorem Fits.before {earlier later : List Request} (h : c.Fits (earlier ++ later)) :
    c.Fits earlier where
  unloads := by
    have hall := h.unloads
    rw [unloads_append] at hall
    omega
  modules _ hearlier := h.modules _ (hearlier.trans (List.prefix_append ..))

/-- Every unload begins the next generation, and nothing else does. -/
theorem generation_run (c : Context) (requests : List Request) :
    (c.run requests).value.generation = c.generation + UInt32.ofNat (c.unloads requests) := by
  induction requests generalizing c with
  | nil => exact (UInt32.add_zero _).symm
  | cons r rest ih =>
    rw [run_cons, Journaled.value_bind, ih, (c.frame_perform r).2.2, unloads, UInt32.ofNat_add]
    cases c.isUnloadedBy r with
    | true => exact UInt32.add_assoc ..
    | false =>
      show _ = c.generation + (0 + _)
      rw [UInt32.zero_add]
      rfl

/-- The handles of a context have its generation. -/
theorem IsSound.generation_handle (hc : c.IsSound) {g : Loading} (hg : g ∈ c.content) :
    g.handle.generation = c.generation := by
  obtain ⟨i, hi⟩ := List.mem_iff_getElem?.mp hg
  rw [hc.handle hi]

/-- As long as handles can tell the modules apart, they lead to their modules and to
nothing else. -/
theorem IsSound.slot?_iff (hc : c.IsSound) (hfits : c.moduleCount < 2 ^ 32) (h : Handle)
    (s : Slot) :
    c.slot? h = some s ↔ s ∈ c.slots ∧ s.handle = h := by
  refine slot?_eq_some_iff hc.tidy ?_
  unfold Layout.Fits layout
  rw [List.length_map]
  exact hfits

/-- As long as the number of modules does not wrap around, the live handles are those of the
modules. -/
theorem IsSound.isLive_iff (hc : c.IsSound) (hfits : c.moduleCount < 2 ^ 32) (h : Handle) :
    c.isLive h = true ↔ h ∈ c.handles := by
  rw [isLive_eq_isSome_slot?, Option.isSome_iff_exists, handles, List.mem_map]
  exact exists_congr fun s => hc.slot?_iff hfits h s

/-- What a run that fits has made of the handles with which its loads answered: each belongs to a
module that is still there or to an earlier generation, no two are the same, and the entry points
are in the states in which the calls have left them. -/
structure Answered (c : Context) (requests : List Request) : Prop where
  known : ∀ g ∈ c.loadings requests, g ∈ (c.run requests).value.content ∨
    g.handle.generation.toNat < c.unloads requests
  distinct : ((c.loadings requests).map (·.handle)).Nodup
  states : AreBy (calls (c.run requests).journal) (c.run requests).value.hosts

/-- What unloads a context loads nothing. -/
theorem loading?_eq_none_of_isUnloadedBy (h : c.isUnloadedBy r = true) : c.loading? r = none := by
  cases r with
  | unload => rfl
  | _ => cases h

/-- A request that loads a module unloads nothing. -/
theorem isUnloadedBy_eq_false {g : Loading} (h : c.loading? r = some g) :
    c.isUnloadedBy r = false := by
  rw [← Bool.not_eq_true]
  intro hu
  rw [loading?_eq_none_of_isUnloadedBy hu] at h
  cases h

/-- As long as the generation does not wrap around, it counts the unloads. -/
theorem Fits.toNat_generation (h : c.Fits requests)
    (hnew : c.generation = 0) : (c.run requests).value.generation.toNat = c.unloads requests := by
  rw [generation_run, hnew, UInt32.zero_add]
  exact UInt32.toNat_ofNat_of_lt' h.unloads

/-- As long as the number of modules does not wrap around, no two entry points have one address. -/
theorem IsSound.nodup_hosts (hc : c.IsSound) (hfits : c.moduleCount < 2 ^ 32) :
    (c.hosts.map (·.addressee)).Nodup := by
  rw [map_addressee_hosts]
  exact hc.nodup_addressees (Nat.le_of_lt hfits)

/-- A load that succeeds answers with a handle that no load before it has answered with. -/
theorem Answered.handle_ne (h : c.Answered requests) (hc : c.IsSound) (hnew : c.generation = 0)
    (hfits : c.Fits (requests ++ [r])) {g g' : Loading}
    (hg : (c.run requests).value.loading? r = some g) (hg' : g' ∈ c.loadings requests) :
    g'.handle ≠ g.handle := by
  have hkept := isUnloadedBy_eq_false hg
  intro heq
  rcases h.known g' hg' with hin | hold
  · -- Both modules are there, so their places differ.
    have hboth := (hc.run (requests ++ [r])).nodup_handles
      (Nat.le_of_lt (hfits.modules _ List.prefix_rfl))
    rw [run_concat, Journaled.value_bind, content_perform, hkept, hg] at hboth
    simp only [Bool.false_eq_true, if_false, Option.toList_some, List.map_append,
      List.nodup_append] at hboth
    exact hboth.2.2 _ (List.mem_map_of_mem hin) _ (List.mem_map_of_mem List.mem_cons_self) heq
  · rw [heq, (loading?_eq_some hg).1] at hold
    exact Nat.lt_irrefl _ (hfits.before.toNat_generation hnew ▸ hold)

/-- What holds of the answers so far holds of them after one more request. -/
theorem Answered.concat (h : c.Answered requests) (hc : c.IsSound) (hnew : c.generation = 0)
    (hfits : c.Fits (requests ++ [r])) : c.Answered (requests ++ [r]) := by
  have hsound := hc.run requests
  have hgeneration := hfits.before.toNat_generation hnew
  have hunloads : c.unloads (requests ++ [r]) =
      c.unloads requests + ((c.run requests).value.isUnloadedBy r).toNat := unloads_append ..
  have hloadings : c.loadings (requests ++ [r]) =
      c.loadings requests ++ ((c.run requests).value.loading? r).toList := by
    rw [loadings_append, loadings, loadings, List.append_nil]
  refine ⟨?_, ?_, ?_⟩
  · intro g hg
    rw [hloadings] at hg
    rw [run_concat, Journaled.value_bind, content_perform, hunloads]
    cases hu : (c.run requests).value.isUnloadedBy r with
    | true =>
      rw [loading?_eq_none_of_isUnloadedBy hu, Option.toList_none, List.append_nil] at hg
      -- The generation that ends leaves behind the handles of all modules that were there.
      right
      rw [Bool.toNat_true]
      rcases h.known g hg with hin | hold
      · rw [hsound.generation_handle hin, hgeneration]
        exact Nat.lt_succ_self _
      · exact Nat.lt_succ_of_lt hold
    | false =>
      rcases List.mem_append.mp hg with hg | hg
      · exact (h.known g hg).imp_left (List.mem_append_left _)
      · exact .inl (List.mem_append_right _ hg)
  · rw [hloadings, List.map_append, List.nodup_append]
    refine ⟨h.distinct, ?_, ?_⟩
    · cases (c.run requests).value.loading? r with
      | none => exact List.nodup_nil
      | some g => exact List.nodup_singleton _
    · intro a ha b hb heq
      obtain ⟨g', hg', rfl⟩ := List.mem_map.mp ha
      obtain ⟨g, hg, rfl⟩ := List.mem_map.mp hb
      exact h.handle_ne hc hnew hfits (Option.mem_toList.mp hg) hg' heq
  · have hnext := (hc.run (requests ++ [r])).nodup_hosts (hfits.modules _ List.prefix_rfl)
    rw [run_concat] at hnext ⊢
    rw [Journaled.journal_bind, calls_append]
    exact h.states.acts (hsound.nodup_hosts (hfits.before.modules _ List.prefix_rfl))
      ((c.run requests).value.acts_perform r) hnext

/-- Every run that fits, from a new context on, keeps handles apart. -/
theorem IsSound.answered (hc : c.IsSound) (hslots : c.slots = []) (hnew : c.generation = 0)
    (hfits : c.Fits requests) : c.Answered requests := by
  induction requests using List.reverseRecOn with
  | nil =>
    refine ⟨fun _ hg => absurd hg List.not_mem_nil, List.nodup_nil, fun h hh => ?_⟩
    unfold hosts at hh
    rw [run_nil, Journaled.value_pure, hslots] at hh
    exact absurd hh List.not_mem_nil
  | append_singleton earlier r ih => exact (ih hfits.before).concat hc hnew hfits

/-- What a context makes of the handles of its modules: no two loads have answered with the same
one; a handle is live iff it is that of a module that is there, and from its load to the next
unload; and as long as it is live, it leads to the descriptor that was loaded and to the states of
the entry points that the linker gave for it. -/
structure NamesModules (c : Context) (requests : List Request) : Prop where
  distinct : ((c.loadings requests).map (·.handle)).Nodup
  live : ∀ before r since g, requests = before ++ r :: since →
    (c.run before).value.loading? r = some g →
      ((c.run requests).value.isLive g.handle = true ↔
        (c.run (before ++ [r])).value.unloads since = 0)
  answers : ∀ g ∈ c.loadings requests, (c.run requests).value.isLive g.handle = true →
    (c.run requests).value.descriptor? g.handle = some g.descriptor ∧
      (c.run requests).value.states? g.handle =
        some (g.addressees.map (stateBy (calls (c.run requests).journal)))
  listed : ∀ h, (c.run requests).value.isLive h = true ↔ h ∈ (c.run requests).value.handles

/-- What is answered about a handle after a run, given what holds of the answers along it. -/
theorem Answered.namesModules (h : c.Answered requests) (hc : c.IsSound) (hnew : c.generation = 0)
    (hfits : c.Fits requests) : c.NamesModules requests := by
  have hsound := hc.run requests
  have hcount := hfits.modules requests List.prefix_rfl
  have hlist := hsound.isLive_iff hcount
  have hgeneration := hfits.toNat_generation hnew
  have hold {g : Loading} (hlive : (c.run requests).value.isLive g.handle = true) :
      ¬g.handle.generation.toNat < c.unloads requests := by
    simp only [isLive, Bool.and_eq_true, beq_iff_eq] at hlive
    rw [hlive.1.2, hgeneration]
    exact Nat.lt_irrefl _
  refine ⟨h.distinct, ?_, ?_, hlist⟩
  · rintro before r since g rfl hg
    have hkept := isUnloadedBy_eq_false hg
    have hunloads : c.unloads (before ++ [r]) = c.unloads before := by
      rw [unloads_append, unloads, hkept]
      rfl
    rw [List.append_cons] at hlist hfits hold ⊢
    constructor
    · -- An unload since would have left the handle behind the current generation.
      intro hlive
      have hborn := hold hlive
      rw [(loading?_eq_some hg).1, unloads_append, hunloads] at hborn
      change ¬(c.run before).value.generation.toNat < _ at hborn
      rw [hfits.before.before.toNat_generation hnew] at hborn
      omega
    · -- Without an unload the module is still where its load has put it.
      intro hnone
      have hin : g ∈ (c.run (before ++ [r])).value.content := by
        rw [run_concat, Journaled.value_bind, content_perform, hkept, hg]
        exact List.mem_append_right _ List.mem_cons_self
      rw [hlist, run_append, Journaled.value_bind, handles]
      have hstill : g ∈ ((c.run (before ++ [r])).value.run since).value.content := by
        rw [content_run since hnone]
        exact List.mem_append_left _ hin
      obtain ⟨s, hs, rfl⟩ := List.mem_map.mp hstill
      exact List.mem_map_of_mem hs
  · intro g hg hlive
    have hin : g ∈ (c.run requests).value.content :=
      (h.known g hg).resolve_right (hold hlive)
    obtain ⟨s, hs, rfl⟩ := List.mem_map.mp hin
    have hslot : (c.run requests).value.slot? s.loading.handle = some s :=
      (hsound.slot?_iff hcount _ _).mpr ⟨hs, rfl⟩
    unfold descriptor? states?
    rw [hslot]
    refine ⟨rfl, congrArg some ?_⟩
    unfold Slot.loading
    rw [List.map_map]
    refine List.map_congr_left fun k hk => ?_
    exact (h.states k (List.mem_flatMap.mpr ⟨s, hs, hk⟩)).symm

/-- Handles never come to name another module, in every run from a new context on in which the
numbers that they are made of do not wrap around. -/
theorem namesModules_after (id : UInt32) (name : String) (supportsReload : Bool)
    (linkers : LinkerSequence) (requests : List Request)
    (hfits : (new id name supportsReload linkers).Fits requests) :
    (new id name supportsReload linkers).NamesModules requests := by
  have hc := isSound_new id name supportsReload linkers
  exact (hc.answered rfl rfl hfits).namesModules hc rfl hfits

/-- A request loads one module at most. -/
theorem moduleCount_run_le (c : Context) (requests : List Request) :
    (c.run requests).value.moduleCount ≤ c.moduleCount + requests.length := by
  induction requests generalizing c with
  | nil => exact Nat.le_refl _
  | cons r rest ih =>
    have hstep : (c.perform r).value.moduleCount ≤ c.moduleCount + 1 := by
      rw [← length_content, ← length_content, content_perform]
      split
      · exact Nat.zero_le _
      · rw [List.length_append]
        cases c.loading? r with
        | none => exact Nat.le_succ _
        | some g => exact Nat.le_refl _
    have hrest := ih (c.perform r).value
    rw [run_cons, Journaled.value_bind, List.length_cons]
    omega

/-- A module is loaded and unloaded, and in the next generation another one takes its place, a load
fails, and it is loaded again. -/
def secondGeneration : List Request :=
  [.bare "A", .enterLevel .preInit, .unload, .bare "B", .bare "C", .bare "A", .enterLevel .preInit]

/-- The loads that succeed are told apart by the generation and the place that their
handles have. -/
theorem namesModules_after_secondGeneration :
    let c := new 1 "dynamic" true Linker.ofTwoModules
    c.Fits secondGeneration ∧
      (c.loadings secondGeneration).map (·.handle) = [⟨1, 0, 0⟩, ⟨1, 1, 0⟩, ⟨1, 1, 1⟩] ∧
      c.NamesModules secondGeneration := by
  have hfits : (new 1 "dynamic" true Linker.ofTwoModules).Fits secondGeneration := by
    refine ⟨by decide, fun earlier hprefix => ?_⟩
    have hbound := moduleCount_run_le (new 1 "dynamic" true Linker.ofTwoModules) earlier
    have hlength : earlier.length ≤ 7 := hprefix.length_le
    have hnone : (new 1 "dynamic" true Linker.ofTwoModules).moduleCount = 0 := rfl
    omega
  exact ⟨hfits, by decide,
    namesModules_after 1 "dynamic" true Linker.ofTwoModules secondGeneration hfits⟩

end Context

end ModuleRuntime.Module
