import ModuleRuntime.Proofs.Context.Content

/-!
# Teardowns

However the requests to a context are mixed, its entry points fall into two parts: those loaded
first were torn down, and all others are up. So a teardown shuts down and disposes of exactly those
that no teardown has reached yet, in the order in which they were loaded, and an unload leaves no
entry point that was not shut down once and disposed of once.
-/

set_option autoImplicit false

namespace ModuleRuntime.Module

/-- The calls of a teardown: entry points are shut down, and then the same ones are disposed of. -/
def teardown (torn : List Addressee) : List HookCall :=
  torn.map (·.call .shutdown) ++ torn.map (·.call .dispose)

/-- A teardown shuts down and disposes of the same entry points. -/
theorem addressees_teardown (hook : Hook) (torn : List Addressee) :
    addressees hook (teardown torn) =
      (if .shutdown = hook then torn else []) ++ if .dispose = hook then torn else [] := by
  unfold teardown
  rw [addressees_append, addressees_map_call, addressees_map_call]

namespace Context

variable {c : Context} {r : Request} {past next : List HookCall} {gone up hosts : List Host}

/-! ## How far the entry points have come -/

/-- Entry points after some calls: all have been created, those that come first have been shut down
and disposed of, and the others are up. -/
structure EndedThenUp (past : List HookCall) (gone up : List Host) : Prop where
  isGone : ∀ h ∈ gone, h.state = .disposed
  isUp : ∀ h ∈ up, h.state.isUp = true
  created : addressees .create past = gone.map (·.addressee) ++ up.map (·.addressee)
  shutDown : addressees .shutdown past = gone.map (·.addressee)
  disposed : addressees .dispose past = gone.map (·.addressee)

/-- Calls that create no entry point, shut none down and dispose of none change neither part. -/
theorem EndedThenUp.quiet (h : EndedThenUp past gone up)
    (hnext : ∀ call ∈ next, call.hook ∉ [Hook.create, .shutdown, .dispose]) :
    EndedThenUp (past ++ next) gone up := by
  have hquiet (hook : Hook) (hhook : hook ∈ [Hook.create, .shutdown, .dispose]) :
      addressees hook (past ++ next) = addressees hook past := by
    rw [addressees_append, addressees_eq_nil (l := next), List.append_nil]
    exact fun call hcall heq => hnext call hcall (heq ▸ hhook)
  refine ⟨h.isGone, h.isUp, ?_, ?_, ?_⟩
  · rw [hquiet _ (by decide), h.created]
  · rw [hquiet _ (by decide), h.shutDown]
  · rw [hquiet _ (by decide), h.disposed]

/-- Entry points that go on stay in their part. -/
theorem EndedThenUp.goOn (h : EndedThenUp past gone up) {f : Host → Journaled Activity Host}
    (hf : ∀ h : Host, h.GoesOn (f h)) :
    EndedThenUp past (gone.map fun h => (f h).value) (up.map fun h => (f h).value) := by
  have hsame := Host.map_addressee fun h => (hf h).addressee
  refine ⟨?_, ?_, ?_, ?_, ?_⟩
  · intro k hk
    obtain ⟨k, hin, rfl⟩ := List.mem_map.mp hk
    exact (hf k).disposed (h.isGone k hin)
  · intro k hk
    obtain ⟨k, hin, rfl⟩ := List.mem_map.mp hk
    rw [(hf k).isUp]
    exact h.isUp k hin
  · rw [hsame, hsame, h.created]
  · rw [hsame, h.shutDown]
  · rw [hsame, h.disposed]

/-- New entry points join those that are up. -/
theorem EndedThenUp.create (h : EndedThenUp past gone up) {new : List Host}
    (hnew : ∀ h ∈ new, h.state = .uninitialized) (dependencies : Dependencies)
    (callbacks : List Service) :
    EndedThenUp
      (past ++ (new.map (·.addressee)).flatMap (·.creationCalls dependencies callbacks)) gone
      (up ++ new) := by
  obtain ⟨hshutdown, hdispose⟩ :=
    addressees_end_creationCalls (new.map (·.addressee)) dependencies callbacks
  refine ⟨h.isGone, ?_, ?_, ?_, ?_⟩
  · intro k hk
    rcases List.mem_append.mp hk with hk | hk
    · exact h.isUp k hk
    · rw [hnew k hk]
      rfl
  · rw [addressees_append, addressees_create_creationCalls, h.created, List.map_append,
      List.append_assoc]
  · rw [addressees_append, hshutdown, List.append_nil, h.shutDown]
  · rw [addressees_append, hdispose, List.append_nil, h.disposed]

/-- A teardown reaches the entry points that are up, and leaves none of them. -/
theorem EndedThenUp.tearDown (h : EndedThenUp past gone up) (hc : c.hosts = gone ++ up) :
    calls c.tearDown.journal = teardown (up.map (·.addressee)) ∧
      EndedThenUp (past ++ calls c.tearDown.journal) c.tearDown.value.hosts [] := by
  obtain ⟨hhosts, hcalls⟩ := c.tearDown_eq
  have hnotUp : ∀ k ∈ gone, ¬k.state.isUp = true := fun k hk => by
    rw [h.isGone k hk]
    exact Bool.false_ne_true
  have hnotGone : ∀ k ∈ up, k.state ≠ .disposed := fun k hk heq => by
    have hup := h.isUp k hk
    rw [heq] at hup
    cases hup
  have htorn : calls c.tearDown.journal = teardown (up.map (·.addressee)) := by
    unfold teardown
    -- Those that have gone pass neither filter, and those that are up pass both.
    rw [hcalls, hc, List.filter_append, List.filter_append,
      List.filter_eq_nil_iff.mpr hnotUp, List.filter_eq_self.mpr h.isUp,
      List.filter_eq_nil_iff.mpr fun k hk => by simpa using h.isGone k hk,
      List.filter_eq_self.mpr fun k hk => by simpa using hnotGone k hk, List.map_map, List.map_map]
    rfl
  have hsame : c.tearDown.value.hosts.map (·.addressee) =
      gone.map (·.addressee) ++ up.map (·.addressee) := by
    rw [hhosts, List.map_map, ← List.map_append, ← hc]
    rfl
  rw [htorn]
  refine ⟨rfl, ?_, fun k hk => absurd hk List.not_mem_nil, ?_, ?_, ?_⟩
  · intro k hk
    rw [hhosts] at hk
    obtain ⟨_, -, rfl⟩ := List.mem_map.mp hk
    rfl
  · rw [addressees_append, addressees_teardown, hsame, h.created]
    simp
  · rw [addressees_append, addressees_teardown, hsame, h.shutDown]
    simp
  · rw [addressees_append, addressees_teardown, hsame, h.disposed]
    simp

/-- After every request but an unload the entry points are in two such parts. -/
theorem EndedThenUp.acts (h : EndedThenUp past gone up) (hc : c.hosts = gone ++ up)
    (hr : r ≠ .unload)
    (hacts : c.Acts r next hosts) :
    ∃ gone' up', hosts = gone' ++ up' ∧ EndedThenUp (past ++ next) gone' up' := by
  cases hacts with
  | rest => exact ⟨gone, up, hc, h.quiet fun _ hcall => absurd hcall List.not_mem_nil⟩
  | @create new hnew =>
    exact ⟨gone, up ++ new, by rw [hc, List.append_assoc], h.create hnew _ _⟩
  | @goOn f _ hgoes =>
    refine ⟨_, _, by rw [hc, List.map_append], (h.goOn hgoes).quiet fun call hcall => ?_⟩
    obtain ⟨k, -, hcall⟩ := List.mem_flatMap.mp hcall
    exact (hgoes k).calls call hcall
  | @notify hook hnotice =>
    refine ⟨gone, up, hc, h.quiet fun call hcall => ?_⟩
    obtain ⟨k, -, rfl⟩ := List.mem_map.mp hcall
    rcases notice?_eq_some hnotice with rfl | rfl <;> simp
  | tearDown _ => exact ⟨_, [], (List.append_nil _).symm, (h.tearDown hc).2⟩
  | unload hunload => exact absurd hunload hr

/-- By induction on the requests, none of which is an unload. -/
theorem EndedThenUp.run (h : EndedThenUp past gone up) (hc : c.hosts = gone ++ up)
    {requests : List Request}
    (hrequests : .unload ∉ requests) :
    ∃ gone' up', (c.run requests).value.hosts = gone' ++ up' ∧
      EndedThenUp (past ++ calls (c.run requests).journal) gone' up' := by
  -- The calls so far and both parts are generalized, since every request adds to them.
  induction requests generalizing c past gone up with
  | nil => exact ⟨gone, up, hc, h.quiet fun _ hcall => absurd hcall List.not_mem_nil⟩
  | cons r rest ih =>
    obtain ⟨hr, hrest⟩ := not_or.mp (List.mem_cons.not.mp hrequests)
    obtain ⟨gone', up', hc', h'⟩ := h.acts hc (Ne.symm hr) (c.acts_perform r)
    rw [run_cons, Journaled.journal_bind, calls_append, ← List.append_assoc]
    exact ih h' hc' hrest

/-! ## Unloads -/

/-- A teardown, after some calls and with some modules loaded, reaches all entry points that none
has reached before, in the order of the modules and, in a module, in the order of the linker. -/
def TearsDownRest (built : List Loading) (past next : List HookCall) : Prop :=
  ∃ torn, next = teardown torn ∧
    addressees .shutdown past ++ torn = built.flatMap (·.addressees) ∧
    addressees .dispose past ++ torn = built.flatMap (·.addressees)

/-- A teardown reaches those that are up, and these are all that none has reached before. -/
theorem EndedThenUp.tearsDownRest (h : EndedThenUp past gone up) (hc : c.hosts = gone ++ up) :
    TearsDownRest c.content past (calls c.tearDown.journal) := by
  refine ⟨up.map (·.addressee), (h.tearDown hc).1, ?_, ?_⟩
  · rw [h.shutDown, ← map_addressee_hosts, hc, List.map_append]
  · rw [h.disposed, ← map_addressee_hosts, hc, List.map_append]

/-- What an unload comes to after some requests to a context without modules: it answers with what
was loaded, in its order; over their whole lives the entry points have been created, shut down and
disposed of once each, every teardown in its turn; and nothing is left but a new generation. -/
structure UnloadsOnce (c : Context) (since : List Request) : Prop where
  answer : (c.run since).value.unload.value.1 =
    .ok ((c.loadings since).map fun g => ⟨g.descriptor, g.image⟩)
  once : ∀ hook ∈ [Hook.create, .shutdown, .dispose],
    addressees hook (calls (c.run (since ++ [.unload])).journal) =
      (c.loadings since).flatMap (·.addressees)
  distinct : (c.loadings since).length ≤ 2 ^ 32 →
    ((c.loadings since).flatMap (·.addressees)).Nodup
  shutdown : ∀ earlier later, since = earlier ++ .shutdown :: later →
    TearsDownRest (c.loadings earlier) (calls (c.run earlier).journal)
      (calls (c.run earlier).value.shutdown.journal)
  unload : TearsDownRest (c.loadings since) (calls (c.run since).journal)
    (calls (c.run since).value.unload.journal)
  empty : (c.run (since ++ [.unload])).value.slots = [] ∧
    (c.run (since ++ [.unload])).value.pending = .empty ∧
    (c.run (since ++ [.unload])).value.loaded = .empty
  generation : (c.run (since ++ [.unload])).value.generation = (c.run since).value.generation + 1

/-- Requests without an unload unload nothing. -/
theorem unloads_eq_zero {requests : List Request} (h : .unload ∉ requests) :
    c.unloads requests = 0 := by
  induction requests generalizing c with
  | nil => rfl
  | cons r rest ih =>
    obtain ⟨hr, hrest⟩ := not_or.mp (List.mem_cons.not.mp h)
    have hkept : c.isUnloadedBy r = false := by
      cases r with
      | unload => exact absurd rfl hr
      | _ => rfl
    rw [unloads, hkept, ih hrest]
    rfl

/-- A context without modules that supports reloads is unloaded so after all requests
but unloads. -/
theorem IsSound.unloadsOnce (hc : c.IsSound) (hempty : c.slots = [])
    (hsupports : c.supportsReload = true) {since : List Request} (hsince : .unload ∉ since) :
    c.UnloadsOnce since := by
  have hnone : EndedThenUp [] [] [] :=
    ⟨fun _ h => absurd h List.not_mem_nil, fun _ h => absurd h List.not_mem_nil, rfl, rfl, rfl⟩
  have hhosts : c.hosts = [] ++ [] := by
    unfold hosts
    rw [hempty]
    rfl
  have hcontent {requests : List Request} (h : .unload ∉ requests) :
      (c.run requests).value.content = c.loadings requests := by
    rw [content_run requests (unloads_eq_zero h)]
    unfold content
    rw [hempty]
    rfl
  have hstand {requests : List Request} (h : .unload ∉ requests) := hnone.run hhosts h
  have hlive : (c.run since).value.supportsReload = true := (c.frame_run since).2.2.trans hsupports
  obtain ⟨-, hvalue, hcalls⟩ := unload_of_supportsReload hlive
  obtain ⟨gone, up, hboth, hstands⟩ := hstand hsince
  rw [List.nil_append] at hstands
  refine ⟨?_, ?_, ?_, ?_, ?_, ?_, ?_⟩
  · rw [((c.run since).value.value_unload hlive).1, ← hcontent hsince]
    unfold content layout
    rw [List.map_map, List.map_map]
    rfl
  · -- When all are torn down, those created are those that were shut down and disposed of.
    have hall := (hstands.tearDown hboth).2
    have hbuilt : (c.run since).value.tearDown.value.hosts.map (·.addressee) =
        (c.loadings since).flatMap (·.addressees) := by
      rw [map_addressee_hosts, content_tearDown, hcontent hsince]
    rw [run_concat, Journaled.journal_bind, calls_append, hcalls, ← hbuilt]
    simp only [List.mem_cons, List.not_mem_nil, or_false, forall_eq_or_imp, forall_eq]
    exact ⟨hall.created.trans (List.append_nil _), hall.shutDown, hall.disposed⟩
  · intro hlength
    rw [← hcontent hsince, length_content] at hlength
    rw [← hcontent hsince]
    exact (hc.run since).nodup_addressees hlength
  · rintro earlier later rfl
    have hearlier : .unload ∉ earlier := fun hin => hsince (List.mem_append_left _ hin)
    obtain ⟨gone, up, hboth, hstands⟩ := hstand hearlier
    rw [(c.run earlier).value.shutdown_eq.2, ← hcontent hearlier]
    exact hstands.tearsDownRest hboth
  · have hjournal : ((c.run since).value.perform .unload).journal =
        (c.run since).value.unload.journal := Journaled.journal_map ..
    rw [← hjournal, hcalls, ← hcontent hsince]
    exact hstands.tearsDownRest hboth
  · rw [run_concat, Journaled.value_bind, hvalue]
    exact ⟨rfl, rfl, rfl⟩
  · have hkept : (c.run since).value.tearDown.value.generation =
        (c.run since).value.generation := congrArg Layout.generation (layout_tearDown _)
    rw [run_concat, Journaled.value_bind, hvalue, ← hkept]
    rfl

/-- A context that supports reloads is unloaded once and in order after every run, counted from the
unload before; any other context refuses it and stays as it is. -/
theorem unloadsOnce_after (id : UInt32) (name : String) (linkers : LinkerSequence) :
    (∀ before since, (before = [] ∨ ∃ earlier, before = earlier ++ [.unload]) → .unload ∉ since →
      ((new id name true linkers).run before).value.UnloadsOnce since) ∧
    ∀ requests, let c := ((new id name false linkers).run requests).value
      c.unload.value = (.error (.misplaced (.unloading name)), c) ∧
        calls c.unload.journal = [] := by
  refine ⟨?_, ?_⟩
  · intro before since hbefore hsince
    have hsupports := ((new id name true linkers).frame_run before).2.2
    refine ((isSound_new id name true linkers).run before).unloadsOnce ?_ hsupports hsince
    rcases hbefore with rfl | ⟨earlier, rfl⟩
    · rfl
    · have hlive := ((new id name true linkers).frame_run earlier).2.2
      rw [run_concat, Journaled.value_bind, (unload_of_supportsReload hlive).2.1]
      rfl
  · intro requests c
    obtain ⟨-, hname, hsupports⟩ := (new id name false linkers).frame_run requests
    obtain ⟨entry, hunload⟩ := unload_of_not_supportsReload (c := c) hsupports
    rw [hunload, show c.name = name from hname]
    exact ⟨rfl, rfl⟩

/-- One module is started and shut down, another one cannot be linked, and a third one is loaded
last and never started. -/
def unevenLives : List Request :=
  [.bare "A", .enterLevel .preInit, .bare "C", .shutdown, .announceReload, .bare "B"]

/-- Entry points that have come far and others that have not are all shut down and disposed
of once. -/
theorem unloadsOnce_after_unevenLives :
    let c := ((new 1 "dynamic" true Linker.ofTwoModules).run [.bare "B", .unload]).value
    (∃ earlier, [Request.bare "B", .unload] = earlier ++ [.unload]) ∧ .unload ∉ unevenLives ∧
      (c.loadings unevenLives).map (·.descriptor.id) = ["A", "B"] ∧ c.UnloadsOnce unevenLives := by
  have hbefore : ∃ earlier, [Request.bare "B", .unload] = earlier ++ [.unload] :=
    ⟨[.bare "B"], rfl⟩
  have hsince : .unload ∉ unevenLives := by
    simp [unevenLives, Request.bare]
  exact ⟨hbefore, hsince, by decide,
    (unloadsOnce_after 1 "dynamic" Linker.ofTwoModules).1 _ _ (.inr hbefore) hsince⟩

end Context

end ModuleRuntime.Module
