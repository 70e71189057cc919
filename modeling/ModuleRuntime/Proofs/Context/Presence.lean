import Mathlib.Data.Multiset.AddSub
import ModuleRuntime.Proofs.Context.Content

/-!
# Entry points that are present

An entry point is present from its creation until it is disposed of. What happens to the entry
points of a context comes to few kinds of calls: an entry point is created, and so becomes present;
one that is present is called; it is disposed of, and so it leaves. Along such calls creations and
disposals balance, so it can be read off the calls who is present, and nobody else is called. The
notices of reloads are the only exception: they go to all hosts that a context keeps, and it keeps
those of entry points that have left until it is unloaded.
-/

set_option autoImplicit false

namespace ModuleRuntime.Module

open Journaled (Chain)

/-- Whether as many entry points of an address have been disposed of as were created. -/
def IsGone (past : List HookCall) (a : Addressee) : Prop :=
  (addressees .dispose past).count a = (addressees .create past).count a

instance (past : List HookCall) (a : Addressee) : Decidable (IsGone past a) :=
  inferInstanceAs (Decidable (_ = _))

/-- Whether a call is a notice that reaches an entry point of some hosts that has been
disposed of. -/
def IsLateNotice (notice? : Option Hook) (hosts : List Host) (call : HookCall) : Prop :=
  notice? = some call.hook ∧
    ∃ h ∈ hosts, h.state = .disposed ∧ h.entry.isListener = true ∧ h.addressee = call.addressee

/-- What entry points that have been disposed of hear by some calls: nothing but the notice, if
there is one. That all listeners among the hosts get, and those that were disposed of are not left
out. -/
structure HearsOnlyNotices (hosts : List Host) (notice? : Option Hook) (past next : List HookCall) :
    Prop where
  only : ∀ before call after, next = before ++ call :: after →
    IsGone (past ++ before) call.addressee → call.hook = .create ∨ IsLateNotice notice? hosts call
  told : ∀ hook, notice? = some hook → ∀ h ∈ hosts, h.entry.isListener = true →
    h.addressee.call hook ∈ next

namespace Presence

variable {permits : HookCall → Prop} {s s' : Multiset Addressee} {past l : List HookCall}

/-- A call and what it does to the entry points that are present. Besides, some calls are permitted
that reach others. -/
inductive Step (permits : HookCall → Prop) :
    Multiset Addressee → List HookCall → Multiset Addressee → Prop where
  | create (a : Addressee) (s : Multiset Addressee) : Step permits s [a.call .create] (a ::ₘ s)
  | call {a : Addressee} {hook : Hook} {s : Multiset Addressee} (ha : a ∈ s)
      (hcreate : hook ≠ .create) (hdispose : hook ≠ .dispose) : Step permits s [a.call hook] s
  | dispose (a : Addressee) (s : Multiset Addressee) : Step permits (a ::ₘ s) [a.call .dispose] s
  | permitted {c : HookCall} {s : Multiset Addressee} (hc : permits c) (hcreate : c.hook ≠ .create)
      (hdispose : c.hook ≠ .dispose) : Step permits s [c] s

/-- What entry points do does not depend on which others are present. -/
theorem Step.frame (h : Step permits s l s') (t : Multiset Addressee) :
    Step permits (s + t) l (s' + t) := by
  cases h with
  | create a =>
    rw [Multiset.cons_add]
    exact .create a _
  | call ha hcreate hdispose => exact .call (Multiset.mem_add.mpr (.inl ha)) hcreate hdispose
  | dispose a =>
    rw [Multiset.cons_add]
    exact .dispose a _
  | permitted hc hcreate hdispose => exact .permitted hc hcreate hdispose

/-- Several calls. -/
abbrev Course (permits : HookCall → Prop) :
    Multiset Addressee → List HookCall → Multiset Addressee → Prop :=
  Chain (Step permits)

/-- What several calls do does not depend on which others are present. -/
theorem Course.frame (h : Course permits s l s') (t : Multiset Addressee) :
    Course permits (s + t) l (s' + t) := by
  induction h with
  | nil s => exact .nil _
  | cons hstep _ ih => exact .cons (hstep.frame t) ih

/-- The same with more calls permitted. -/
theorem Course.mono {permits' : HookCall → Prop} (hpermits : ∀ c, permits c → permits' c)
    (h : Course permits s l s') : Course permits' s l s' := by
  refine Chain.mono (fun hstep => ?_) h
  cases hstep with
  | create a => exact .create a _
  | call ha hcreate hdispose => exact .call ha hcreate hdispose
  | dispose a => exact .dispose a _
  | permitted hc hcreate hdispose => exact .permitted (hpermits _ hc) hcreate hdispose

/-- Creations and disposals balance: the entry points that were created by some calls are those that
were disposed of by them and those that are present. -/
def Balanced (past : List HookCall) (s : Multiset Addressee) : Prop :=
  (↑(addressees .create past) : Multiset Addressee) = ↑(addressees .dispose past) + s

/-- Where creations and disposals balance, an entry point has gone if it is not present. -/
theorem Balanced.isGone_iff (h : Balanced past s) (a : Addressee) : IsGone past a ↔ a ∉ s := by
  have hcount := congrArg (Multiset.count a) h
  rw [Multiset.count_add, Multiset.coe_count, Multiset.coe_count] at hcount
  rw [← Multiset.count_eq_zero]
  unfold IsGone
  omega

/-- A call keeps creations and disposals in balance. -/
theorem Balanced.step (h : Balanced past s) (hstep : Step permits s l s') :
    Balanced (past ++ l) s' := by
  -- A call that neither creates nor disposes of an entry point is on neither side.
  have hother {c : HookCall} (hcreate : c.hook ≠ .create) (hdispose : c.hook ≠ .dispose) :
      Balanced (past ++ [c]) s := by
    unfold Balanced
    rw [addressees_append, addressees_append, addressees_eq_nil (l := [c]),
      addressees_eq_nil (l := [c]), List.append_nil, List.append_nil]
    · exact h
    · exact fun c' hc' => List.mem_singleton.mp hc' ▸ hdispose
    · exact fun c' hc' => List.mem_singleton.mp hc' ▸ hcreate
  unfold Balanced at h hother ⊢
  cases hstep with
  | create a =>
    have hcreated : addressees .create [a.call .create] = [a] := rfl
    have hdisposed : addressees .dispose [a.call .create] = [] := rfl
    rw [addressees_append, addressees_append, hcreated, hdisposed, List.append_nil,
      ← Multiset.coe_add, h, Multiset.coe_singleton, Multiset.add_cons, Multiset.add_comm,
      Multiset.singleton_add]
  | call ha hcreate hdispose => exact hother hcreate hdispose
  | dispose a =>
    have hcreated : addressees .create [a.call .dispose] = [] := rfl
    have hdisposed : addressees .dispose [a.call .dispose] = [a] := rfl
    rw [addressees_append, addressees_append, hcreated, hdisposed, List.append_nil, h,
      ← Multiset.coe_add, Multiset.coe_singleton, Multiset.add_assoc, Multiset.singleton_add]
  | permitted hc hcreate hdispose => exact hother hcreate hdispose

/-- By induction on the calls. -/
theorem Balanced.course (h : Balanced past s) (hcourse : Course permits s l s') :
    Balanced (past ++ l) s' := by
  induction hcourse generalizing past with
  | nil => exact (List.append_nil past).symm ▸ h
  | cons hstep _ ih =>
    rw [← List.append_assoc]
    exact ih (h.step hstep)

/-- Who is called has not gone, unless it is created by that or the call is permitted. -/
theorem Balanced.create_or_permitted (h : Balanced past s) (hcourse : Course permits s l s')
    {before after : List HookCall} {c : HookCall} (hl : l = before ++ c :: after)
    (hgone : IsGone (past ++ before) c.addressee) :
    c.hook = .create ∨ permits c := by
  -- The call in question is either that of the first step or one of the rest, and the balance is
  -- carried on to there.
  induction hcourse generalizing past before with
  | nil => simp at hl
  | @cons s s' s'' first rest hstep _ ih =>
    have hone : ∃ c', first = [c'] ∧ (c'.addressee ∈ s ∨ c'.hook = .create ∨ permits c') := by
      cases hstep with
      | create a => exact ⟨_, rfl, .inr (.inl rfl)⟩
      | call ha => exact ⟨_, rfl, .inl ha⟩
      | dispose a => exact ⟨_, rfl, .inl (Multiset.mem_cons_self a _)⟩
      | permitted hc => exact ⟨_, rfl, .inr (.inr hc)⟩
    obtain ⟨c', rfl, hc'⟩ := hone
    cases before with
    | nil =>
      obtain ⟨rfl, -⟩ := List.cons.inj hl
      rw [List.append_nil, h.isGone_iff] at hgone
      exact hc'.resolve_left hgone
    | cons b before =>
      obtain ⟨rfl, hrest⟩ := List.cons.inj hl
      refine ih (h.step hstep) hrest ?_
      rw [List.append_assoc]
      exact hgone

/-! ## The hosts of a context -/

/-- The entry points of hosts that have not been disposed of. -/
def ofHosts (hosts : List Host) : Multiset Addressee :=
  ↑((hosts.filter (·.state ≠ .disposed)).map (·.addressee))

/-- The entry points that are present among some hosts and others. -/
theorem ofHosts_append (hosts more : List Host) :
    ofHosts (hosts ++ more) = ofHosts hosts + ofHosts more := by
  unfold ofHosts
  rw [List.filter_append, List.map_append, Multiset.coe_add]

/-- The entry points that are present among a host and others. -/
theorem ofHosts_cons (h : Host) (rest : List Host) :
    ofHosts (h :: rest) = ofHosts [h] + ofHosts rest :=
  ofHosts_append [h] rest

/-- A host whose entry point is present. -/
theorem ofHosts_singleton {h : Host} (hstate : h.state ≠ .disposed) :
    ofHosts [h] = {h.addressee} := by
  unfold ofHosts
  rw [List.filter_cons_of_pos (by simpa using hstate)]
  rfl

/-- A host whose entry point has left. -/
theorem ofHosts_disposed {h : Host} (hstate : h.state = .disposed) : ofHosts [h] = 0 := by
  unfold ofHosts
  rw [List.filter_cons_of_neg (by simpa using hstate)]
  rfl

/-- On its way from start to end an entry point is called as long as it is present. -/
theorem course_move {h : Host} {x : Journaled Activity Host} (hx : h.Moves x) :
    Course permits (ofHosts [h]) (calls x.journal) (ofHosts [x.value]) := by
  have hstep := hx.step
  have hvalue := hx.value
  have haddressee := hx.addressee
  rw [hx.calls]
  generalize lifecycleHooks x.journal = hooks at hstep ⊢
  generalize hbefore : h.state = s at hstep
  generalize hafter : x.value.state = s' at hstep hvalue
  -- Unless it is disposed of, the entry point is present before and after its call.
  have hcall {hook : Hook} (hs : s ≠ .disposed) (hs' : s' ≠ .disposed) (hcreate : hook ≠ .create)
      (hdispose : hook ≠ .dispose) :
      Course permits (ofHosts [h]) ([hook].map h.addressee.call) (ofHosts [x.value]) := by
    rw [ofHosts_singleton (hbefore ▸ hs), ofHosts_singleton (hafter ▸ hs'), haddressee]
    exact .single (.call (Multiset.mem_singleton_self _) hcreate hdispose)
  cases hstep with
  | skip =>
    have hsame : x.value = h := by
      rw [hvalue, ← hbefore]
    rw [hsame]
    exact .nil _
  | @enter level stage hook hstage hhook =>
    obtain ⟨hup, hup'⟩ := EntryPoint.isUp_stage hstage
    obtain ⟨hnormal, hreloaded⟩ := Host.not_mem_of_stage hstage
    have hnot : hook ∉ [Hook.create, .shutdown, .dispose] := by
      rcases hhook with rfl | ⟨-, rfl⟩
      · exact hnormal
      · exact hreloaded
    refine hcall (fun heq => ?_) (fun heq => ?_) (fun heq => ?_) (fun heq => ?_)
    · rw [heq] at hup
      cases hup
    · rw [heq] at hup'
      cases hup'
    · exact hnot (by simp [heq])
    · exact hnot (by simp [heq])
  | update level frame => exact hcall (by decide) (by decide) Hook.noConfusion Hook.noConfusion
  | shutdown hup =>
    refine hcall (fun heq => ?_) (by decide) Hook.noConfusion Hook.noConfusion
    rw [heq] at hup
    cases hup
  | dispose =>
    rw [ofHosts_singleton (by rw [hbefore]; decide), ofHosts_disposed hafter]
    exact .single (.dispose _ 0)

/-- Entry points that go on their way one after the other make a course of calls. -/
theorem course_moves {f : Host → Journaled Activity Host} (hf : ∀ h : Host, h.Moves (f h))
    (hosts : List Host) :
    Course permits (ofHosts hosts) (hosts.flatMap fun h => calls (f h).journal)
      (ofHosts (hosts.map fun h => (f h).value)) := by
  induction hosts with
  | nil => exact .nil _
  | cons h rest ih =>
    rw [List.flatMap_cons, List.map_cons, ofHosts_cons h, ofHosts_cons (f h).value]
    refine (Course.frame (course_move (hf h)) (ofHosts rest)).trans ?_
    rw [Multiset.add_comm, Multiset.add_comm (ofHosts [(f h).value])]
    exact ih.frame _

/-- New entry points that are created one after the other make a course of calls. -/
theorem course_creationCalls (dependencies : Dependencies) (callbacks : List Service)
    (new : List Addressee) (s : Multiset Addressee) :
    Course permits s (new.flatMap (·.creationCalls dependencies callbacks)) (s + new) := by
  induction new generalizing s with
  | nil =>
    rw [Multiset.coe_nil, Multiset.add_zero]
    exact .nil s
  | cons a rest ih =>
    have hmem : a ∈ a ::ₘ s := Multiset.mem_cons_self a s
    rw [List.flatMap_cons, ← Multiset.cons_coe, Multiset.add_cons, ← Multiset.cons_add]
    refine Chain.trans ?_ (ih (a ::ₘ s))
    exact .cons (Step.create a s) (.cons (Step.call hmem Hook.noConfusion Hook.noConfusion)
      (.single (Step.call hmem Hook.noConfusion Hook.noConfusion)))

/-- Calls by which nobody is created or disposed of leave present who is. -/
theorem course_calls {l : List HookCall}
    (h : ∀ c ∈ l, c.hook ≠ .create ∧ c.hook ≠ .dispose ∧ (c.addressee ∈ s ∨ permits c)) :
    Course permits s l s := by
  induction l with
  | nil => exact .nil s
  | cons c rest ih =>
    obtain ⟨hcreate, hdispose, hc⟩ := h c List.mem_cons_self
    have hrest := ih fun c' hc' => h c' (List.mem_cons_of_mem _ hc')
    rcases hc with hc | hc
    · exact .cons (Step.call hc hcreate hdispose) hrest
    · exact .cons (.permitted hc hcreate hdispose) hrest

/-- A host whose entry point has not been disposed of is present. -/
theorem mem_ofHosts {hosts : List Host} {h : Host} (hh : h ∈ hosts) (hstate : h.state ≠ .disposed) :
    h.addressee ∈ ofHosts hosts :=
  Multiset.mem_coe.mpr (List.mem_map_of_mem (List.mem_filter.mpr ⟨hh, by simpa using hstate⟩))

end Presence

namespace Context

open Presence (ofHosts Course)

variable {c : Context} {r : Request} {permits : HookCall → Prop} {next : List HookCall}
  {hosts : List Host}

/-- A request calls entry points that are present, and besides those that its notice may reach. -/
theorem Acts.course (h : c.Acts r next hosts) :
    Course (IsLateNotice (c.notice? r) c.hosts) (ofHosts c.hosts) next (ofHosts hosts) := by
  have htearDown : Course (IsLateNotice (c.notice? r) c.hosts) (ofHosts c.hosts)
      (calls c.tearDown.journal) (ofHosts c.tearDown.value.hosts) := by
    obtain ⟨f, g, hf, hg, hhosts, hcalls⟩ := c.tearDown_passes
    rw [hhosts, hcalls]
    exact (Presence.course_moves hf _).trans (Presence.course_moves hg _)
  cases h with
  | rest => exact .nil _
  | @create new hnew =>
    have hpresent : ofHosts new = ↑(new.map (·.addressee)) := by
      unfold ofHosts
      rw [List.filter_eq_self.mpr fun h hh => by simp [hnew h hh]]
    rw [Presence.ofHosts_append, hpresent]
    exact Presence.course_creationCalls ..
  | goOn hmoves _ => exact Presence.course_moves hmoves _
  | @notify hook hnotice =>
    refine Presence.course_calls fun call hcall => ?_
    obtain ⟨h, hh, rfl⟩ := List.mem_map.mp hcall
    obtain ⟨hin, hlistener⟩ := List.mem_filter.mp hh
    have hkind := notice?_eq_some hnotice
    refine ⟨?_, ?_, ?_⟩
    · rcases hkind with rfl | rfl <;> exact Hook.noConfusion
    · rcases hkind with rfl | rfl <;> exact Hook.noConfusion
    · by_cases hstate : h.state = .disposed
      · exact .inr ⟨hnotice, h, hin, hstate, hlistener, rfl⟩
      · exact .inl (Presence.mem_ofHosts hin hstate)
  | tearDown _ => exact htearDown
  | unload _ =>
    -- When all have been torn down nobody is present any more.
    have hnobody : ofHosts c.tearDown.value.hosts = ofHosts [] := by
      unfold ofHosts
      rw [c.tearDown_eq.1, List.filter_eq_nil_iff.mpr]
      · rfl
      · intro h hh
        obtain ⟨_, -, rfl⟩ := List.mem_map.mp hh
        simp
    rw [← hnobody]
    exact htearDown

/-- By induction on the requests. Creations and disposals balance along them. -/
theorem balanced_run {past : List HookCall} (h : Presence.Balanced past (ofHosts c.hosts))
    (requests : List Request) :
    Presence.Balanced (past ++ calls (c.run requests).journal)
      (ofHosts (c.run requests).value.hosts) := by
  induction requests generalizing c past with
  | nil =>
    rw [run_nil, Journaled.journal_pure, calls_nil, List.append_nil]
    exact h
  | cons r rest ih =>
    rw [run_cons, Journaled.journal_bind, calls_append, ← List.append_assoc]
    exact ih (h.course (c.acts_perform r).course)

/-- By every request to a context, after every run, entry points that have been disposed of hear
nothing but notices. -/
theorem hearsOnlyNotices_perform (id : UInt32) (name : String) (supportsReload : Bool)
    (linkers : LinkerSequence) (requests : List Request) (r : Request) :
    let ran := (new id name supportsReload linkers).run requests
    HearsOnlyNotices ran.value.hosts (ran.value.notice? r) (calls ran.journal)
      (calls (ran.value.perform r).journal) := by
  intro ran
  have hnobody : Presence.Balanced [] (ofHosts (new id name supportsReload linkers).hosts) := rfl
  have hbalanced : Presence.Balanced (calls ran.journal) (ofHosts ran.value.hosts) :=
    balanced_run hnobody requests
  refine ⟨fun _ _ _ => hbalanced.create_or_permitted (ran.value.acts_perform r).course, ?_⟩
  intro hook hnotice h hh hlistener
  rw [(perform_of_notice hnotice).2]
  exact List.mem_map.mpr ⟨h, List.mem_filter.mpr ⟨hh, hlistener⟩, rfl⟩

end Context

end ModuleRuntime.Module
