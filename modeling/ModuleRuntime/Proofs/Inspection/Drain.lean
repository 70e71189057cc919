import Mathlib.Data.Finset.Card
import ModuleRuntime.Proofs.Reload.Clock

/-!
# When a gauge is ready

Inspections are opened and closed, and somebody who has to wait for those that are open arms the
gauge and asks for it. Two flags and a counter stand for a condition on all that was done: the gauge
is ready exactly if the one who armed it last had to wait, no inspection was open at some moment
since, and nobody was told so yet.
-/

set_option autoImplicit false

namespace ModuleRuntime.Module.Gauge

/-! ## Calls -/

/-- What can be done with a gauge. Inspections are numbered as they are opened. -/
inductive Call where
  | acquire
  | drop (inspection : Nat)
  | arm
  | takeReady
  deriving DecidableEq

/-- A gauge, how many inspections were opened, and which of them are open. -/
structure Use where
  gauge : Gauge
  opened : Nat
  live : Finset Nat

/-- The gauge and the inspections after a call. Only an open inspection can be closed. -/
def Use.step (u : Use) : Call → Use
  | .acquire => ⟨u.gauge.acquire, u.opened + 1, insert u.opened u.live⟩
  | .drop inspection =>
    if inspection ∈ u.live then
      { u with gauge := u.gauge.release.value, live := u.live.erase inspection }
    else u
  | .arm => { u with gauge := u.gauge.arm.2 }
  | .takeReady => { u with gauge := u.gauge.takeReady.2 }

/-- A new gauge after calls. -/
def after (calls : List Call) : Use :=
  calls.foldl Use.step ⟨idle, 0, ∅⟩

/-! ## Histories -/

/-- The calls before the gauge was armed for the last time, and the calls since. -/
structure ArmedLast (calls before since : List Call) : Prop where
  eq : calls = before ++ .arm :: since
  last : Call.arm ∉ since

/-- Who arms the gauge after some calls has to wait. -/
def Waits (before : List Call) : Prop :=
  (after before).gauge.arm.1 = false

/-- Who asks after some calls whether the gauge is ready is told that it is. -/
def Confirms (calls : List Call) : Prop :=
  (after calls).gauge.takeReady.1 = true

/-- At some moment since the gauge was armed no inspection was open. -/
def Drained (before since : List Call) : Prop :=
  ∃ calls, calls <+: since ∧ (after (before ++ .arm :: calls)).live = ∅

/-- Since the gauge was armed somebody was told that it is ready. -/
def Confirmed (before since : List Call) : Prop :=
  ∃ calls, calls ++ [.takeReady] <+: since ∧ Confirms (before ++ .arm :: calls)

/-- The count and the answers of a gauge are those that the history demands. -/
structure Tracks (calls : List Call) : Prop where
  openCount : (after calls).gauge.openCount = (after calls).live.card
  arm : (after calls).gauge.arm.1 = true ↔ (after calls).live = ∅
  isWaiting : (after calls).gauge.isWaiting = true ↔
    ∃ before since, ArmedLast calls before since ∧ Waits before ∧ ¬Drained before since
  confirms : Confirms calls ↔ ∃ before since, ArmedLast calls before since ∧ Waits before ∧
    Drained before since ∧ ¬Confirmed before since
  once : ∀ before since, ArmedLast calls before since → ∀ first second,
    first ++ [.takeReady] <+: since → second ++ [.takeReady] <+: since →
    Confirms (before ++ .arm :: first) → Confirms (before ++ .arm :: second) → first = second

/-! ## One call -/

/-- What every call keeps: the open inspections are counted, their numbers are not given again, and
who waits does so for one of them. -/
structure Use.Sound (u : Use) : Prop where
  openCount : u.gauge.openCount = u.live.card
  lt_opened : ∀ inspection ∈ u.live, inspection < u.opened
  ne_empty : u.gauge.isWaiting = true → u.live ≠ ∅

/-- The gauge after one more call. -/
theorem after_concat (calls : List Call) (c : Call) :
    after (calls ++ [c]) = (after calls).step c :=
  List.foldl_append ..

namespace Use.Sound

variable {u : Use} {c : Call}

/-- When an open inspection is closed, nobody waits any more if it was the last one, and the gauge
is ready if somebody has waited. -/
theorem release_eq (h : u.Sound) {inspection : Nat} (hlive : inspection ∈ u.live) :
    u.gauge.release.value = ⟨(u.live.erase inspection).card,
      u.gauge.isWaiting && decide (u.live.erase inspection ≠ ∅),
      u.gauge.isReady || u.gauge.isWaiting && decide (u.live.erase inspection = ∅)⟩ := by
  have hcount : u.gauge.openCount = (u.live.erase inspection).card + 1 := by
    rw [h.openCount, Finset.card_erase_add_one hlive]
  have hlast : u.gauge.openCount = 1 ↔ u.live.erase inspection = ∅ := by
    rw [hcount, ← Finset.card_eq_zero]
    omega
  rw [Clock.value_release]
  by_cases hwaiting : u.gauge.isWaiting = true
  · by_cases hempty : u.live.erase inspection = ∅
    · simp [hwaiting, hlast, hempty]
    · simp [hwaiting, hempty, hcount]
  · simp [hwaiting, hcount]

/-- Unless the gauge is armed again, who waits goes on waiting while an inspection is open. -/
theorem isWaiting_step (h : u.Sound) (hc : c ≠ .arm) :
    (u.step c).gauge.isWaiting = true ↔
      u.gauge.isWaiting = true ∧ (u.step c).live ≠ ∅ := by
  cases c with
  | acquire => simp [Use.step, acquire]
  | drop inspection =>
    by_cases hlive : inspection ∈ u.live
    · simp [Use.step, hlive, h.release_eq hlive]
    · simpa [Use.step, hlive] using h.ne_empty
  | arm => exact absurd rfl hc
  | takeReady => simpa [Use.step, takeReady] using h.ne_empty

/-- Unless the gauge is armed again, it is ready if it was so before and nobody asked, or if
somebody has waited and no inspection is open now. -/
theorem isReady_step (h : u.Sound) (hc : c ≠ .arm) :
    (u.step c).gauge.isReady = true ↔
      (u.gauge.isReady = true ∧ c ≠ .takeReady) ∨
        (u.gauge.isWaiting = true ∧ (u.step c).live = ∅) := by
  have hwaits : ¬(u.gauge.isWaiting = true ∧ u.live = ∅) := fun hw => h.ne_empty hw.1 hw.2
  cases c with
  | acquire => simp [Use.step, acquire]
  | drop inspection =>
    by_cases hlive : inspection ∈ u.live
    · simp [Use.step, hlive, h.release_eq hlive]
    · simp [Use.step, hlive, hwaits]
  | arm => exact absurd rfl hc
  | takeReady => simp [Use.step, takeReady, hwaits]

/-- Arming a gauge tells at once whether an inspection is open, and waits for the open ones. -/
theorem arm_eq (h : u.Sound) :
    u.gauge.arm = (decide (u.live = ∅), ⟨u.live.card, decide (u.live ≠ ∅), false⟩) := by
  unfold arm
  by_cases hempty : u.live = ∅
  · simp [h.openCount, hempty]
  · simp [h.openCount, hempty]

/-- Every call keeps the gauge sound. -/
theorem step (h : u.Sound) (c : Call) : (u.step c).Sound := by
  cases c with
  | acquire =>
    have hnew : u.opened ∉ u.live := fun hmem => Nat.lt_irrefl _ (h.lt_opened _ hmem)
    refine ⟨?_, fun inspection hmem => ?_, fun _ => Finset.insert_ne_empty _ _⟩
    · show u.gauge.openCount + 1 = (insert u.opened u.live).card
      rw [Finset.card_insert_of_notMem hnew, h.openCount]
    · rcases Finset.mem_insert.mp hmem with rfl | hmem
      · exact Nat.lt_succ_self _
      · exact Nat.lt_succ_of_lt (h.lt_opened inspection hmem)
  | drop inspection =>
    refine ⟨?_, fun other hmem => ?_, fun hw => ((h.isWaiting_step (by simp)).mp hw).2⟩
    · by_cases hlive : inspection ∈ u.live
      · simp [Use.step, hlive, h.release_eq hlive]
      · simp [Use.step, hlive, h.openCount]
    · by_cases hlive : inspection ∈ u.live
      · simp only [Use.step, hlive, if_true] at hmem ⊢
        exact h.lt_opened other (Finset.mem_of_mem_erase hmem)
      · simp only [Use.step, hlive, if_false] at hmem ⊢
        exact h.lt_opened other hmem
  | arm =>
    refine ⟨?_, h.lt_opened, fun hw => ?_⟩
    · simp [Use.step, h.arm_eq]
    · simpa [Use.step, h.arm_eq] using hw
  | takeReady => exact ⟨h.openCount, h.lt_opened, h.ne_empty⟩

end Use.Sound

/-- By induction on the calls. -/
theorem sound_after (calls : List Call) : (after calls).Sound := by
  induction calls using List.reverseRecOn with
  | nil => exact ⟨rfl, fun _ h => absurd h (Finset.notMem_empty _), fun h => nomatch h⟩
  | append_singleton calls c ih =>
    rw [after_concat]
    exact ih.step c

/-- Nobody waits, and the gauge is not ready. -/
def Use.IsIdle (u : Use) : Prop :=
  u.gauge.isWaiting = false ∧ u.gauge.isReady = false

/-- Only arming the gauge makes somebody wait. -/
theorem Use.Sound.isIdle_step {u : Use} {c : Call} (h : u.Sound) (hc : c ≠ .arm)
    (hidle : u.IsIdle) : (u.step c).IsIdle := by
  obtain ⟨hwaiting, hready⟩ := hidle
  constructor
  · rw [← Bool.not_eq_true, h.isWaiting_step hc, hwaiting]
    simp
  · rw [← Bool.not_eq_true, h.isReady_step hc, hwaiting, hready]
    simp

/-- Until the gauge is armed it stays idle. -/
theorem isIdle_append {calls since : List Call} (hidle : (after calls).IsIdle)
    (hlast : Call.arm ∉ since) : (after (calls ++ since)).IsIdle := by
  induction since using List.reverseRecOn with
  | nil => rwa [List.append_nil]
  | append_singleton since c ih =>
    rw [List.mem_append, List.mem_singleton, not_or] at hlast
    rw [← List.append_assoc, after_concat]
    exact (sound_after _).isIdle_step (Ne.symm hlast.2) (ih hlast.1)

/-! ## Calls since the gauge was armed -/

variable {calls before since : List Call} {c : Call}

/-- A gauge that has just been armed waits iff an inspection is open. -/
theorem gauge_after_arm (before : List Call) :
    (after (before ++ [.arm])).gauge =
      ⟨(after before).live.card, decide ((after before).live ≠ ∅), false⟩ := by
  rw [after_concat]
  exact congrArg Prod.snd (sound_after before).arm_eq

/-- Whoever arms the gauge waits iff an inspection is open. -/
theorem waits_iff : Waits before ↔ (after before).live ≠ ∅ := by
  unfold Waits
  rw [(sound_after before).arm_eq]
  simp

/-- What one more call adds to the moments without an open inspection. -/
theorem drained_concat : Drained before (since ++ [c]) ↔
    Drained before since ∨ (after (before ++ .arm :: (since ++ [c]))).live = ∅ := by
  unfold Drained
  simp only [List.prefix_concat_iff, or_and_right, exists_or, exists_eq_left]
  exact or_comm

/-- What one more call adds to the answers that the gauge is ready. -/
theorem confirmed_concat : Confirmed before (since ++ [c]) ↔
    Confirmed before since ∨ c = .takeReady ∧ Confirms (before ++ .arm :: since) := by
  constructor
  · rintro ⟨calls, hprefix, hconfirms⟩
    rcases List.prefix_concat_iff.mp hprefix with heq | hprefix
    · obtain ⟨rfl, hc⟩ := List.append_inj' heq rfl
      exact .inr ⟨(List.singleton_inj.mp hc).symm, hconfirms⟩
    · exact .inl ⟨calls, hprefix, hconfirms⟩
  · rintro (⟨calls, hprefix, hconfirms⟩ | ⟨rfl, hconfirms⟩)
    · exact ⟨calls, hprefix.trans (List.prefix_append _ _), hconfirms⟩
    · exact ⟨since, List.prefix_rfl, hconfirms⟩

/-- What the two flags stand for while the gauge is not armed again. -/
structure Awaits (before since : List Call) : Prop where
  isWaiting : (after (before ++ .arm :: since)).gauge.isWaiting = true ↔ ¬Drained before since
  isReady : (after (before ++ .arm :: since)).gauge.isReady = true ↔
    Drained before since ∧ ¬Confirmed before since
  drained : Confirmed before since → Drained before since

namespace Awaits

/-- Who has to wait finds an inspection open, and has not been told anything yet. -/
theorem start (h : Waits before) : Awaits before [] := by
  have hlive := waits_iff.mp h
  have hgauge := gauge_after_arm before
  have hdrained : ¬Drained before [] := by
    rintro ⟨calls, hprefix, hempty⟩
    rw [List.prefix_nil.mp hprefix, after_concat] at hempty
    exact hlive hempty
  have hconfirmed : ¬Confirmed before [] := by
    rintro ⟨calls, hprefix, -⟩
    simp at hprefix
  refine ⟨?_, ?_, fun hc => absurd hc hconfirmed⟩
  · rw [hgauge]
    simp [hlive, hdrained]
  · rw [hgauge]
    simp [hdrained]

/-- The flags stand for the same after one more call, unless it arms the gauge again. -/
theorem step (h : Awaits before since) (hc : c ≠ .arm) : Awaits before (since ++ [c]) := by
  have hafter : after (before ++ .arm :: (since ++ [c])) =
      (after (before ++ .arm :: since)).step c := by
    rw [← after_concat, List.append_assoc, List.cons_append]
  have hsound := sound_after (before ++ .arm :: since)
  have hdrained : Drained before (since ++ [c]) ↔
      Drained before since ∨ ((after (before ++ .arm :: since)).step c).live = ∅ := by
    rw [drained_concat, hafter]
  have hconfirms : Confirms (before ++ .arm :: since) ↔
      Drained before since ∧ ¬Confirmed before since := h.isReady
  refine ⟨?_, ?_, ?_⟩
  · rw [hafter, hsound.isWaiting_step hc, h.isWaiting, hdrained, not_or]
  · rw [hafter, hsound.isReady_step hc, h.isWaiting, h.isReady, hdrained, confirmed_concat,
      hconfirms]
    -- Nobody is told that the gauge is ready before no inspection was open.
    have hbefore := h.drained
    tauto
  · rw [confirmed_concat, hdrained, hconfirms]
    rintro (hconfirmed | ⟨-, hd, -⟩)
    · exact .inl (h.drained hconfirmed)
    · exact .inl hd

end Awaits

/-- By induction on the calls since the gauge was armed. -/
theorem awaits (h : Waits before) (hlast : Call.arm ∉ since) : Awaits before since := by
  induction since using List.reverseRecOn with
  | nil => exact .start h
  | append_singleton since c ih =>
    rw [List.mem_append, List.mem_singleton, not_or] at hlast
    exact (ih hlast.1).step (Ne.symm hlast.2)

/-- If the one who arms the gauge need not wait, it is idle until it is armed again. -/
theorem isIdle_of_not_waits (h : ¬Waits before) (hlast : Call.arm ∉ since) :
    (after (before ++ .arm :: since)).IsIdle := by
  have hlive : (after before).live = ∅ := not_not.mp fun hne => h (waits_iff.mpr hne)
  have hidle : (after (before ++ [.arm])).IsIdle := by
    unfold Use.IsIdle
    rw [gauge_after_arm, hlive]
    exact ⟨rfl, rfl⟩
  have happend := isIdle_append hidle hlast
  rwa [List.append_assoc, List.singleton_append] at happend

/-! ## Whole histories -/

/-- Either the gauge was never armed, or there was a last time. -/
theorem arm_notMem_or_armedLast (calls : List Call) :
    Call.arm ∉ calls ∨ ∃ before since, ArmedLast calls before since := by
  induction calls using List.reverseRecOn with
  | nil => exact .inl List.not_mem_nil
  | append_singleton calls c ih =>
    by_cases hc : c = .arm
    · subst hc
      exact .inr ⟨calls, [], rfl, List.not_mem_nil⟩
    · rcases ih with hnever | ⟨before, since, rfl, hlast⟩
      · refine .inl fun hmem => ?_
        rcases List.mem_append.mp hmem with hmem | hmem
        · exact hnever hmem
        · exact hc (List.mem_singleton.mp hmem).symm
      · refine .inr ⟨before, since ++ [c], by simp, fun hmem => ?_⟩
        rcases List.mem_append.mp hmem with hmem | hmem
        · exact hlast hmem
        · exact hc (List.mem_singleton.mp hmem).symm

/-- A gauge on which somebody waits or that is ready was armed, and who armed it last had to
wait. -/
theorem exists_armedLast (h : ¬(after calls).IsIdle) :
    ∃ before since, ArmedLast calls before since ∧ Waits before := by
  have hnew : (after []).IsIdle := ⟨rfl, rfl⟩
  rcases arm_notMem_or_armedLast calls with hnever | ⟨before, since, rfl, hlast⟩
  · exact absurd (isIdle_append hnew hnever) h
  · refine ⟨before, since, ⟨rfl, hlast⟩, ?_⟩
    by_contra hwaits
    exact h (isIdle_of_not_waits hwaits hlast)

/-- What cannot be on an idle gauge is decided by the calls since it was armed for the last time, if
the one who did so had to wait. -/
theorem iff_exists_armedLast {P : Prop} {Q : List Call → List Call → Prop}
    (hidle : P → ¬(after calls).IsIdle)
    (h : ∀ before since, ArmedLast calls before since → Waits before → (P ↔ Q before since)) :
    P ↔ ∃ before since, ArmedLast calls before since ∧ Waits before ∧ Q before since := by
  constructor
  · intro hp
    obtain ⟨before, since, hlast, hwaits⟩ := exists_armedLast (hidle hp)
    exact ⟨before, since, hlast, hwaits, (h before since hlast hwaits).mp hp⟩
  · rintro ⟨before, since, hlast, hwaits, hq⟩
    exact (h before since hlast hwaits).mpr hq

/-- Since the gauge was armed it confirms only what it has not confirmed before. -/
theorem not_confirmed_of_confirms (hlast : Call.arm ∉ since)
    (h : Confirms (before ++ .arm :: since)) : ¬Confirmed before since := by
  by_cases hwaits : Waits before
  · exact ((awaits hwaits hlast).isReady.mp h).2
  · have hidle : (after (before ++ .arm :: since)).gauge.isReady = false :=
      (isIdle_of_not_waits hwaits hlast).2
    exact absurd h (by unfold Confirms takeReady; simp [hidle])

/-- Of two questions that are confirmed since the gauge was armed, neither came before the other. -/
theorem length_le_of_confirms {first second : List Call} (hlast : Call.arm ∉ since)
    (hfirst : first ++ [.takeReady] <+: since) (hsecond : second ++ [.takeReady] <+: since)
    (hconfirms : Confirms (before ++ .arm :: first))
    (hagain : Confirms (before ++ .arm :: second)) : second.length ≤ first.length := by
  by_contra hlt
  have hsub : second <+: since := (List.prefix_append _ _).trans hsecond
  have hlength : (first ++ [Call.takeReady]).length ≤ second.length := by
    rw [List.length_append, List.length_singleton]
    omega
  have hearlier : first ++ [.takeReady] <+: second :=
    List.prefix_of_prefix_length_le hfirst hsub hlength
  exact not_confirmed_of_confirms (fun hmem => hlast (hsub.subset hmem)) hagain
    ⟨first, hearlier, hconfirms⟩

/-- Since the gauge was armed no more than one question is confirmed. -/
theorem eq_of_confirms {first second : List Call} (hlast : Call.arm ∉ since)
    (hfirst : first ++ [.takeReady] <+: since) (hsecond : second ++ [.takeReady] <+: since)
    (hconfirms : Confirms (before ++ .arm :: first))
    (hagain : Confirms (before ++ .arm :: second)) : first = second := by
  have hle := length_le_of_confirms hlast hfirst hsecond hconfirms hagain
  have hge := length_le_of_confirms hlast hsecond hfirst hagain hconfirms
  have hprefix : first <+: second := List.prefix_of_prefix_length_le
    ((List.prefix_append _ _).trans hfirst) ((List.prefix_append _ _).trans hsecond) hge
  exact hprefix.eq_of_length (Nat.le_antisymm hge hle)

/-- After whatever calls, a gauge counts the open inspections. Somebody waits exactly if the one who
armed it last had to and an inspection was open ever since, and it is ready exactly if that one had
to wait, no inspection was open at some moment since, and this was not confirmed yet. -/
theorem tracks_after (calls : List Call) : Tracks calls := by
  have hsound := sound_after calls
  refine ⟨hsound.openCount, ?_, ?_, ?_, ?_⟩
  · rw [hsound.arm_eq, decide_eq_true_eq]
  · refine iff_exists_armedLast (fun hwaiting hidle => ?_) ?_
    · exact Bool.false_ne_true (hidle.1.symm.trans hwaiting)
    · rintro before since ⟨rfl, hlast⟩ hwaits
      exact (awaits hwaits hlast).isWaiting
  · refine iff_exists_armedLast (fun hready hidle => ?_) ?_
    · exact Bool.false_ne_true (hidle.2.symm.trans hready)
    · rintro before since ⟨rfl, hlast⟩ hwaits
      exact (awaits hwaits hlast).isReady
  · rintro before since ⟨-, hlast⟩ first second hfirst hsecond hconfirms hagain
    exact eq_of_confirms hlast hfirst hsecond hconfirms hagain

end ModuleRuntime.Module.Gauge
