import ModuleRuntime.Event.Table

/-!
# Tables and plain maps

A table shows a plain map: the slot of a topic there has, in the place of its latch, whether the
latch is set. The snapshot of a locked table equals its slots, and no two topics have one latch, so
that changing a latch changes the slot of one topic and its copy alike.
-/

set_option autoImplicit false

namespace ModuleRuntime.Event

variable {ω ρ κ μ : Type}

/-! ## Latches seen through a function -/

namespace Slot

/-- The slot with its latch seen through a function. -/
def mapLatch (f : κ → μ) (s : Slot ω ρ κ) : Slot ω ρ μ :=
  ⟨s.allowed, f s.latch, s.enabled, s.disabled⟩

/-- Whether somebody can be added does not depend on the latch. -/
theorem add?_mapLatch (f : κ → μ) (s : Slot ω ρ κ) (subscription : Subscription ω ρ) :
    (s.mapLatch f).add? subscription = (s.add? subscription).map (mapLatch f) := by
  have hholds : (s.mapLatch f).holds subscription.token = s.holds subscription.token := rfl
  unfold add?
  rw [hholds]
  split <;> rfl

/-- Whether somebody can be removed does not depend on the latch. -/
theorem remove?_mapLatch (f : κ → μ) (s : Slot ω ρ κ) (token : Token) :
    (s.mapLatch f).remove? token = (s.remove? token).map (mapLatch f) := by
  unfold remove? mapLatch
  dsimp only
  split
  · rfl
  · split <;> rfl

/-- Whether somebody can be enabled or disabled does not depend on the latch. -/
theorem setEnabled?_mapLatch (f : κ → μ) (s : Slot ω ρ κ) (token : Token) (isEnabled : Bool) :
    (s.mapLatch f).setEnabled? token isEnabled =
      (s.setEnabled? token isEnabled).map (mapLatch f) := by
  unfold setEnabled? mapLatch
  cases isEnabled with
  | true => cases move? token s.disabled s.enabled <;> rfl
  | false => cases move? token s.enabled s.disabled <;> rfl

/-- Two changes of slots that do the same but for the kind of the latch, which they leave alone. -/
structure Alike (f : Slot ω ρ κ → Option (Slot ω ρ κ)) (g : Slot ω ρ μ → Option (Slot ω ρ μ)) :
    Prop where
  same (isSet : κ → μ) (s : Slot ω ρ κ) : g (s.mapLatch isSet) = (f s).map (mapLatch isSet)
  latch {s s' : Slot ω ρ κ} (h : f s = some s') : s'.latch = s.latch

/-- Adding somebody leaves the latch alone. -/
theorem latch_add? {s s' : Slot ω ρ κ} {subscription : Subscription ω ρ}
    (h : s.add? subscription = some s') : s'.latch = s.latch := by
  unfold add? at h
  split at h
  · cases h
  · cases h
    rfl

/-- Removing somebody is the same for both kinds of latches. -/
theorem alike_remove? (token : Token) :
    Alike (fun s : Slot ω ρ κ => s.remove? token) (fun s : Slot ω ρ μ => s.remove? token) where
  same isSet s := remove?_mapLatch isSet s token
  latch {s s'} h := by
    unfold remove? at h
    split at h
    · cases h
      rfl
    · split at h
      · cases h
        rfl
      · cases h

/-- Enabling or disabling somebody is the same for both kinds of latches. -/
theorem alike_setEnabled? (token : Token) (isEnabled : Bool) :
    Alike (fun s : Slot ω ρ κ => s.setEnabled? token isEnabled)
      (fun s : Slot ω ρ μ => s.setEnabled? token isEnabled) where
  same isSet s := setEnabled?_mapLatch isSet s token isEnabled
  latch {s s'} h := by
    unfold setEnabled? at h
    cases isEnabled with
    | true =>
      obtain ⟨lists, -, rfl⟩ := Option.map_eq_some_iff.mp h
      rfl
    | false =>
      obtain ⟨lists, -, rfl⟩ := Option.map_eq_some_iff.mp h
      rfl

end Slot

/-! ## Latches of a table -/

namespace Table

variable (t : Table ω ρ)

/-- A latch that was there is set as before when another comes after it. -/
theorem isSet_append (slots : SlotMap ω ρ) (value : Bool) {latch : Latch}
    (h : latch.index < t.latches.length) :
    ({ t with slots := slots, latches := t.latches ++ [value] } : Table ω ρ).isSet latch =
      t.isSet latch := by
  unfold isSet
  rw [List.getD_eq_getElem?_getD, List.getD_eq_getElem?_getD, List.getElem?_append_left h]

/-- A latch has the value that it got. -/
theorem isSet_setLatch_self (latch : Latch) (value : Bool)
    (h : latch.index < t.latches.length) : (t.setLatch latch value).isSet latch = value := by
  unfold isSet setLatch
  rw [List.getD_eq_getElem?_getD, List.getElem?_set_self h]
  rfl

/-- Other latches keep their values. -/
theorem isSet_setLatch_of_ne {latch latch' : Latch} (value : Bool) (h : latch ≠ latch') :
    (t.setLatch latch value).isSet latch' = t.isSet latch' := by
  have hindex : latch.index ≠ latch'.index := by
    intro heq
    apply h
    cases latch
    cases latch'
    cases heq
    rfl
  unfold isSet setLatch
  rw [List.getD_eq_getElem?_getD, List.getD_eq_getElem?_getD, List.getElem?_set_ne hindex]

/-! ## The map that a table shows -/

/-- The slots of a plain map are those of the table, with the values of their latches. -/
structure Shows (slots : Dictionary Topic (Slot ω ρ Bool)) : Prop where
  snapshot : t.snapshot = if t.phase = .locked then some t.slots else none
  find (topic : Topic) : slots.find? topic = (t.slots.find? topic).map (·.mapLatch t.isSet)
  size : slots.size = t.slots.size
  inRange {topic : Topic} {slot : Slot ω ρ Latch} (h : t.slots.find? topic = some slot) :
    slot.latch.index < t.latches.length
  distinct {topic topic' : Topic} {slot slot' : Slot ω ρ Latch}
    (h : t.slots.find? topic = some slot) (h' : t.slots.find? topic' = some slot')
    (hlatch : slot.latch = slot'.latch) : topic = topic'

namespace Shows

variable {t} {slots : Dictionary Topic (Slot ω ρ Bool)}

/-- A new table shows no slots. -/
theorem empty : (Table.empty : Table ω ρ).Shows .empty where
  snapshot := rfl
  find _ := rfl
  size := rfl
  inRange h := by cases h
  distinct h := by cases h

/-- A cleared table shows no slots. -/
theorem clear (t : Table ω ρ) : t.clear.Shows (.empty : Dictionary Topic (Slot ω ρ Bool)) where
  snapshot := rfl
  find _ := rfl
  size := rfl
  inRange h := by cases h
  distinct h := by cases h

/-- Locking changes what look-ups read, but not what they find. -/
theorem lock (h : t.Shows slots) : t.lock.Shows slots :=
  ⟨rfl, h.find, h.size, h.inRange, h.distinct⟩

/-- Unlocking changes what look-ups read, but not what they find. -/
theorem unlock (h : t.Shows slots) : t.unlock.Shows slots :=
  ⟨rfl, h.find, h.size, h.inRange, h.distinct⟩

/-- Look-ups find the slots themselves, whether or not there is a snapshot. -/
theorem view (h : t.Shows slots) : t.view = t.slots := by
  unfold Table.view
  rw [h.snapshot]
  split <;> rfl

/-- Both look-ups find the same. -/
theorem slot? (h : t.Shows slots) (topic : Topic) :
    slots.find? topic = (t.slot? topic).map (·.mapLatch t.isSet) := by
  unfold Table.slot?
  rw [h.view]
  exact h.find topic

/-- Both have a slot for a topic or none has. -/
theorem contains (h : t.Shows slots) (topic : Topic) :
    slots.contains topic = t.slots.contains topic := by
  unfold Dictionary.contains SlotMap.contains
  rw [h.find, Option.isSome_map]

/-- The sizes stay equal when a slot is put in both. -/
theorem size_put (h : t.Shows slots) (topic : Topic) (slot : Slot ω ρ Bool)
    (slot' : Slot ω ρ Latch) : (slots.put topic slot).size = (t.slots.put topic slot').size := by
  rw [Dictionary.size_put, SlotMap.size_put, h.contains, h.size]

/-- A topic that is new gets a slot with a latch of its own. -/
theorem insert? (h : t.Shows slots) (hphase : t.phase = .unlocked) {topic : Topic}
    {allowed : Origin} {t' : Table ω ρ} (ht' : t.insert? topic allowed = some t') :
    slots.find? topic = none ∧ t'.phase = t.phase ∧
      t'.Shows (slots.put topic (.new allowed false)) := by
  unfold Table.insert? at ht'
  split at ht'
  · cases ht'
  · next hnew =>
    cases ht'
    have hnone : t.slots.find? topic = none := by
      simpa [SlotMap.contains] using hnew
    refine ⟨by rw [h.find, hnone]; rfl, rfl, ?_, ?_, h.size_put .., ?_, ?_⟩
    · rw [h.snapshot, hphase]
      rfl
    · intro topic'
      rw [Dictionary.find?_put, SlotMap.find?_put]
      by_cases heq : topic = topic'
      · rw [if_pos heq, if_pos heq]
        simp [Slot.mapLatch, Slot.new, Table.isSet]
      · rw [if_neg heq, if_neg heq, h.find]
        refine Option.map_congr fun slot hslot => ?_
        unfold Slot.mapLatch
        rw [t.isSet_append _ false (h.inRange hslot)]
    · intro topic' slot hslot
      rw [SlotMap.find?_put] at hslot
      rw [List.length_append]
      split at hslot
      · cases hslot
        exact Nat.lt_succ_self _
      · have hlt := h.inRange hslot
        omega
    · intro topic' topic'' slot slot' hslot hslot' hlatch
      -- The new latch lies behind all others.
      have hfresh {topic : Topic} {slot : Slot ω ρ Latch} (hslot : t.slots.find? topic = some slot)
          (hlatch : slot.latch.index = t.latches.length) : False := by
        have hlt := h.inRange hslot
        omega
      rw [SlotMap.find?_put] at hslot hslot'
      split at hslot
      · next heq =>
        split at hslot'
        · next heq' => exact heq.symm.trans heq'
        · cases hslot
          exact (hfresh hslot' (congrArg Latch.index hlatch).symm).elim
      · split at hslot'
        · cases hslot'
          exact (hfresh hslot (congrArg Latch.index hlatch)).elim
        · exact h.distinct hslot hslot' hlatch

/-- A topic that is not new has a slot in the plain map. -/
theorem insert?_eq_none (h : t.Shows slots) {topic : Topic} {allowed : Origin}
    (hnone : t.insert? topic allowed = none) : ∃ slot, slots.find? topic = some slot := by
  unfold Table.insert? at hnone
  split at hnone
  · next hold =>
    rw [← h.contains] at hold
    exact Option.isSome_iff_exists.mp hold
  · cases hnone

/-- A slot is replaced in both by one with the same latch. -/
theorem replace (h : t.Shows slots) (hphase : t.phase = .unlocked) {topic : Topic}
    {slot slot' : Slot ω ρ Latch} (hslot : t.slots.find? topic = some slot)
    (hlatch : slot'.latch = slot.latch) :
    (t.replace topic slot').Shows (slots.put topic (slot'.mapLatch t.isSet)) := by
  -- Every slot after the change has the latch of a slot that the topic had before.
  have hfind {topic' : Topic} {s' : Slot ω ρ Latch}
      (hs' : (t.slots.put topic slot').find? topic' = some s') :
      ∃ s, t.slots.find? topic' = some s ∧ s'.latch = s.latch := by
    rw [SlotMap.find?_put] at hs'
    split at hs'
    · next heq =>
      cases hs'
      exact ⟨slot, heq ▸ hslot, hlatch⟩
    · exact ⟨s', hs', rfl⟩
  refine ⟨?_, ?_, h.size_put .., ?_, ?_⟩
  · unfold Table.replace
    rw [h.snapshot, hphase]
    rfl
  · intro topic'
    unfold Table.replace
    rw [Dictionary.find?_put, SlotMap.find?_put]
    split
    · rfl
    · exact h.find topic'
  · intro topic' s' hs'
    obtain ⟨s, hs, heq⟩ := hfind hs'
    rw [heq]
    exact h.inRange hs
  · intro topic' topic'' s' s'' hs' hs'' heq
    obtain ⟨s, hs, hlatch'⟩ := hfind hs'
    obtain ⟨s₂, hs₂, hlatch''⟩ := hfind hs''
    exact h.distinct hs hs₂ (by rw [← hlatch', ← hlatch'', heq])

section Change

variable {f : Slot ω ρ Latch → Option (Slot ω ρ Latch)} {g : Slot ω ρ Bool → Option (Slot ω ρ Bool)}

/-- What a change leaves of the slot of a topic. -/
theorem bind_find? (h : t.Shows slots) (hfg : Slot.Alike f g) (topic : Topic) :
    (slots.find? topic).bind g =
      ((t.slots.find? topic).bind f).map (·.mapLatch t.isSet) := by
  rw [h.find]
  cases t.slots.find? topic with
  | none => rfl
  | some slot => exact hfg.same t.isSet slot

/-- What changes the table changes the map. -/
theorem change? (h : t.Shows slots) (hphase : t.phase = .unlocked) (hfg : Slot.Alike f g)
    {topic : Topic} {t' : Table ω ρ} (ht' : t.change? topic f = some t') :
    ∃ slot, (slots.find? topic).bind g = some slot ∧ t'.phase = t.phase ∧
      t'.Shows (slots.put topic slot) := by
  obtain ⟨slot', hslot', rfl⟩ := Option.map_eq_some_iff.mp ht'
  obtain ⟨slot, hslot, hf⟩ := Option.bind_eq_some_iff.mp hslot'
  refine ⟨slot'.mapLatch t.isSet, ?_, rfl, h.replace hphase hslot (hfg.latch hf)⟩
  rw [h.bind_find? hfg, hslot']
  rfl

/-- What the table refuses the map refuses. -/
theorem change?_eq_none (h : t.Shows slots) (hfg : Slot.Alike f g) {topic : Topic}
    (hnone : t.change? topic f = none) : (slots.find? topic).bind g = none := by
  rw [h.bind_find? hfg, Option.map_eq_none_iff.mp hnone]
  rfl

end Change

/-- Setting the latch of a topic changes the slot of that topic alone. -/
theorem setLatch (h : t.Shows slots) {topic : Topic} {slot : Slot ω ρ Latch}
    (hslot : t.slots.find? topic = some slot) (value : Bool) :
    (t.setLatch slot.latch value).Shows
      (slots.put topic ⟨slot.allowed, value, slot.enabled, slot.disabled⟩) where
  snapshot := h.snapshot
  find topic' := by
    rw [Dictionary.find?_put]
    by_cases heq : topic = topic'
    · subst heq
      have hself := t.isSet_setLatch_self slot.latch value (h.inRange hslot)
      have hkeep : (t.setLatch slot.latch value).slots = t.slots := rfl
      rw [if_pos rfl, hkeep, hslot, Option.map_some]
      unfold Slot.mapLatch
      rw [hself]
    · rw [if_neg heq, h.find]
      refine Option.map_congr fun slot' hslot' => ?_
      have hne : slot.latch ≠ slot'.latch := fun hlatch => heq (h.distinct hslot hslot' hlatch)
      unfold Slot.mapLatch
      rw [t.isSet_setLatch_of_ne value hne]
  size := by
    have hin : slots.contains topic = true := by
      rw [h.contains]
      unfold SlotMap.contains
      rw [hslot]
      rfl
    rw [Dictionary.size_put, if_pos hin]
    exact h.size
  inRange hslot' := by
    unfold Table.setLatch
    rw [List.length_set]
    exact h.inRange hslot'
  distinct := h.distinct

end Shows

end Table

end ModuleRuntime.Event
