import Mathlib.Data.List.Find
import Mathlib.Data.List.Nodup
import ModuleRuntime.Proofs.Event.Consistency
import ModuleRuntime.Proofs.Event.OneShot

/-!
# Subscribing to all chosen topics

A handler is subscribed to all topics that are chosen among those of the controllers, or to none.
The slots of all topics are read before the first of them changes. Once that has gone well no
subscription can fail: the topics differ, also where several controllers have one, and so what was
read of a slot still holds when its turn comes.
-/

set_option autoImplicit false

namespace ModuleRuntime.Event

variable {ω ρ κ : Type}

/-- Removing duplicates leaves none. -/
theorem nodup_eraseDups {α : Type} [BEq α] [LawfulBEq α] (l : List α) : l.eraseDups.Nodup := by
  match l with
  | [] => exact List.nodup_nil
  | a :: rest =>
    rw [List.eraseDups_cons, List.nodup_cons]
    refine ⟨?_, nodup_eraseDups (rest.filter fun b => !b == a)⟩
    intro ha
    have hne := (List.mem_filter.mp (List.mem_eraseDups.mp ha)).2
    simp at hne
termination_by l.length
decreasing_by exact Nat.lt_succ_of_le (List.length_filter_le _ _)

/-- The slot with one more enabled subscription. -/
def Slot.gain (s : Slot ω ρ κ) (subscription : Subscription ω ρ) : Slot ω ρ κ :=
  { s with enabled := s.enabled ++ [subscription] }

/-- The subscription of a handler to a slot, for the origins of the choice that it allows. -/
def Selection.subscription (s : Selection) (token : Token) (handler : Handler ω ρ)
    (slot : Slot ω ρ κ) : Subscription ω ρ :=
  ⟨s.origins.inter slot.allowed, token, handler⟩

/-! ## Tables without a snapshot -/

namespace Table

variable {t : Table ω ρ} {topic : Topic} {slot : Slot ω ρ Latch}

/-- Without a snapshot, look-ups read the slots. -/
theorem slot?_of_snapshot (h : t.snapshot = none) (topic : Topic) :
    t.slot? topic = t.slots.find? topic := by
  unfold slot? view
  rw [h]
  rfl

/-- Without a snapshot, look-ups find a slot that replaces another one. -/
theorem slot?_replace (h : t.snapshot = none) (topic topic' : Topic) (slot : Slot ω ρ Latch) :
    (t.replace topic slot).slot? topic' = if topic = topic' then some slot else t.slot? topic' := by
  have hreplaced : (t.replace topic slot).snapshot = none := h
  rw [slot?_of_snapshot hreplaced, slot?_of_snapshot h]
  exact SlotMap.find?_put ..

end Table

namespace Bus

variable {b b' : Bus ω ρ} {topic : Topic} {slot : Slot ω ρ Latch} {payload : String}
  {token : Token} {s : Selection} {handler : Handler ω ρ}

/-! ## The chosen topics -/

/-- What it means that a topic is chosen: a controller that joined has it, it has the type of
payload, the choice admits it, and it is registered for an origin of the choice. -/
structure Chooses (b : Bus ω ρ) (payload : String) (s : Selection) (topic : Topic) : Prop where
  payload : topic.payload = payload
  declared : ∃ d ∈ b.controllers, topic ∈ d.topics
  admitted : s.admits topic.id = true
  meets : ∃ slot, b.table.slot? topic = some slot ∧ s.origins.intersects slot.allowed = true

/-- What it means that a topic is declared and admitted. -/
theorem mem_declaredTopics_iff : topic ∈ b.declaredTopics payload s ↔
    topic.payload = payload ∧ (∃ d ∈ b.controllers, topic ∈ d.topics) ∧
      s.admits topic.id = true := by
  unfold declaredTopics Selection.topicsOf
  rw [List.mem_map]
  simp only [List.mem_eraseDups, List.mem_filter, List.mem_flatMap]
  constructor
  · rintro ⟨id, ⟨⟨d, hd, hid⟩, hadmits⟩, rfl⟩
    exact ⟨rfl, ⟨d, hd, mem_idsOf hid⟩, hadmits⟩
  · rintro ⟨rfl, ⟨d, hd, htopic⟩, hadmits⟩
    refine ⟨topic.id, ⟨⟨d, hd, ?_⟩, hadmits⟩, rfl⟩
    unfold Declared.idsOf
    exact List.mem_map_of_mem (List.mem_filter.mpr ⟨htopic, by simp⟩)

/-- A topic that several controllers have is there once. -/
theorem nodup_declaredTopics (b : Bus ω ρ) (payload : String) (s : Selection) :
    (b.declaredTopics payload s).Nodup := by
  refine (nodup_eraseDups _).map ?_
  intro id id' h
  exact congrArg Topic.id h

/-- What it means that a slot is selected. -/
theorem mem_selectedSlots_iff : (topic, slot) ∈ b.selectedSlots payload s ↔
    topic ∈ b.declaredTopics payload s ∧ b.table.slot? topic = some slot ∧
      s.origins.intersects slot.allowed = true := by
  unfold selectedSlots
  rw [List.mem_filter, List.mem_filterMap]
  simp only [Option.map_eq_some_iff, Prod.mk.injEq]
  constructor
  · rintro ⟨⟨topic', htopic, slot', hslot, rfl, rfl⟩, hmeets⟩
    exact ⟨htopic, hslot, hmeets⟩
  · rintro ⟨htopic, hslot, hmeets⟩
    exact ⟨⟨topic, htopic, slot, hslot, rfl, rfl⟩, hmeets⟩

/-- The chosen topics, in the order in which controllers have them. -/
def chosenTopics (b : Bus ω ρ) (payload : String) (s : Selection) : List Topic :=
  (b.selectedSlots payload s).map Prod.fst

/-- The chosen topics are those that the bus chooses. -/
theorem mem_chosenTopics_iff :
    topic ∈ b.chosenTopics payload s ↔ b.Chooses payload s topic := by
  unfold chosenTopics
  rw [List.mem_map]
  constructor
  · rintro ⟨⟨topic, slot⟩, hin, rfl⟩
    obtain ⟨htopic, hslot, hmeets⟩ := mem_selectedSlots_iff.mp hin
    obtain ⟨hpayload, hdeclared, hadmits⟩ := mem_declaredTopics_iff.mp htopic
    exact ⟨hpayload, hdeclared, hadmits, slot, hslot, hmeets⟩
  · rintro ⟨hpayload, hdeclared, hadmits, slot, hslot, hmeets⟩
    have htopic := mem_declaredTopics_iff.mpr ⟨hpayload, hdeclared, hadmits⟩
    exact ⟨(topic, slot), mem_selectedSlots_iff.mpr ⟨htopic, hslot, hmeets⟩, rfl⟩

/-- No topic is chosen twice. -/
theorem nodup_chosenTopics (b : Bus ω ρ) (payload : String) (s : Selection) :
    (b.chosenTopics payload s).Nodup := by
  have hsublist : (b.chosenTopics payload s).Sublist
      (((b.declaredTopics payload s).filterMap fun topic =>
        (b.table.slot? topic).map fun slot => (topic, slot)).map Prod.fst) :=
    List.filter_sublist.map _
  refine hsublist.nodup ?_
  rw [List.map_filterMap]
  refine (nodup_declaredTopics b payload s).filterMap ?_
  intro topic topic' x hx hx'
  obtain ⟨slot, -, rfl⟩ : ∃ slot, b.table.slot? topic = some slot ∧ topic = x := by
    simpa using hx
  obtain ⟨slot, -, heq⟩ : ∃ slot, b.table.slot? topic' = some slot ∧ topic' = topic := by
    simpa using hx'
  exact heq.symm

/-! ## One topic after the other -/

/-- Whether somebody is subscribed to a topic. -/
def isSubscribed (b : Bus ω ρ) (token : Token) (topic : Topic) : Bool :=
  ((b.table.slot? topic).map (·.holds token)).getD false

/-- What becomes of a bus when some topics get one more enabled subscription behind the others, and
nothing else changes. -/
structure Gains (b : Bus ω ρ) (topics : List Topic)
    (made : Slot ω ρ Latch → Subscription ω ρ) (b' : Bus ω ρ) : Prop where
  rest : b' = { b with table := { b.table with slots := b'.table.slots } }
  gained : ∀ topic ∈ topics, ∃ slot, b.table.slot? topic = some slot ∧
    b'.table.slot? topic = some (slot.gain (made slot))
  kept : ∀ topic ∉ topics, b'.table.slot? topic = b.table.slot? topic

/-- The bus with another slot for a topic. -/
def replace (b : Bus ω ρ) (topic : Topic) (slot : Slot ω ρ Latch) : Bus ω ρ :=
  { b with table := b.table.replace topic slot }

/-- Without topics nothing is gained. -/
theorem Gains.nil (made : Slot ω ρ Latch → Subscription ω ρ) : b.Gains [] made b :=
  ⟨rfl, nofun, fun _ _ => rfl⟩

/-- The first topic gains its subscription, and the others after it. -/
theorem Gains.cons {topics : List Topic} {made : Slot ω ρ Latch → Subscription ω ρ}
    (hsnapshot : b.table.snapshot = none) (hslot : b.table.slot? topic = some slot)
    (hnew : topic ∉ topics)
    (h : (b.replace topic (slot.gain (made slot))).Gains topics made b') :
    b.Gains (topic :: topics) made b' := by
  have hfirst (topic' : Topic) :
      (b.replace topic (slot.gain (made slot))).table.slot? topic' =
        if topic = topic' then some (slot.gain (made slot)) else b.table.slot? topic' :=
    Table.slot?_replace hsnapshot ..
  refine ⟨h.rest, ?_, ?_⟩
  · intro topic' hin
    rcases List.mem_cons.mp hin with rfl | hlater
    · refine ⟨slot, hslot, ?_⟩
      rw [h.kept _ hnew, hfirst, if_pos rfl]
    · have hne : topic ≠ topic' := by
        rintro rfl
        exact hnew hlater
      obtain ⟨slot', hslot', hgained⟩ := h.gained _ hlater
      rw [hfirst, if_neg hne] at hslot'
      exact ⟨slot', hslot', hgained⟩
  · intro topic' hnot
    have hne : topic ≠ topic' := fun heq => hnot (heq ▸ List.mem_cons_self)
    have hlater : topic' ∉ topics := fun hin => hnot (List.mem_cons_of_mem _ hin)
    rw [h.kept _ hlater, hfirst, if_neg hne]

/-- A subscription to a topic whose slot was read before does not fail. -/
theorem subscribe_of_selected (hopen : b.isLocked = false) (hsnapshot : b.table.snapshot = none)
    (hslot : b.table.slot? topic = some slot) (hmeets : s.origins.intersects slot.allowed = true)
    (hnew : slot.holds token = false) :
    b.subscribe topic (s.origins.inter slot.allowed) token handler =
      pure (.ok (), b.replace topic (slot.gain (s.subscription token handler slot))) := by
  rw [Table.slot?_of_snapshot hsnapshot] at hslot
  have hmask : (s.origins.inter slot.allowed).isEmpty = false := by
    rw [Origin.isEmpty_inter, hmeets]
    rfl
  unfold subscribe whileOpen replace
  simp [hopen, hmask, hslot, Origin.contains_inter, Slot.add?, hnew, Slot.gain,
    Selection.subscription]

/-- By induction on the topics: as they differ, a subscription to one leaves the slots of those
behind it as they were read. -/
theorem subscribeEach_of_selected (handler : Handler ω ρ)
    (selected : List (Topic × Slot ω ρ Latch)) (hopen : b.isLocked = false)
    (hsnapshot : b.table.snapshot = none) (hnodup : (selected.map Prod.fst).Nodup)
    (hselected : ∀ x ∈ selected, b.table.slot? x.1 = some x.2 ∧
      s.origins.intersects x.2.allowed = true ∧ x.2.holds token = false) :
    ∃ b', b.subscribeEach token handler
        (selected.map fun (topic, slot) => (topic, s.origins.inter slot.allowed)) =
          pure (.ok (), b') ∧
      b.Gains (selected.map Prod.fst) (s.subscription token handler) b' := by
  induction selected generalizing b with
  | nil => exact ⟨b, rfl, .nil _⟩
  | cons x rest ih =>
    obtain ⟨topic, slot⟩ := x
    obtain ⟨hslot, hmeets, hnew⟩ : b.table.slot? topic = some slot ∧
        s.origins.intersects slot.allowed = true ∧ slot.holds token = false :=
      hselected _ List.mem_cons_self
    obtain ⟨hfirst, hnodup⟩ : topic ∉ rest.map Prod.fst ∧ (rest.map Prod.fst).Nodup :=
      List.nodup_cons.mp hnodup
    have hlater : ∀ x ∈ rest,
        (b.replace topic (slot.gain (s.subscription token handler slot))).table.slot? x.1 =
          some x.2 ∧ s.origins.intersects x.2.allowed = true ∧ x.2.holds token = false := by
      intro x hx
      obtain ⟨hslot', hrest⟩ := hselected x (List.mem_cons_of_mem _ hx)
      have hne : topic ≠ x.1 := by
        rintro rfl
        exact hfirst (List.mem_map_of_mem hx)
      refine ⟨?_, hrest⟩
      unfold replace
      rw [Table.slot?_replace hsnapshot, if_neg hne]
      exact hslot'
    obtain ⟨b', heach, hgains⟩ :=
      @ih (b.replace topic (slot.gain (s.subscription token handler slot))) hopen hsnapshot hnodup
        hlater
    refine ⟨b', ?_, hgains.cons hsnapshot hslot hfirst⟩
    rw [List.map_cons, subscribeEach, subscribe_of_selected hopen hsnapshot hslot hmeets hnew,
      pure_bind]
    exact heach

/-! ## All or none -/

/-- What a subscription to all chosen topics does, each of them once. If its subscriber is
subscribed to one of them it fails, with the first of those, and the bus stays as it is. Otherwise
it answers how many there are, and each gets the handler for the origins of the choice that it
allows. That is what comes of subscribing to one after the other, of which none fails. -/
structure SubscribesAll (b : Bus ω ρ) (payload : String) (token : Token) (s : Selection)
    (handler : Handler ω ρ) (chosen : List Topic) : Prop where
  nodup : chosen.Nodup
  mem_iff : ∀ topic, topic ∈ chosen ↔ b.Chooses payload s topic
  conflict : ∀ topic, chosen.find? (b.isSubscribed token) = some topic →
    (b.subscribeAll payload token s handler).value = (.error (alreadySubscribed topic token), b)
  success : (∀ topic ∈ chosen, b.isSubscribed token topic = false) → ∃ b',
    b.subscribeAll payload token s handler = pure (.ok chosen.length, b') ∧
      b.Gains chosen (s.subscription token handler) b' ∧
      (b.planned payload s).map Prod.fst = chosen ∧
      b.subscribeEach token handler (b.planned payload s) = pure (.ok (), b')

/-- The first chosen topic to which somebody is subscribed can be told from the slots that were
read. -/
theorem find?_isSubscribed (b : Bus ω ρ) (payload : String) (s : Selection) (token : Token) :
    (b.chosenTopics payload s).find? (b.isSubscribed token) =
      ((b.selectedSlots payload s).find? fun (_, slot) => slot.holds token).map Prod.fst := by
  unfold chosenTopics
  rw [List.find?_map]
  congr 1
  apply List.find?_congr
  rintro ⟨topic, slot⟩ hin
  obtain ⟨-, hslot, -⟩ := mem_selectedSlots_iff.mp hin
  show b.isSubscribed token topic = slot.holds token
  unfold isSubscribed
  rw [hslot]
  rfl

/-- While registration is open, a handler is subscribed to all chosen topics or to none. -/
theorem subscribesAll_of_open (hopen : b.isLocked = false) (hsnapshot : b.table.snapshot = none)
    (payload : String) (token : Token) (s : Selection) (handler : Handler ω ρ) :
    b.SubscribesAll payload token s handler (b.chosenTopics payload s) := by
  have hfind := b.find?_isSubscribed payload s token
  refine ⟨b.nodup_chosenTopics payload s, fun _ => mem_chosenTopics_iff, ?_, ?_⟩
  · intro topic htopic
    rw [hfind] at htopic
    obtain ⟨⟨topic, slot⟩, hfound, rfl⟩ := Option.map_eq_some_iff.mp htopic
    unfold subscribeAll whileOpen
    simp only [hopen, Bool.false_eq_true, if_false, hfound]
    rfl
  · intro hnone
    rw [List.find?_eq_none.mpr fun topic htopic => by simp [hnone topic htopic]] at hfind
    have hfound := Option.map_eq_none_iff.mp hfind.symm
    have hselected : ∀ x ∈ b.selectedSlots payload s, b.table.slot? x.1 = some x.2 ∧
        s.origins.intersects x.2.allowed = true ∧ x.2.holds token = false := by
      rintro ⟨topic, slot⟩ hx
      obtain ⟨-, hslot, hmeets⟩ := mem_selectedSlots_iff.mp hx
      exact ⟨hslot, hmeets, by simpa using List.find?_eq_none.mp hfound _ hx⟩
    obtain ⟨b', heach, hgains⟩ : ∃ b',
        b.subscribeEach token handler (b.planned payload s) = pure (.ok (), b') ∧
          b.Gains (b.chosenTopics payload s) (s.subscription token handler) b' :=
      subscribeEach_of_selected handler (b.selectedSlots payload s) hopen hsnapshot
        (b.nodup_chosenTopics payload s) hselected
    refine ⟨b', ?_, hgains, ?_, heach⟩
    · unfold subscribeAll whileOpen
      simp only [hopen, Bool.false_eq_true, if_false, hfound, heach, pure_bind]
      unfold planned chosenTopics
      rw [List.length_map, List.length_map]
      rfl
    · unfold planned chosenTopics
      rw [List.map_map]
      rfl

/-- While registration is open there is no snapshot. -/
theorem Shows.snapshot_eq_none {p : PlainBus ω ρ} (h : b.Shows p) (hopen : b.isLocked = false) :
    b.table.snapshot = none := by
  have hphase : b.table.phase = .unlocked := by simpa [Bus.isLocked, Table.isLocked] using hopen
  rw [h.table.snapshot, hphase]
  rfl

/-- Whatever was asked of a bus before, while registration is open a handler is subscribed to all
chosen topics or to none. -/
theorem subscribesAll_after (channel : String) (isServer : Bool) (requests : List (Request ω ρ))
    (payload : String) (token : Token) (s : Selection) (handler : Handler ω ρ)
    (hopen : ((new channel isServer).after requests).isLocked = false) :
    ∃ chosen, ((new channel isServer).after requests).SubscribesAll payload token s handler
      chosen := by
  obtain ⟨p, hshows, -⟩ := shows_after channel isServer requests
  have hsnapshot := hshows.snapshot_eq_none hopen
  exact ⟨_, subscribesAll_of_open hopen hsnapshot payload token s handler⟩

/-- A controller that owns the alarm. -/
def alarmOwner (name : String) : Controller Unit :=
  ⟨name, fun _ => .registering alarm .localOnly fun _ => .done (.ok ())⟩

/-- Two controllers own the alarm, and somebody is subscribed to it. -/
def sharedAlarm : List (Request Unit Nat) :=
  [.join (alarmOwner "station"), .join (alarmOwner "ship"),
    .subscribe alarm .localOnly ⟨1⟩ (.reading fun _ _ => [])]

/-- Who is subscribed to the shared alarm is refused, and somebody else is subscribed to it once. -/
theorem subscribesAll_after_sharedAlarm :
    ((new "named_events" false).after sharedAlarm).isLocked = false ∧
      (((new "named_events" false).after sharedAlarm).subscribeAll "i64" ⟨1⟩ .all
        (.reading fun _ _ => [])).value.1 = .error (alreadySubscribed alarm ⟨1⟩) ∧
      (((new "named_events" false).after sharedAlarm).subscribeAll "i64" ⟨2⟩ .all
        (.reading fun _ _ => [])).value.1 = .ok 1 ∧
      ∃ chosen, ((new "named_events" false).after sharedAlarm).SubscribesAll "i64" ⟨2⟩ .all
        (.reading fun _ _ => []) chosen := by
  have hopen : ((new "named_events" false).after sharedAlarm).isLocked = false := by
    decide +kernel
  refine ⟨hopen, by decide +kernel, by decide +kernel, ?_⟩
  exact subscribesAll_after "named_events" false sharedAlarm "i64" ⟨2⟩ .all
    (.reading fun _ _ => []) hopen

end Bus

end ModuleRuntime.Event
