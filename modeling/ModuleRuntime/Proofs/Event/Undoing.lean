import ModuleRuntime.Proofs.Event.Bulk

/-!
# Leaving all chosen topics again

Somebody who subscribes to all chosen topics and leaves them again leaves no trace: the slots are
as they were, with everybody else in the order in which they stood, however often the subscriptions
were enabled and disabled in between. Only subscriptions to other topics that were enabled or
disabled meanwhile stay so.
-/

set_option autoImplicit false

namespace ModuleRuntime.Event

variable {ω ρ κ : Type}

/-! ## Maps with the same topics -/

namespace SlotMap

variable {m m' m'' : SlotMap ω ρ} {topic : Topic} {slot : Slot ω ρ Latch}

/-- Two maps have slots for the same topics, in the same order. -/
structure SameTopics (m m' : SlotMap ω ρ) : Prop where
  payloads : m'.byPayload.keys = m.byPayload.keys
  ids : ∀ payload, (m'.ofPayload payload).keys = (m.ofPayload payload).keys

namespace SameTopics

/-- Every map has the topics that it has. -/
theorem refl (m : SlotMap ω ρ) : m.SameTopics m :=
  ⟨rfl, fun _ => rfl⟩

/-- In both directions. -/
theorem symm (h : m.SameTopics m') : m'.SameTopics m :=
  ⟨h.payloads.symm, fun payload => (h.ids payload).symm⟩

/-- Through a map in between. -/
theorem trans (h : m.SameTopics m') (h' : m'.SameTopics m'') : m.SameTopics m'' :=
  ⟨h'.payloads.trans h.payloads, fun payload => (h'.ids payload).trans (h.ids payload)⟩

/-- A topic that has a slot can get another one. -/
theorem put (h : m.find? topic = some slot) (slot' : Slot ω ρ Latch) :
    m.SameTopics (m.put topic slot') := by
  have hid : topic.id ∈ (m.ofPayload topic.payload).keys := by
    rw [← Dictionary.contains_iff]
    exact Option.isSome_of_mem h
  have hpayload : topic.payload ∈ m.byPayload.keys := by
    rw [← Dictionary.contains_iff]
    unfold Dictionary.contains
    cases hslots : m.byPayload.find? topic.payload with
    | some slots => rfl
    | none =>
      unfold ofPayload at hid
      rw [hslots] at hid
      cases hid
  constructor
  · show (m.byPayload.put topic.payload _).keys = _
    rw [Dictionary.keys_put, if_pos hpayload]
  · intro payload
    unfold ofPayload SlotMap.put
    rw [Dictionary.find?_put]
    split
    · next heq =>
      subst heq
      rw [Option.getD_some, Dictionary.keys_put, if_pos hid]
      rfl
    · rfl

/-- Maps of the same topics that have the same slots are equal. -/
theorem eq (h : m.SameTopics m') (hfind : ∀ topic, m'.find? topic = m.find? topic) : m' = m := by
  have hslots (payload : String) : m'.ofPayload payload = m.ofPayload payload :=
    Dictionary.eq_of_find? (h.ids payload) fun id => hfind ⟨id, payload⟩
  have hpayload (payload : String) :
      m'.byPayload.contains payload = m.byPayload.contains payload := by
    rw [Bool.eq_iff_iff, Dictionary.contains_iff, Dictionary.contains_iff, h.payloads]
  have hall : m'.byPayload = m.byPayload := by
    refine Dictionary.eq_of_find? h.payloads fun payload => ?_
    have hvalue := hslots payload
    have hboth := hpayload payload
    unfold ofPayload at hvalue
    unfold Dictionary.contains at hboth
    cases hfound : m.byPayload.find? payload with
    | none =>
      rw [hfound] at hboth
      exact Option.isSome_eq_false_iff.mp hboth |> Option.isNone_iff_eq_none.mp
    | some slots =>
      rw [hfound] at hboth hvalue
      obtain ⟨slots', hfound'⟩ := Option.isSome_iff_exists.mp hboth
      rw [hfound'] at hvalue ⊢
      exact congrArg some hvalue
  exact congrArg SlotMap.mk hall

end SameTopics

end SlotMap

/-! ## Slots -/

namespace Slot

variable {s s' : Slot ω ρ κ} {token : Token} {subscription : Subscription ω ρ}
  {source destination : List (Subscription ω ρ)}

/-- Who is not held by a slot is neither enabled nor disabled there. -/
theorem holds_eq_false_iff : s.holds token = false ↔
    s.enabled.any (isOf token) = false ∧ s.disabled.any (isOf token) = false := by
  unfold holds subscriptions
  rw [List.any_append, Bool.or_eq_false_iff]

/-- Who is enabled is removed from the enabled ones. -/
theorem remove?_of_enabled (h : s.enabled.any (isOf token) = true) :
    s.remove? token = some { s with enabled := s.enabled.eraseP (isOf token) } := by
  unfold remove?
  rw [if_pos h]

/-- Who is not enabled is removed from the disabled ones, if anywhere. -/
theorem remove?_of_not_enabled (h : s.enabled.any (isOf token) = false) :
    s.remove? token = if s.disabled.any (isOf token) then
      some { s with disabled := s.disabled.eraseP (isOf token) } else none := by
  unfold remove?
  rw [h, if_neg Bool.false_ne_true]

/-- Nobody is removed who is not held. -/
theorem remove?_eq_none (h : s.holds token = false) : s.remove? token = none := by
  obtain ⟨henabled, hdisabled⟩ := holds_eq_false_iff.mp h
  rw [remove?_of_not_enabled henabled, hdisabled, if_neg Bool.false_ne_true]

/-- The last subscription is removed where there is no other one of its subscriber. -/
theorem eraseP_concat (h : source.any (isOf token) = false) (hof : isOf token subscription = true) :
    (source ++ [subscription]).eraseP (isOf token) = source := by
  rw [List.eraseP_append_right _ (by simpa using h), List.eraseP_cons_of_pos hof, List.append_nil]

/-- Who is in the list to move from goes to the end of the other one. -/
theorem move?_of_source (h : source.any (isOf token) = true)
    (destination : List (Subscription ω ρ)) :
    ∃ subscription, isOf token subscription = true ∧ move? token source destination =
      some (source.eraseP (isOf token), destination ++ [subscription]) := by
  obtain ⟨subscription, hfound⟩ :=
    Option.isSome_iff_exists.mp (List.find?_isSome.mpr (List.any_eq_true.mp h))
  refine ⟨subscription, List.find?_some hfound, ?_⟩
  unfold move?
  rw [hfound]

/-- Who is not in the list to move from is left where that one is, if anywhere. -/
theorem move?_of_not_source (h : source.any (isOf token) = false)
    (destination : List (Subscription ω ρ)) :
    move? token source destination =
      if destination.any (isOf token) then some (source, destination) else none := by
  have hnone : source.find? (isOf token) = none := by
    rw [List.find?_eq_none]
    simpa using h
  unfold move?
  rw [hnone]

/-- Nobody is enabled or disabled who is not held. -/
theorem setEnabled?_eq_none (h : s.holds token = false) (isEnabled : Bool) :
    s.setEnabled? token isEnabled = none := by
  obtain ⟨henabled, hdisabled⟩ := holds_eq_false_iff.mp h
  unfold setEnabled?
  rw [move?_of_not_source henabled, move?_of_not_source hdisabled, henabled, hdisabled]
  cases isEnabled <;> rfl

/-- Somebody who was not subscribed before can be removed again. -/
theorem remove?_gain (subscription : Subscription ω ρ) (h : s.holds subscription.token = false) :
    (s.gain subscription).remove? subscription.token = some s := by
  have hof : isOf subscription.token subscription = true := beq_self_eq_true _
  have hany : (s.enabled ++ [subscription]).any (isOf subscription.token) = true := by simp [hof]
  have hlast := eraseP_concat (holds_eq_false_iff.mp h).1 hof
  rw [remove?_of_enabled (s := s.gain subscription) hany]
  unfold gain
  dsimp only
  rw [hlast]

/-- Somebody can be enabled or disabled before being removed, and what is left is the same. -/
theorem exists_setEnabled? (h : s.remove? token = some s') (hgone : s'.holds token = false)
    (isEnabled : Bool) :
    ∃ s'', s.setEnabled? token isEnabled = some s'' ∧ s''.remove? token = some s' := by
  obtain ⟨henabled', hdisabled'⟩ := holds_eq_false_iff.mp hgone
  unfold setEnabled?
  cases henabled : s.enabled.any (isOf token) with
  | true =>
    obtain rfl := Option.some.inj ((remove?_of_enabled henabled).symm.trans h)
    cases isEnabled with
    | true =>
      rw [if_pos rfl, move?_of_not_source hdisabled', if_pos henabled]
      exact ⟨s, rfl, h⟩
    | false =>
      obtain ⟨subscription, hof, hmove⟩ := move?_of_source henabled s.disabled
      have hany : (s.disabled ++ [subscription]).any (isOf token) = true := by simp [hof]
      have hnone : (s.enabled.eraseP (isOf token)).any (isOf token) = false := henabled'
      rw [if_neg Bool.false_ne_true, hmove]
      refine ⟨⟨s.allowed, s.latch, s.enabled.eraseP (isOf token), s.disabled ++ [subscription]⟩,
        rfl, (remove?_of_not_enabled hnone).trans ?_⟩
      dsimp only
      rw [if_pos hany, eraseP_concat hdisabled' hof]
  | false =>
    rw [remove?_of_not_enabled henabled] at h
    split at h
    case isFalse => cases h
    case isTrue hdisabled =>
      obtain rfl := Option.some.inj h
      cases isEnabled with
      | true =>
        obtain ⟨subscription, hof, hmove⟩ := move?_of_source hdisabled s.enabled
        have hany : (s.enabled ++ [subscription]).any (isOf token) = true := by simp [hof]
        rw [if_pos rfl, hmove]
        refine ⟨⟨s.allowed, s.latch, s.enabled ++ [subscription], s.disabled.eraseP (isOf token)⟩,
          rfl, ?_⟩
        rw [remove?_of_enabled hany]
        dsimp only
        rw [eraseP_concat henabled hof]
      | false =>
        rw [if_neg Bool.false_ne_true, move?_of_not_source henabled, if_pos hdisabled]
        exact ⟨s, rfl, by rw [remove?_of_not_enabled henabled, if_pos hdisabled]⟩

end Slot

/-! ## Tables -/

namespace Table

variable {t t' : Table ω ρ} {topic : Topic} {slot : Slot ω ρ Latch} {token : Token}
  {topics rest : List Topic}

/-- The table with somebody enabled or disabled at a topic, if there is a subscription. -/
def toggle (t : Table ω ρ) (token : Token) (x : Topic × Bool) : Table ω ρ :=
  (t.change? x.1 (·.setEnabled? token x.2)).getD t

/-- Removes somebody from one topic after the other, and counts the subscriptions. -/
def removeEach (token : Token) (count : Nat) (t : Table ω ρ) : List Topic → Nat × Table ω ρ
  | [] => (count, t)
  | topic :: rest =>
    match t.change? topic (·.remove? token) with
    | some t' => t'.removeEach token (count + 1) rest
    | none => t.removeEach token count rest

/-- Somebody is subscribed to none of some topics. -/
def IsFree (t : Table ω ρ) (token : Token) (topics : List Topic) : Prop :=
  ∀ topic ∈ topics, ∀ slot, t.slots.find? topic = some slot → slot.holds token = false

/-- Enabling or disabling somebody who is not subscribed to a topic does nothing. -/
theorem toggle_of_isFree {x : Topic × Bool} (h : t.IsFree token topics) (hx : x.1 ∈ topics) :
    t.toggle token x = t := by
  unfold toggle change?
  cases hslot : t.slots.find? x.1 with
  | none => rfl
  | some slot =>
    rw [Option.bind_some, Slot.setEnabled?_eq_none (h x.1 hx slot hslot)]
    rfl

/-- By induction on the topics, at none of which anything happens. -/
theorem toggles_of_isFree {xs : List (Topic × Bool)} (h : t.IsFree token topics)
    (hxs : ∀ x ∈ xs, x.1 ∈ topics) : xs.foldl (·.toggle token ·) t = t := by
  induction xs with
  | nil => rfl
  | cons x rest ih =>
    rw [List.foldl_cons, toggle_of_isFree h (hxs x List.mem_cons_self)]
    exact ih fun x' hx' => hxs x' (List.mem_cons_of_mem _ hx')

/-- Nobody becomes a subscriber of a topic by being enabled or disabled. -/
theorem IsFree.toggle (h : t.IsFree token topics) (x : Topic × Bool) :
    (t.toggle token x).IsFree token topics := by
  by_cases hx : x.1 ∈ topics
  · rw [toggle_of_isFree h hx]
    exact h
  · intro topic htopic slot hslot
    have hne : x.1 ≠ topic := fun heq => hx (heq ▸ htopic)
    refine h topic htopic slot ?_
    rw [← hslot]
    unfold Table.toggle change?
    cases (t.slots.find? x.1).bind (·.setEnabled? token x.2) with
    | none => rfl
    | some slot' => exact ((SlotMap.find?_put ..).trans (if_neg hne)).symm

/-- By induction on the topics at which somebody is enabled or disabled. -/
theorem IsFree.toggles (h : t.IsFree token topics) (xs : List (Topic × Bool)) :
    (xs.foldl (·.toggle token ·) t).IsFree token topics := by
  induction xs generalizing t with
  | nil => exact h
  | cons x rest ih => exact ih (h.toggle x)

/-- What comes of a table when somebody who is subscribed to none of some topics is subscribed to
them: removing that one from such a topic gives back the slot that it had, and all other slots are
the same. -/
structure Joined (t : Table ω ρ) (token : Token) (topics : List Topic) (t' : Table ω ρ) :
    Prop where
  rest : t' = { t with slots := t'.slots }
  sameTopics : t.slots.SameTopics t'.slots
  joined : ∀ topic ∈ topics, ∃ slot slot', t.slots.find? topic = some slot ∧
    slot.holds token = false ∧ t'.slots.find? topic = some slot' ∧
      slot'.remove? token = some slot
  kept : ∀ topic ∉ topics, t'.slots.find? topic = t.slots.find? topic

namespace Joined

/-- Who is subscribed to no topic has left the table as it was. -/
theorem eq (h : t.Joined token [] t') : t' = t := by
  have hslots : t'.slots = t.slots := h.sameTopics.eq fun topic => h.kept topic List.not_mem_nil
  rw [h.rest, hslots]

/-- A slot of a topic to which that one is subscribed can be replaced by one that is good
as well. -/
theorem replace (h : t.Joined token topics t') {slot slot' : Slot ω ρ Latch}
    (htopic : topic ∈ topics) (hslot : t.slots.find? topic = some slot)
    (hremove : slot'.remove? token = some slot) :
    t.Joined token topics (t'.replace topic slot') := by
  obtain ⟨before, old, hbefore, hfree, hold, -⟩ := h.joined topic htopic
  obtain rfl := Option.some.inj (hbefore.symm.trans hslot)
  refine ⟨?_, h.sameTopics.trans (.put hold slot'), ?_, ?_⟩
  · exact congrArg (fun u : Table ω ρ => { u with slots := t'.slots.put topic slot' }) h.rest
  · intro topic' htopic'
    show ∃ before' after', _ ∧ _ ∧ (t'.slots.put topic slot').find? topic' = some after' ∧ _
    rw [SlotMap.find?_put]
    by_cases heq : topic = topic'
    · subst heq
      exact ⟨before, slot', hslot, hfree, if_pos rfl, hremove⟩
    · rw [if_neg heq]
      exact h.joined topic' htopic'
  · intro topic' hnot
    have hne : topic ≠ topic' := fun heq => hnot (heq ▸ htopic)
    show (t'.slots.put topic slot').find? topic' = _
    rw [SlotMap.find?_put, if_neg hne]
    exact h.kept topic' hnot

/-- A slot of another topic can be replaced in both tables. -/
theorem replace_both (h : t.Joined token topics t') (htopic : topic ∉ topics)
    (hslot : t.slots.find? topic = some slot) (slot' : Slot ω ρ Latch) :
    (t.replace topic slot').Joined token topics (t'.replace topic slot') := by
  have hsame : t'.slots.find? topic = some slot := (h.kept topic htopic).trans hslot
  refine ⟨?_, ?_, ?_, ?_⟩
  · exact congrArg (fun u : Table ω ρ => { u with slots := t'.slots.put topic slot' }) h.rest
  · exact (SlotMap.SameTopics.put hslot slot').symm.trans
      (h.sameTopics.trans (.put hsame slot'))
  · intro topic' htopic'
    have hne : topic ≠ topic' := fun heq => htopic (heq ▸ htopic')
    show ∃ before after, (t.slots.put topic slot').find? topic' = some before ∧ _ ∧
      (t'.slots.put topic slot').find? topic' = some after ∧ _
    rw [SlotMap.find?_put, SlotMap.find?_put, if_neg hne, if_neg hne]
    exact h.joined topic' htopic'
  · intro topic' hnot
    show (t'.slots.put topic slot').find? topic' = (t.slots.put topic slot').find? topic'
    rw [SlotMap.find?_put, SlotMap.find?_put, h.kept topic' hnot]

/-- Somebody who has joined is enabled or disabled there alone, and else in both tables alike. -/
theorem toggle (h : t.Joined token topics t') (x : Topic × Bool) :
    (t.toggle token x).Joined token topics (t'.toggle token x) := by
  obtain ⟨topic, isEnabled⟩ := x
  by_cases htopic : topic ∈ topics
  · obtain ⟨slot, slot', hslot, hfree, hslot', hremove⟩ := h.joined topic htopic
    obtain ⟨toggled, hset, hremove'⟩ := Slot.exists_setEnabled? hremove hfree isEnabled
    have hleft : t.toggle token (topic, isEnabled) = t := by
      simp [Table.toggle, change?, hslot, Slot.setEnabled?_eq_none hfree]
    have hright : t'.toggle token (topic, isEnabled) = t'.replace topic toggled := by
      simp [Table.toggle, change?, hslot', hset]
    rw [hleft, hright]
    exact h.replace htopic hslot hremove'
  · have hsame := h.kept topic htopic
    unfold Table.toggle change?
    dsimp only
    rw [hsame]
    cases hslot : t.slots.find? topic with
    | none => exact h
    | some slot =>
      rw [Option.bind_some]
      cases slot.setEnabled? token isEnabled with
      | none => exact h
      | some slot' => exact h.replace_both htopic hslot slot'

/-- By induction on the topics at which somebody is enabled or disabled. -/
theorem toggles (h : t.Joined token topics t') (xs : List (Topic × Bool)) :
    (xs.foldl (·.toggle token ·) t).Joined token topics (xs.foldl (·.toggle token ·) t') := by
  induction xs generalizing t t' with
  | nil => exact h
  | cons x rest ih => exact ih (h.toggle x)

/-- Somebody who leaves one of the topics is still subscribed to the others. -/
theorem remove (h : t.Joined token topics t') (hnodup : topics.Nodup) (htopic : topic ∈ topics) :
    ∃ t'', t'.change? topic (·.remove? token) = some t'' ∧
      t.Joined token (topics.erase topic) t'' := by
  obtain ⟨slot, slot', hslot, -, hslot', hremove⟩ := h.joined topic htopic
  have hchange : t'.change? topic (·.remove? token) = some (t'.replace topic slot) := by
    simp [change?, hslot', hremove]
  refine ⟨_, hchange, ?_, h.sameTopics.trans (.put hslot' slot), ?_, ?_⟩
  · exact congrArg (fun u : Table ω ρ => { u with slots := t'.slots.put topic slot }) h.rest
  · intro topic' htopic'
    obtain ⟨hne, hmem⟩ := hnodup.mem_erase_iff.mp htopic'
    show ∃ before after, _ ∧ _ ∧ (t'.slots.put topic slot).find? topic' = some after ∧ _
    rw [SlotMap.find?_put, if_neg hne.symm]
    exact h.joined topic' hmem
  · intro topic' hnot
    show (t'.slots.put topic slot).find? topic' = _
    rw [SlotMap.find?_put]
    split
    · next heq => exact (heq ▸ hslot).symm
    · next hne =>
      exact h.kept topic' fun hmem => hnot (hnodup.mem_erase_iff.mpr ⟨Ne.symm hne, hmem⟩)

/-- By induction on the topics that are left: a topic that was joined is given back and counted, and
at any other there is nobody to remove. -/
theorem removeEach (h : t.Joined token topics t') (hnodup : topics.Nodup)
    (hfree : t.IsFree token rest) (hrest : rest.Nodup) (hsub : topics ⊆ rest) (count : Nat) :
    t'.removeEach token count rest = (count + topics.length, t) := by
  induction rest generalizing topics t' count with
  | nil =>
    obtain rfl := List.subset_nil.mp hsub
    rw [h.eq]
    rfl
  | cons topic rest ih =>
    obtain ⟨hnew, hrest⟩ := List.nodup_cons.mp hrest
    have hlater : t.IsFree token rest := fun topic' htopic' =>
      hfree topic' (List.mem_cons_of_mem _ htopic')
    by_cases htopic : topic ∈ topics
    · obtain ⟨t'', hchange, hjoined⟩ := h.remove hnodup htopic
      have hsub' : topics.erase topic ⊆ rest := by
        intro topic' htopic'
        obtain ⟨hne, hmem⟩ := hnodup.mem_erase_iff.mp htopic'
        exact (List.mem_cons.mp (hsub hmem)).resolve_left hne
      have hlength : count + 1 + (topics.erase topic).length = count + topics.length := by
        have hpos : 0 < topics.length := List.length_pos_of_mem htopic
        rw [List.length_erase_of_mem htopic]
        omega
      rw [Table.removeEach, hchange, ← hlength]
      exact ih hjoined (hnodup.erase topic) hlater hrest hsub' (count + 1)
    · have hsame : t'.slots.find? topic = t.slots.find? topic := h.kept topic htopic
      have hchange : t'.change? topic (·.remove? token) = none := by
        unfold change?
        rw [hsame]
        cases hslot : t.slots.find? topic with
        | none => rfl
        | some slot =>
          rw [Option.bind_some,
            Slot.remove?_eq_none (hfree topic List.mem_cons_self slot hslot)]
          rfl
      have hsub' : topics ⊆ rest := by
        intro topic' htopic'
        refine (List.mem_cons.mp (hsub htopic')).resolve_left ?_
        rintro rfl
        exact htopic htopic'
      rw [Table.removeEach, hchange]
      exact ih h hnodup hlater hrest hsub' count

end Joined

end Table

/-! ## Buses -/

namespace Bus

variable {b b' : Bus ω ρ} {payload : String} {token : Token} {s : Selection}
  {handler : Handler ω ρ}

/-- The requests that enable or disable somebody at topics. -/
def toggles (token : Token) (xs : List (Topic × Bool)) : List (Request ω ρ) :=
  xs.map fun (topic, isEnabled) => .setEnabled topic token isEnabled

/-- While registration is open, somebody is enabled or disabled in the table. -/
theorem value_setEnabled (hopen : b.isLocked = false) (topic : Topic) (token : Token)
    (isEnabled : Bool) : (b.perform (.setEnabled topic token isEnabled)).value.2 =
      { b with table := b.table.toggle token (topic, isEnabled) } := by
  simp only [perform, setEnabled, whileOpen, hopen, Bool.false_eq_true, if_false,
    Journaled.value_map, Table.toggle]
  cases b.table.change? topic (·.setEnabled? token isEnabled) <;> rfl

/-- Registration stays open when somebody is enabled or disabled. -/
theorem isLocked_toggle (hopen : b.isLocked = false) (token : Token) (x : Topic × Bool) :
    ({ b with table := b.table.toggle token x } : Bus ω ρ).isLocked = false := by
  show (b.table.toggle token x).isLocked = false
  unfold Table.toggle Table.change?
  cases (b.table.slots.find? x.1).bind (·.setEnabled? token x.2) <;> exact hopen

/-- By induction on the topics at which somebody is enabled or disabled. -/
theorem isLocked_toggles (hopen : b.isLocked = false) (token : Token) (xs : List (Topic × Bool)) :
    ({ b with table := xs.foldl (·.toggle token ·) b.table } : Bus ω ρ).isLocked = false := by
  induction xs generalizing b with
  | nil => exact hopen
  | cons x rest ih => exact ih (isLocked_toggle hopen token x)

/-- Requests to enable or disable somebody change the table and nothing else. -/
theorem after_toggles (hopen : b.isLocked = false) (token : Token) (xs : List (Topic × Bool)) :
    b.after (toggles token xs) = { b with table := xs.foldl (·.toggle token ·) b.table } := by
  induction xs generalizing b with
  | nil => rfl
  | cons x rest ih =>
    show ((b.perform (.setEnabled x.1 token x.2)).value.2).after (toggles token rest) = _
    rw [value_setEnabled hopen, ih (isLocked_toggle hopen token x)]
    rfl

/-- While registration is open, somebody is removed from the table at a topic. -/
theorem value_unsubscribe (hopen : b.isLocked = false) (topic : Topic) (token : Token) :
    (b.unsubscribe topic token false).value =
      match b.table.change? topic (·.remove? token) with
      | some t => (.ok true, { b with table := t })
      | none => (.ok false, b) := by
  unfold unsubscribe whileOpen
  rw [hopen, if_neg Bool.false_ne_true]
  cases b.table.change? topic (·.remove? token) <;> rfl

/-- By induction on the topics. Registration stays open all along, so that none fails. -/
theorem value_unsubscribeEach (hopen : b.isLocked = false) (token : Token) (count : Nat)
    (topics : List Topic) : (b.unsubscribeEach token count topics).value =
      (.ok (b.table.removeEach token count topics).1,
        { b with table := (b.table.removeEach token count topics).2 }) := by
  induction topics generalizing b count with
  | nil => rfl
  | cons topic rest ih =>
    unfold unsubscribeEach Table.removeEach
    rw [Journaled.value_bind, value_unsubscribe hopen]
    cases hchange : b.table.change? topic (·.remove? token) with
    | none => exact ih hopen count
    | some t =>
      have hopen' : ({ b with table := t } : Bus ω ρ).isLocked = false := by
        obtain ⟨slot, -, rfl⟩ := Option.map_eq_some_iff.mp hchange
        exact hopen
      exact ih hopen' (count + 1)

/-- While registration is open, somebody is removed from the chosen topics of the table. -/
theorem value_unsubscribeAll (hopen : b.isLocked = false) (payload : String) (token : Token)
    (s : Selection) : (b.unsubscribeAll payload token s).value =
      (.ok (b.table.removeEach token 0 (b.declaredTopics payload s)).1,
        { b with table := (b.table.removeEach token 0 (b.declaredTopics payload s)).2 }) := by
  unfold unsubscribeAll whileOpen
  rw [hopen, if_neg Bool.false_ne_true]
  exact value_unsubscribeEach hopen token 0 _

/-- No topic comes or goes when somebody subscribes to one. -/
theorem sameTopics_subscribe (b : Bus ω ρ) (topic : Topic) (origin : Origin) (token : Token)
    (handler : Handler ω ρ) : b.table.slots.SameTopics
      (b.subscribe topic origin token handler).value.2.table.slots := by
  unfold subscribe whileOpen
  split
  · exact .refl _
  · split
    · exact .refl _
    · split
      · exact .refl _
      · next slot hslot =>
        split
        · exact .refl _
        · cases slot.add? ⟨origin, token, handler⟩ with
          | some slot' => exact .put hslot slot'
          | none => exact .refl _

/-- By induction on the topics, none of which comes or goes. -/
theorem sameTopics_subscribeEach (b : Bus ω ρ) (token : Token) (handler : Handler ω ρ)
    (topics : List (Topic × Origin)) : b.table.slots.SameTopics
      (b.subscribeEach token handler topics).value.2.table.slots := by
  induction topics generalizing b with
  | nil => exact .refl _
  | cons x rest ih =>
    obtain ⟨topic, origin⟩ := x
    have hfirst := b.sameTopics_subscribe topic origin token handler
    unfold subscribeEach
    rw [Journaled.value_bind]
    generalize (b.subscribe topic origin token handler).value = y at hfirst ⊢
    obtain ⟨r, b'⟩ := y
    cases r with
    | ok _ => exact hfirst.trans (ih b')
    | error e => exact hfirst

/-- No topic comes or goes when somebody subscribes to all chosen ones. -/
theorem sameTopics_subscribeAll (b : Bus ω ρ) (payload : String) (token : Token) (s : Selection)
    (handler : Handler ω ρ) : b.table.slots.SameTopics
      (b.subscribeAll payload token s handler).value.2.table.slots := by
  unfold subscribeAll whileOpen
  split
  · exact .refl _
  · split
    · exact .refl _
    · exact b.sameTopics_subscribeEach token handler (b.planned payload s)

/-- Without a snapshot, look-ups tell whether somebody is free of topics. -/
theorem isFree_iff (hsnapshot : b.table.snapshot = none) (token : Token) (topics : List Topic) :
    b.table.IsFree token topics ↔ ∀ topic ∈ topics, b.isSubscribed token topic = false := by
  unfold Table.IsFree isSubscribed
  refine forall₂_congr fun topic _ => ?_
  rw [Table.slot?_of_snapshot hsnapshot]
  cases b.table.slots.find? topic with
  | none => exact ⟨fun _ => rfl, fun _ _ hslot => nomatch hslot⟩
  | some slot => exact ⟨fun h => h slot rfl, fun h slot' hslot => Option.some.inj hslot ▸ h⟩

/-- Whoever is subscribed to none of the chosen topics joins them. -/
theorem Gains.joined {topics : List Topic} (h : b.Gains topics (s.subscription token handler) b')
    (hsnapshot : b.table.snapshot = none)
    (hfree : b.table.IsFree token topics) (hsame : b.table.slots.SameTopics b'.table.slots) :
    b.table.Joined token topics b'.table := by
  have hsnapshot' : b'.table.snapshot = none := by
    rw [h.rest]
    exact hsnapshot
  refine ⟨congrArg table h.rest, hsame, ?_, ?_⟩
  · intro topic htopic
    obtain ⟨slot, hslot, hgained⟩ := h.gained topic htopic
    rw [Table.slot?_of_snapshot hsnapshot] at hslot
    rw [Table.slot?_of_snapshot hsnapshot'] at hgained
    have hnot : slot.holds token = false := hfree topic htopic slot hslot
    refine ⟨slot, _, hslot, hnot, hgained, ?_⟩
    exact Slot.remove?_gain (s.subscription token handler slot) hnot
  · intro topic hnot
    have hkept := h.kept topic hnot
    rw [Table.slot?_of_snapshot hsnapshot, Table.slot?_of_snapshot hsnapshot'] at hkept
    exact hkept

/-- Subscribing to all chosen topics goes well, and leaving them undoes it: it answers the same
number of topics, and the bus is what it would have been without. Enabling and disabling in between
makes no difference but to topics to which that one was subscribed already. -/
structure Undoes (b : Bus ω ρ) (payload : String) (token : Token) (s : Selection)
    (handler : Handler ω ρ) (n : Nat) (b' : Bus ω ρ) : Prop where
  subscribed : (b.subscribeAll payload token s handler).value = (.ok n, b')
  undone : ∀ xs, ((b'.after (toggles token xs)).unsubscribeAll payload token s).value =
    (.ok n, b.after (toggles token xs))
  restored : ∀ xs, (∀ x ∈ xs, b.isSubscribed token x.1 = false) →
    ((b'.after (toggles token xs)).unsubscribeAll payload token s).value = (.ok n, b)

/-- While registration is open, whoever is subscribed to none of the declared topics can subscribe
to all of them and leave them again. -/
theorem undoes_of_open (hopen : b.isLocked = false) (hsnapshot : b.table.snapshot = none)
    (handler : Handler ω ρ)
    (hfree : ∀ topic ∈ b.declaredTopics payload s, b.isSubscribed token topic = false) :
    ∃ n b', b.Undoes payload token s handler n b' := by
  have hall := subscribesAll_of_open hopen hsnapshot payload token s handler
  have hchosen : b.chosenTopics payload s ⊆ b.declaredTopics payload s := by
    intro topic htopic
    obtain ⟨hpayload, hdeclared, hadmits, -⟩ := mem_chosenTopics_iff.mp htopic
    exact mem_declaredTopics_iff.mpr ⟨hpayload, hdeclared, hadmits⟩
  have hdeclared : b.table.IsFree token (b.declaredTopics payload s) :=
    (isFree_iff hsnapshot token _).mpr hfree
  obtain ⟨b', hvalue, hgains, -⟩ := hall.success fun topic htopic => hfree topic (hchosen htopic)
  have hsame := b.sameTopics_subscribeAll payload token s handler
  rw [hvalue] at hsame
  have hjoined :=
    hgains.joined hsnapshot (fun topic htopic => hdeclared topic (hchosen htopic)) hsame
  have hrest : b' = { b with table := b'.table } := by
    rw [hgains.rest]
  have hopen' : b'.isLocked = false := by
    rw [hgains.rest]
    exact hopen
  have hundone (xs : List (Topic × Bool)) :
      ((b'.after (toggles token xs)).unsubscribeAll payload token s).value =
        (.ok (b.chosenTopics payload s).length, b.after (toggles token xs)) := by
    have hlocked : (b'.after (toggles token xs)).isLocked = false := by
      rw [after_toggles hopen']
      exact isLocked_toggles hopen' token xs
    have htopics : (b'.after (toggles token xs)).declaredTopics payload s =
        b.declaredTopics payload s := by
      rw [after_toggles hopen', hrest]
      rfl
    have hremoved := (hjoined.toggles xs).removeEach (b.nodup_chosenTopics payload s)
      (hdeclared.toggles xs) (b.nodup_declaredTopics payload s) hchosen 0
    rw [Nat.zero_add] at hremoved
    rw [value_unsubscribeAll hlocked, htopics, after_toggles hopen', after_toggles hopen, hremoved,
      hrest]
  refine ⟨_, b', congrArg Journaled.value hvalue, hundone, fun xs hxs => ?_⟩
  have hidle : b.table.IsFree token (xs.map Prod.fst) := by
    refine (isFree_iff hsnapshot token _).mpr fun topic htopic => ?_
    obtain ⟨x, hx, rfl⟩ := List.mem_map.mp htopic
    exact hxs x hx
  rw [hundone, after_toggles hopen,
    Table.toggles_of_isFree hidle fun x hx => List.mem_map_of_mem hx]

/-- Whatever was asked of a bus before, while registration is open: whoever is subscribed to none of
the topics that are chosen among those of controllers can subscribe to all of them and leave them
again, and nothing has changed. -/
theorem undoes_after (channel : String) (isServer : Bool) (requests : List (Request ω ρ))
    (payload : String) (token : Token) (s : Selection) (handler : Handler ω ρ)
    (hopen : ((new channel isServer).after requests).isLocked = false)
    (hfree : ∀ topic ∈ ((new channel isServer).after requests).declaredTopics payload s,
      ((new channel isServer).after requests).isSubscribed token topic = false) :
    ∃ n b', ((new channel isServer).after requests).Undoes payload token s handler n b' := by
  obtain ⟨p, hshows, -⟩ := shows_after channel isServer requests
  exact undoes_of_open hopen (hshows.snapshot_eq_none hopen) handler hfree

/-- Somebody new subscribes to the alarm that two controllers own, and leaves it again. -/
theorem undoes_after_sharedAlarm :
    ((new "named_events" false).after sharedAlarm).isLocked = false ∧
      (∀ topic ∈ ((new "named_events" false).after sharedAlarm).declaredTopics "i64" .all,
        ((new "named_events" false).after sharedAlarm).isSubscribed ⟨2⟩ topic = false) ∧
      ∃ n b', ((new "named_events" false).after sharedAlarm).Undoes "i64" ⟨2⟩ .all
        (.reading fun _ _ => []) n b' := by
  have hopen : ((new "named_events" false).after sharedAlarm).isLocked = false := by
    decide +kernel
  have hfree : ∀ topic ∈ ((new "named_events" false).after sharedAlarm).declaredTopics "i64" .all,
      ((new "named_events" false).after sharedAlarm).isSubscribed ⟨2⟩ topic = false := by
    decide +kernel
  exact ⟨hopen, hfree, undoes_after "named_events" false sharedAlarm "i64" ⟨2⟩ .all
    (.reading fun _ _ => []) hopen hfree⟩

/-- Somebody is subscribed to the alarm, which no controller owns; another topic has an owner. -/
def looseAlarm : List (Request Unit Nat) :=
  [.register alarm .localOnly, .subscribe alarm .localOnly ⟨1⟩ (.reading fun _ _ => []),
    .join ⟨"hull", fun _ => .registering ⟨.named "leak", "i64"⟩ .localOnly
      fun _ => .done (.ok ())⟩]

/-- The alarm is disabled between subscribing to all topics of controllers and leaving them, and
stays disabled. -/
theorem not_restored_looseAlarm :
    ((new "named_events" false).after looseAlarm).isLocked = false ∧
      (∀ topic ∈ ((new "named_events" false).after looseAlarm).declaredTopics "i64" .all,
        ((new "named_events" false).after looseAlarm).isSubscribed ⟨1⟩ topic = false) ∧
      ∃ b', (((new "named_events" false).after looseAlarm).subscribeAll "i64" ⟨1⟩ .all
          (.reading fun _ _ => [])).value = (.ok 1, b') ∧
        ((b'.after (toggles ⟨1⟩ [(alarm, false)])).unsubscribeAll "i64" ⟨1⟩ .all).value.1 = .ok 1 ∧
        ((b'.after (toggles ⟨1⟩ [(alarm, false)])).unsubscribeAll "i64" ⟨1⟩ .all).value.2.table ≠
          ((new "named_events" false).after looseAlarm).table := by
  refine ⟨by decide +kernel, by decide +kernel, _, Prod.ext (by decide +kernel) rfl,
    by decide +kernel, fun heq => ?_⟩
  have hcount := congrArg
    (fun t => ((Table.slot? t alarm).map fun slot => slot.enabled.length).getD 0) heq
  revert hcount
  decide +kernel

end Bus

end ModuleRuntime.Event
