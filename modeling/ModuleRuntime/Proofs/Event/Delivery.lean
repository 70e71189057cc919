import ModuleRuntime.Proofs.Event.Request

/-!
# Deliveries

What is seen when an event is raised or received. It reaches the enabled subscribers that take
events of its origin, in their order and each once; one that is raised for the network is sent then.
An event that may fire only once and has fired reaches nobody.
-/

set_option autoImplicit false

namespace ModuleRuntime.Event

variable {ω ρ κ α : Type}

/-! ## Origins -/

/-- Two origins have nothing in common iff they do not intersect. -/
theorem Origin.isEmpty_inter (a b : Origin) : (a.inter b).isEmpty = !a.intersects b := by
  simp [isEmpty, intersects, bne]

/-- A set of origins holds what it has in common with another. -/
theorem Origin.contains_inter (a b : Origin) : b.contains (a.inter b) = true := by
  simp only [contains, inter, beq_iff_eq, mk.injEq]
  rw [UInt8.and_comm a.bits b.bits, ← UInt8.and_assoc, UInt8.and_self]

/-! ## Calls of handlers -/

namespace Activity

/-- The subscriber whose handler is called. -/
def callee? : Activity ω ρ → Option Token
  | .called token _ _ => some token
  | _ => none

/-- Whether a handler is called or an event is sent. -/
def isDelivery : Activity ω ρ → Bool
  | .called _ _ _ => true
  | .sent _ => true
  | _ => false

end Activity

/-- The subscribers whose handlers are called, in the order of the calls. -/
def callees (activities : List (Activity ω ρ)) : List Token :=
  activities.filterMap Activity.callee?

/-- Whether a handler is called or an event is sent at all. -/
def delivers (activities : List (Activity ω ρ)) : Bool :=
  activities.any Activity.isDelivery

/-- The callees of some activities and then of others. -/
@[simp]
theorem callees_append (l m : List (Activity ω ρ)) :
    callees (l ++ m) = callees l ++ callees m :=
  List.filterMap_append

/-- The log has no part in the calls. -/
theorem callees_seen (l : List (Activity ω ρ)) : callees (seen l) = callees l := by
  unfold callees seen
  rw [List.filterMap_filter]
  congr 1
  funext a
  cases a <;> rfl

/-- What is seen tells whether there is a delivery. -/
theorem delivers_seen (l : List (Activity ω ρ)) : delivers (seen l) = delivers l := by
  unfold delivers seen
  rw [List.any_filter]
  congr 1
  funext a
  cases a <;> rfl

namespace Slot

/-- Calling a handler is seen as a call of its subscriber. -/
theorem callees_call (id : Id) (payload : ρ) (s : Subscription ω ρ) :
    callees (call id payload s).journal = [s.token] := by
  have htold : ∀ notes : List ω, callees (notes.map (.told : ω → Activity ω ρ)) = [] := by
    intro notes
    simp [callees, List.filterMap_map, Function.comp_def, Activity.callee?]
  show callees ([.called s.token id payload] ++ _) = _
  rw [callees_append, Journaled.journal_mapJournal, htold]
  rfl

/-- By induction on the subscriptions. The payload changes on the way. -/
theorem callees_foldlM_call (id : Id) (payload : ρ) (subscriptions : List (Subscription ω ρ)) :
    callees (subscriptions.foldlM (call id) payload).journal =
      subscriptions.map (·.token) := by
  induction subscriptions generalizing payload with
  | nil => rfl
  | cons s rest ih =>
    rw [List.foldlM_cons, Journaled.journal_bind, callees_append, callees_call, ih]
    rfl

/-- A delivery calls the eligible subscribers in their order. -/
theorem callees_deliver (s : Slot ω ρ κ) (id : Id) (payload : ρ) (origin : Origin) :
    callees (s.deliver id payload origin).journal = (s.eligible origin).map (·.token) := by
  unfold deliver
  rw [Journaled.journal_bind, callees_append, callees_foldlM_call]
  exact List.append_nil _

/-- The subscribers that a delivery reaches are among all of them, and in their order. -/
theorem sublist_eligible (s : Slot ω ρ κ) (origin : Origin) :
    (s.eligible origin).Sublist s.subscriptions :=
  List.filter_sublist.trans (List.sublist_append_left ..)

/-- A delivery that reaches nobody leaves no trace. -/
theorem deliver_of_eligible_nil {s : Slot ω ρ κ} {origin : Origin} (h : s.eligible origin = [])
    (id : Id) (payload : ρ) : s.deliver id payload origin = pure (0, payload) := by
  unfold deliver
  rw [h]
  rfl

end Slot

/-! ## Events on a bus -/

namespace Bus

/-- Whether an event is held back because it may fire only once and has fired. -/
def holdsBack (b : Bus ω ρ) (slot : Slot ω ρ Latch) (oneShot : Bool) : Bool :=
  oneShot && b.table.isSet slot.latch

/-- The bus after an event has been let through. -/
def latching (b : Bus ω ρ) (slot : Slot ω ρ Latch) (oneShot : Bool) : Bus ω ρ :=
  if oneShot then { b with table := b.table.setLatch slot.latch true } else b

/-- What happens to an event that is raised and let through: first the handlers of the own process,
then the network. -/
def letThrough (b : Bus ω ρ) (topic : Topic) (payload : ρ) (oneShot : Bool)
    (slot : Slot ω ρ Latch) (effective : Origin) : List (Activity ω ρ) :=
  let x : Journaled (Activity ω ρ) (Nat × ρ) :=
    if effective.hasLocal then slot.deliver topic.id payload .localOnly else pure (0, payload)
  x.journal ++
    if effective.hasNetworked then [.sent ⟨topic, x.value.2, oneShot, b.isServer⟩] else []

variable (b : Bus ω ρ) (topic : Topic) (payload : ρ) (slot : Slot ω ρ Latch) (oneShot : Bool)

/-- An event is held back, or its latch is set if it may fire only once. -/
theorem latched?_eq :
    b.latched? slot oneShot =
      if b.holdsBack slot oneShot then none else some (b.latching slot oneShot) := by
  unfold latched? holdsBack latching
  cases oneShot <;> cases b.table.isSet slot.latch <;> rfl

/-- Setting a latch does not change on which side the bus is. -/
theorem isServer_latching : (b.latching slot oneShot).isServer = b.isServer := by
  unfold latching
  split <;> rfl

/-- A topic has fired if the latch of its slot is set. -/
theorem isTriggered_of_slot? {slot : Slot ω ρ Latch} (h : b.table.slot? topic = some slot) :
    b.isTriggered topic = b.table.isSet slot.latch := by
  unfold isTriggered
  rw [h]
  rfl

/-- What is seen of a raise. -/
theorem seen_raise (target : Origin) :
    seen (b.raise topic payload oneShot target).journal =
      match b.table.slot? topic with
      | none => []
      | some slot =>
        if target.intersects slot.allowed && !b.holdsBack slot oneShot then
          seen (b.letThrough topic payload oneShot slot (target.inter slot.allowed))
        else [] := by
  unfold raise
  cases b.table.slot? topic with
  | none => rfl
  | some slot =>
    dsimp only
    rw [Origin.isEmpty_inter, latched?_eq]
    cases target.intersects slot.allowed with
    | false => rfl
    | true =>
      cases b.holdsBack slot oneShot with
      | true => rfl
      | false =>
        unfold letThrough send
        rw [← b.isServer_latching slot oneShot]
        simp only [Bool.not_true, Bool.false_eq_true, if_false, Bool.not_false, Bool.and_self,
          if_true]
        split <;> split <;> simp

/-- What receiving an event comes to. -/
theorem receive_eq :
    b.receive topic payload oneShot =
      match b.table.slot? topic with
      | none => do
        b.log .error "events.receive.unknown" "no registration for networked event"
          (topicFields topic)
        return ((0, payload), b)
      | some slot =>
        if b.holdsBack slot oneShot then pure ((0, payload), b)
        else (·, b.latching slot oneShot) <$> slot.deliver topic.id payload .networked := by
  unfold receive
  cases b.table.slot? topic with
  | none => rfl
  | some slot =>
    dsimp only
    rw [latched?_eq]
    cases b.holdsBack slot oneShot <;> rfl

/-- Whether an event may fire only once is all that the network learns of it. -/
theorem delivers_letThrough (effective : Origin) :
    delivers (b.letThrough topic payload oneShot slot effective) =
      delivers (b.letThrough topic payload false slot effective) := by
  unfold letThrough delivers
  rw [List.any_append, List.any_append]
  congr 1
  cases effective.hasNetworked <;> rfl

/-- When raising an event delivers something. -/
theorem delivers_raise_of_slot? {slot : Slot ω ρ Latch} (h : b.table.slot? topic = some slot)
    (target : Origin) :
    delivers (b.raise topic payload oneShot target).journal =
      (target.intersects slot.allowed && !b.holdsBack slot oneShot &&
        delivers (b.letThrough topic payload false slot (target.inter slot.allowed))) := by
  rw [← delivers_seen, seen_raise, h]
  dsimp only
  cases target.intersects slot.allowed && !b.holdsBack slot oneShot with
  | false => rfl
  | true =>
    rw [if_pos rfl, delivers_seen, delivers_letThrough]
    rfl

/-- Raising an event of an unknown topic delivers nothing. -/
theorem delivers_raise_of_slot?_none (h : b.table.slot? topic = none) (target : Origin) :
    delivers (b.raise topic payload oneShot target).journal = false := by
  rw [← delivers_seen, seen_raise, h]
  rfl

/-- When receiving an event delivers something. -/
theorem delivers_receive_of_slot? {slot : Slot ω ρ Latch} (h : b.table.slot? topic = some slot) :
    delivers (b.receive topic payload oneShot).journal =
      (!b.holdsBack slot oneShot &&
        delivers (slot.deliver topic.id payload .networked).journal) := by
  rw [receive_eq, h]
  dsimp only
  cases b.holdsBack slot oneShot with
  | true => rfl
  | false =>
    rw [if_neg Bool.false_ne_true, Journaled.journal_map]
    rfl

/-- Receiving an event of an unknown topic delivers nothing. -/
theorem delivers_receive_of_slot?_none (h : b.table.slot? topic = none) :
    delivers (b.receive topic payload oneShot).journal = false := by
  rw [receive_eq, h]
  rfl

/-- Those called by an event that is let through. -/
theorem callees_letThrough (effective : Origin) :
    callees (b.letThrough topic payload oneShot slot effective) =
      if effective.hasLocal then (slot.eligible .localOnly).map (·.token) else [] := by
  have hsent : ∀ x, callees (if effective.hasNetworked then [.sent x] else [] :
      List (Activity ω ρ)) = [] := by
    intro x
    split <;> rfl
  unfold letThrough
  rw [callees_append, hsent, List.append_nil]
  split
  · exact slot.callees_deliver topic.id payload .localOnly
  · rfl

/-- An event that is raised calls nobody, or the enabled subscribers for local events. -/
theorem callees_raise (target : Origin) :
    callees (b.raise topic payload oneShot target).journal = [] ∨
      ∃ slot, b.table.slot? topic = some slot ∧
        callees (b.raise topic payload oneShot target).journal =
          (slot.eligible .localOnly).map (·.token) := by
  rw [← callees_seen, seen_raise]
  cases b.table.slot? topic with
  | none => exact .inl rfl
  | some slot =>
    dsimp only
    split
    · rw [callees_seen, callees_letThrough]
      split
      · exact .inr ⟨slot, rfl, rfl⟩
      · exact .inl rfl
    · exact .inl rfl

/-- An event that is received calls nobody, or the enabled subscribers for networked events. -/
theorem callees_receive :
    callees (b.receive topic payload oneShot).journal = [] ∨
      ∃ slot, b.table.slot? topic = some slot ∧
        callees (b.receive topic payload oneShot).journal =
          (slot.eligible .networked).map (·.token) := by
  rw [receive_eq]
  cases b.table.slot? topic with
  | none => exact .inl rfl
  | some slot =>
    dsimp only
    split
    · exact .inl rfl
    · refine .inr ⟨slot, rfl, ?_⟩
      rw [Journaled.journal_map, Slot.callees_deliver]

end Bus

end ModuleRuntime.Event
