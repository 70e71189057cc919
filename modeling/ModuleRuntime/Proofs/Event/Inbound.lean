import ModuleRuntime.Proofs.Event.Consistency
import ModuleRuntime.Proofs.Event.OneShot

/-!
# Events from the network

A topic may allow the own process only. An event that is received for it then calls nobody and sends
nothing, since no subscriber takes events from the network. If it may fire only once it sets the
latch all the same, unlike an event that is raised for a target that is not allowed. The bus is then
the same but for the latch: the next one-shot event of the own process is held back, and rearming
the topic takes back everything that has come of the event from the network.
-/

set_option autoImplicit false

namespace ModuleRuntime.Event

variable {ω ρ κ : Type}

/-! ## Origins -/

namespace Origin

/-- The network is one bit. -/
theorem bits_and_networked (a : Origin) : a.bits &&& 4 = 0 ∨ a.bits &&& 4 = 4 := by
  have hbits : ∀ x : BitVec 8, x &&& 4 = 0 ∨ x &&& 4 = 4 := by decide +kernel
  obtain ⟨⟨x⟩⟩ := a
  rcases hbits x with h | h
  · exact .inl (congrArg UInt8.ofBitVec h)
  · exact .inr (congrArg UInt8.ofBitVec h)

/-- Origins without the network have no part that comes from there. -/
theorem intersects_networked_of_contains {a b : Origin} (h : a.contains b = true)
    (ha : a.hasNetworked = false) : b.intersects networked = false := by
  have hzero : a.bits &&& 4 = 0 := by
    rcases a.bits_and_networked with hzero | hfour
    · exact hzero
    · have hhas : a.hasNetworked = true := by simp [hasNetworked, contains, inter, networked, hfour]
      rw [hhas] at ha
      cases ha
  have hsub : a.bits &&& b.bits = b.bits := by
    simpa [contains, inter] using congrArg Origin.bits (beq_iff_eq.mp h)
  have hb : b.bits &&& 4 = 0 := by
    calc b.bits &&& 4 = a.bits &&& b.bits &&& 4 := by rw [hsub]
      _ = b.bits &&& (a.bits &&& 4) := by rw [UInt8.and_comm a.bits, UInt8.and_assoc]
      _ = 0 := by rw [hzero, UInt8.and_zero]
  simp [intersects, inter, networked, none, hb]

end Origin

/-- A slot that does not allow the network has nobody who takes events from there. -/
theorem Slot.Sound.eligible_networked {s : Slot ω ρ κ} (hs : s.Sound)
    (h : s.allowed.hasNetworked = false) : s.eligible .networked = [] := by
  unfold Slot.eligible
  rw [List.filter_eq_nil_iff]
  intro subscription hin
  have hmask := (hs.mask (List.mem_append_left _ hin)).2
  rw [Origin.intersects_networked_of_contains hmask h]
  exact Bool.false_ne_true

/-! ## Buses -/

namespace Bus

variable {b : Bus ω ρ} {p : PlainBus ω ρ} {topic : Topic} {slot : Slot ω ρ Latch}

/-- An event that no subscriber takes does nothing beside setting the latch. -/
theorem receive_of_eligible_nil (hslot : b.table.slot? topic = some slot)
    (hnone : slot.eligible .networked = []) (payload : ρ) (oneShot : Bool) :
    b.receive topic payload oneShot = pure ((0, payload),
      if b.holdsBack slot oneShot then b else b.latching slot oneShot) := by
  rw [receive_eq, hslot]
  dsimp only
  rw [Slot.deliver_of_eligible_nil hnone, map_pure]
  cases b.holdsBack slot oneShot <;> rfl

/-- Rearming a topic takes back that it has fired. -/
theorem rearm_latching (hslot : b.table.slot? topic = some slot) (oneShot : Bool) :
    (b.latching slot oneShot).rearm topic = b.rearm topic := by
  cases oneShot with
  | false => rfl
  | true =>
    have hsame : (b.latching slot true).table.slot? topic = some slot := hslot
    unfold rearm
    rw [hsame, hslot]
    simp [latching, Table.setLatch, List.set_set]

/-- An event that may fire only once is not delivered when its topic has fired. -/
theorem delivers_raise_of_isTriggered (h : b.isTriggered topic = true) (payload : ρ)
    (target : Origin) : delivers (b.raise topic payload true target).journal = false := by
  cases hslot : b.table.slot? topic with
  | none => exact b.delivers_raise_of_slot?_none topic payload true hslot target
  | some slot =>
    have hset : b.table.isSet slot.latch = true := by
      rw [← b.isTriggered_of_slot? topic hslot]
      exact h
    rw [b.delivers_raise_of_slot? topic payload true hslot]
    simp [holdsBack, hset]

/-- A one-shot event that is received sets the latch of its topic, whatever the topic allows. -/
theorem Shows.isTriggered_receive (h : b.Shows p) (hslot : b.table.slot? topic = some slot)
    (payload : ρ) (oneShot : Bool) :
    (b.receive topic payload oneShot).value.2.isTriggered topic =
      (b.isTriggered topic || oneShot) := by
  have hnext := h.isTriggered_next (.receive topic payload oneShot) topic
  have hqualifies : (Step.mk b (.receive topic payload oneShot)).qualifies topic = oneShot := by
    simp [Step.qualifies, Request.qualifies, allowed?, hslot]
  rw [hqualifies] at hnext
  exact hnext

/-- No client can tell two buses apart. -/
def IsLike (b b' : Bus ω ρ) : Prop :=
  ∀ (client : Client ω ρ) (n : Nat),
    play Bus.perform client n [] b = play Bus.perform client n [] b'

/-- Buses that differ in nothing that can be seen have fired the same topics. -/
theorem IsLike.isTriggered {b' : Bus ω ρ} (h : b.IsLike b') (topic : Topic) :
    b.isTriggered topic = b'.isTriggered topic := by
  have hreply := h (fun _ => .isTriggered topic) 1
  simpa [play, Bus.perform] using hreply

/-- An event from the network leaves no trace but the latch. The bus is as before, for itself and
for every client, exactly if the latch was set before or the event may fire more than once. -/
structure KeepsOut (b : Bus ω ρ) (topic : Topic) (payload : ρ) (oneShot : Bool) : Prop where
  unseen : (b.receive topic payload oneShot).journal = []
  answer : (b.receive topic payload oneShot).value.1 = (0, payload)
  rearm : (b.receive topic payload oneShot).value.2.rearm topic = b.rearm topic
  silenced (h : oneShot = true) (payload' : ρ) (target : Origin) :
    delivers ((b.receive topic payload oneShot).value.2.raise topic payload' true target).journal =
      false
  same : (b.receive topic payload oneShot).value.2 = b ↔
    oneShot = false ∨ b.isTriggered topic = true
  alike : (b.receive topic payload oneShot).value.2.IsLike b ↔
    oneShot = false ∨ b.isTriggered topic = true

/-- An event from the network reaches nobody if nobody takes events from there, and leaves nothing
but the latch. -/
theorem Shows.keepsOut (h : b.Shows p) (hslot : b.table.slot? topic = some slot)
    (hnone : slot.eligible .networked = []) (payload : ρ) (oneShot : Bool) :
    b.KeepsOut topic payload oneShot := by
  have hreceive := receive_of_eligible_nil hslot hnone payload oneShot
  have hset := h.isTriggered_receive hslot payload oneShot
  have hunchanged (hfree : oneShot = false ∨ b.isTriggered topic = true) :
      (b.receive topic payload oneShot).value.2 = b := by
    rw [hreceive]
    rcases hfree with rfl | hfired
    · rfl
    · rw [b.isTriggered_of_slot? topic hslot] at hfired
      cases oneShot <;> simp [holdsBack, latching, hfired]
  -- Conversely, a latch that is set now and was not before tells the buses apart.
  have hfree (hsame : (b.receive topic payload oneShot).value.2.isTriggered topic =
      b.isTriggered topic) : oneShot = false ∨ b.isTriggered topic = true := by
    rw [hset] at hsame
    cases oneShot with
    | false => exact .inl rfl
    | true => exact .inr (by simpa using hsame.symm)
  refine ⟨?_, ?_, ?_, ?_, ?_, ?_⟩
  · rw [hreceive]
    rfl
  · rw [hreceive]
    rfl
  · rw [hreceive, Journaled.value_pure]
    split
    · rfl
    · exact rearm_latching hslot oneShot
  · intro honeShot payload' target
    apply delivers_raise_of_isTriggered
    rw [hset, honeShot, Bool.or_true]
  · exact ⟨fun heq => hfree (congrArg (·.isTriggered topic) heq), hunchanged⟩
  · constructor
    · intro hlike
      exact hfree (hlike.isTriggered topic)
    · intro hcond client n
      rw [hunchanged hcond]

/-- Whatever has been asked of a bus, an event from the network at a topic that does not allow the
network leaves no trace but the latch. -/
theorem keepsOut_after (channel : String) (isServer : Bool) (requests : List (Request ω ρ))
    {topic : Topic} {allowed : Origin}
    (h : ((new channel isServer).after requests).allowed? topic = some allowed)
    (hlocal : allowed.hasNetworked = false) (payload : ρ) (oneShot : Bool) :
    ((new channel isServer).after requests).KeepsOut topic payload oneShot := by
  obtain ⟨p, hshows, hsound⟩ := shows_after channel isServer requests
  obtain ⟨slot, hslot, rfl⟩ := Option.map_eq_some_iff.mp h
  have hnone : slot.eligible .networked = [] :=
    ((hshows.consistent hsound).slot hslot).eligible_networked hlocal
  exact hshows.keepsOut hslot hnone payload oneShot

/-- The alarm goes off, unless it came from the network before. -/
theorem keepsOut_after_alarm :
    ((new "named_events" false).after (lockedAlarm.take 2)).allowed? alarm = some .localOnly ∧
    Origin.localOnly.hasNetworked = false ∧
    ((new "named_events" false).after (lockedAlarm.take 2)).KeepsOut alarm 7 true ∧
    delivers (((new "named_events" false).after (lockedAlarm.take 2)).raise alarm 8 true
      .localOnly).journal = true ∧
    delivers ((((new "named_events" false).after (lockedAlarm.take 2)).receive alarm 7
      true).value.2.raise alarm 8 true .localOnly).journal = false := by
  have hallowed : ((new "named_events" false).after (lockedAlarm.take 2)).allowed? alarm =
      some .localOnly := rfl
  have hkeeps := keepsOut_after "named_events" false (lockedAlarm.take 2) hallowed rfl 7 true
  exact ⟨hallowed, rfl, hkeeps, rfl, hkeeps.silenced rfl 8 .localOnly⟩

end Bus

end ModuleRuntime.Event
