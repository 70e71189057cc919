import ModuleRuntime.Proofs.Event.Edit
import ModuleRuntime.Proofs.Event.Simulation

/-!
# One-shot events

A topic is rearmed when that is asked for while it is registered, and when the bus shuts down.
Between two such points at most one of its one-shot events is delivered: the first that finds the
topic registered and, if it is raised, has an allowed target. It is delivered as any other event
would be. Nothing else sets a latch or resets it.
-/

set_option autoImplicit false

namespace ModuleRuntime.Event

variable {ω ρ : Type}

/-! ## Requests -/

namespace Request

/-- Whether a request is a one-shot event of a topic. -/
def isOneShot (topic : Topic) : Request ω ρ → Bool
  | .raise topic' _ oneShot _ => oneShot && decide (topic' = topic)
  | .receive topic' _ oneShot => oneShot && decide (topic' = topic)
  | _ => false

/-- Whether a request is a one-shot event of a topic and meets its allowed origins, if the topic is
registered with some. Only an event that is raised has a target. -/
def qualifies (topic : Topic) (allowed : Option Origin) : Request ω ρ → Bool
  | .raise topic' _ oneShot target =>
    oneShot && decide (topic' = topic) && allowed.any target.intersects
  | .receive topic' _ oneShot => oneShot && decide (topic' = topic) && allowed.isSome
  | _ => false

/-- Whether a request lets a topic fire again. -/
def rearms (topic : Topic) (isRegistered : Bool) : Request ω ρ → Bool
  | .rearm topic' => decide (topic' = topic) && isRegistered
  | .shutdown => true
  | _ => false

/-- The same event, which may now fire any number of times. -/
def repeatable : Request ω ρ → Request ω ρ
  | .raise topic payload _ target => .raise topic payload false target
  | .receive topic payload _ => .receive topic payload false
  | request => request

end Request

/-! ## Steps -/

/-- A request, and the bus that it comes to. -/
structure Step (ω ρ : Type) where
  bus : Bus ω ρ
  request : Request ω ρ

namespace Step

/-- The bus after the request. -/
def next (s : Step ω ρ) : Bus ω ρ :=
  (s.bus.perform s.request).value.2

/-- Whether a handler is called or an event is sent. -/
def delivers (s : Step ω ρ) : Bool :=
  Event.delivers (s.bus.perform s.request).journal

/-- Whether a one-shot event of a topic is delivered. -/
def fires (s : Step ω ρ) (topic : Topic) : Bool :=
  s.request.isOneShot topic && s.delivers

/-- Whether a one-shot event finds its topic registered and, if it is raised, has an allowed
target. -/
def qualifies (s : Step ω ρ) (topic : Topic) : Bool :=
  s.request.qualifies topic (s.bus.allowed? topic)

/-- Whether a topic may fire again. -/
def rearms (s : Step ω ρ) (topic : Topic) : Bool :=
  s.request.rearms topic (s.bus.isRegistered topic)

/-- The step with an event that may fire any number of times. -/
def repeatable (s : Step ω ρ) : Step ω ρ :=
  { s with request := s.request.repeatable }

end Step

/-- The steps by which a bus gets some requests. -/
def Bus.steps (b : Bus ω ρ) : List (Request ω ρ) → List (Step ω ρ)
  | [] => []
  | request :: rest => ⟨b, request⟩ :: (Step.mk b request).next.steps rest

/-- At most one one-shot event of a topic is delivered: the first that qualifies, if it would be
delivered without a latch. -/
structure FiresOnce (topic : Topic) (stretch : List (Step ω ρ)) : Prop where
  once : (stretch.filter (·.fires topic)).length ≤ 1
  first : stretch.filter (·.fires topic) =
    ((stretch.filter (·.qualifies topic)).take 1).filter (·.repeatable.delivers)

/-! ## Latches -/

namespace PlainBus

variable (p : PlainBus ω ρ) (topic topic' : Topic) (oneShot : Bool)

/-- Whether a topic has fired after the latch of a topic was set. -/
theorem hasFired_fired {slot : Slot ω ρ Bool} (h : p.slot? topic' = some slot) :
    (p.fired topic' slot oneShot).hasFired topic =
      (p.hasFired topic || (oneShot && decide (topic' = topic))) := by
  unfold fired latched?
  cases oneShot with
  | false => simp
  | true =>
    by_cases heq : topic' = topic
    · subst heq
      cases hlatch : slot.latch with
      | false => simp [hasFired_put]
      | true => simp [hasFired, h, hlatch]
    · cases slot.latch <;> simp [hasFired_put, heq]

/-- Whether a topic has fired after an event was raised. -/
theorem hasFired_raise (payload : ρ) (target : Origin) :
    (p.raise topic' payload oneShot target).value.2.hasFired topic =
      (p.hasFired topic || (oneShot && decide (topic' = topic) &&
        ((p.slot? topic).map (·.allowed)).any target.intersects)) := by
  rw [value_raise]
  cases hslot : p.slot? topic' with
  | none =>
    by_cases heq : topic' = topic
    · subst heq
      simp [hslot]
    · simp [heq]
  | some slot =>
    have hfired := p.hasFired_fired topic topic' oneShot hslot
    by_cases heq : topic' = topic
    · subst heq
      cases hmeets : target.intersects slot.allowed <;> simp [hslot, hmeets, hfired]
    · cases hmeets : target.intersects slot.allowed <;> simp [hmeets, heq, hfired]

/-- Whether a topic has fired after an event was received. -/
theorem hasFired_receive (payload : ρ) :
    (p.receive topic' payload oneShot).value.2.hasFired topic =
      (p.hasFired topic || (oneShot && decide (topic' = topic) &&
        ((p.slot? topic).map (·.allowed)).isSome)) := by
  rw [value_receive]
  cases hslot : p.slot? topic' with
  | none =>
    by_cases heq : topic' = topic
    · subst heq
      simp [hslot]
    · simp [heq]
  | some slot =>
    have hfired := p.hasFired_fired topic topic' oneShot hslot
    by_cases heq : topic' = topic
    · subst heq
      simp [hslot, hfired]
    · simp [heq, hfired]

/-- Whether a topic has fired after a topic was rearmed. -/
theorem hasFired_rearm :
    (p.rearm topic').2.hasFired topic =
      (!(decide (topic' = topic) && (p.slot? topic).isSome) && (p.hasFired topic || false)) := by
  unfold rearm
  by_cases heq : topic' = topic
  · subst heq
    cases hslot : p.slot? topic' <;> simp [hasFired, hslot]
  · cases p.slot? topic' <;> simp [hasFired_put, heq]

/-- Closing or opening registration does not change which topics have fired. -/
theorem hasFired_setLock (isLocked : Bool) :
    (p.setLock isLocked).hasFired topic = p.hasFired topic := by
  unfold setLock
  split <;> rfl

/-- A topic has fired after a request if it was not rearmed and has fired before or
qualified now. -/
theorem hasFired_perform (request : Request ω ρ) :
    (p.perform request).value.2.hasFired topic =
      (!request.rearms topic (p.slot? topic).isSome && (p.hasFired topic ||
        request.qualifies topic ((p.slot? topic).map (·.allowed)))) := by
  have hkept {p' : PlainBus ω ρ} (h : p'.hasFired topic = p.hasFired topic) :
      p'.hasFired topic = (!false && (p.hasFired topic || false)) := by
    rw [h]
    simp
  cases hedits : request.onlyEdits with
  | true =>
    have hsame : (p.perform request).value.2.hasFired topic = p.hasFired topic :=
      (edits_perform p hedits).hasFired topic
    cases request with
    | raise | raiseLocal | receive | rearm | setLock | start | ready | shutdown => cases hedits
    | _ => exact hkept hsame
  | false =>
    cases request with
    | raise topic' payload oneShot target =>
      exact p.hasFired_raise topic topic' oneShot payload target
    | raiseLocal topic' payload => exact p.hasFired_raise topic topic' false payload .localOnly
    | receive topic' payload oneShot => exact p.hasFired_receive topic topic' oneShot payload
    | rearm topic' => exact p.hasFired_rearm topic topic'
    | setLock isLocked => exact hkept (p.hasFired_setLock topic isLocked)
    | start => exact hkept (p.hasFired_setLock topic false)
    | ready => exact hkept (p.hasFired_setLock topic true)
    | shutdown => rfl
    | _ => cases hedits

end PlainBus

/-! ## One step -/

namespace Bus.Shows

variable {b : Bus ω ρ} {p : PlainBus ω ρ}

/-- A topic is triggered if it has fired on the plain bus. -/
theorem isTriggered (h : b.Shows p) (topic : Topic) : b.isTriggered topic = p.hasFired topic :=
  congrArg (fun latch => latch.getD false) (h.map_slot? topic (·.latch))

/-- The bus after a step shows the plain bus after it. -/
theorem next (h : b.Shows p) (request : Request ω ρ) :
    (Step.mk b request).next.Shows (p.perform request).value.2 :=
  (h.perform request).result.2

/-- Of all requests only those change a latch that qualify or rearm. -/
theorem isTriggered_next (h : b.Shows p) (request : Request ω ρ) (topic : Topic) :
    (Step.mk b request).next.isTriggered topic =
      (!(Step.mk b request).rearms topic &&
        (b.isTriggered topic || (Step.mk b request).qualifies topic)) := by
  have hallowed : b.allowed? topic = (p.slot? topic).map (·.allowed) :=
    h.map_slot? topic (·.allowed)
  rw [(h.next request).isTriggered, p.hasFired_perform]
  unfold Step.rearms Step.qualifies
  rw [h.isTriggered, h.isRegistered, hallowed]

end Bus.Shows

namespace Step

/-- A one-shot event is delivered exactly if its topic has not fired, it qualifies, and it would be
delivered without a latch. -/
theorem fires_eq (s : Step ω ρ) (topic : Topic) :
    s.fires topic =
      (!s.bus.isTriggered topic && s.qualifies topic && s.repeatable.delivers) := by
  obtain ⟨b, request⟩ := s
  unfold fires qualifies delivers repeatable
  cases request with
  | raise topic' payload oneShot target =>
    by_cases heq : topic' = topic
    · subst heq
      cases oneShot with
      | false => simp [Request.isOneShot, Request.qualifies]
      | true =>
        simp only [Request.isOneShot, Request.qualifies, Request.repeatable, Bus.perform,
          Journaled.journal_map, Bus.allowed?]
        cases hslot : b.table.slot? topic' with
        | none => simp [b.delivers_raise_of_slot?_none topic' payload _ hslot]
        | some slot =>
          simp only [b.delivers_raise_of_slot? topic' payload _ hslot,
            b.isTriggered_of_slot? topic' hslot, Bus.holdsBack]
          cases b.table.isSet slot.latch <;> cases hmeets : target.intersects slot.allowed <;>
            simp [hmeets]
    · simp [Request.isOneShot, Request.qualifies, heq]
  | receive topic' payload oneShot =>
    by_cases heq : topic' = topic
    · subst heq
      cases oneShot with
      | false => simp [Request.isOneShot, Request.qualifies]
      | true =>
        simp only [Request.isOneShot, Request.qualifies, Request.repeatable, Bus.perform,
          Journaled.journal_map, Bus.allowed?]
        cases hslot : b.table.slot? topic' with
        | none => simp [b.delivers_receive_of_slot?_none topic' payload _ hslot]
        | some slot =>
          simp only [b.delivers_receive_of_slot? topic' payload _ hslot,
            b.isTriggered_of_slot? topic' hslot, Bus.holdsBack]
          cases b.table.isSet slot.latch <;> simp
    · simp [Request.isOneShot, Request.qualifies, heq]
  | _ => simp [Request.isOneShot, Request.qualifies]

end Step

/-! ## Stretches -/

namespace Bus

variable {b : Bus ω ρ} {p : PlainBus ω ρ} {topic : Topic}

/-- By induction on the requests. Once an event has qualified the latch is set, and then nothing is
delivered any more. -/
theorem Shows.filter_fires (h : b.Shows p) (requests : List (Request ω ρ))
    (hno : ∀ s ∈ b.steps requests, s.rearms topic = false) :
    (b.steps requests).filter (·.fires topic) =
      if b.isTriggered topic then []
      else (((b.steps requests).filter (·.qualifies topic)).take 1).filter
        (·.repeatable.delivers) := by
  induction requests generalizing b p with
  | nil => simp [steps]
  | cons request rest ih =>
    have hstep : (Step.mk b request).rearms topic = false := hno _ List.mem_cons_self
    have hset := h.isTriggered_next request topic
    rw [hstep, Bool.not_false, Bool.true_and] at hset
    have hrest := ih (h.next request) fun s hs => hno s (List.mem_cons_of_mem _ hs)
    rw [hset] at hrest
    have hfires := (Step.mk b request).fires_eq topic
    unfold steps
    rw [List.filter_cons, List.filter_cons, hrest, hfires]
    dsimp only
    -- A latch that is set stays set, so this request and all later ones are held back.
    cases b.isTriggered topic with
    | true => simp
    | false => cases (Step.mk b request).qualifies topic <;> simp [List.filter_cons]

/-- A topic that has not fired and is not rearmed fires once at most, at the first step that
qualifies. -/
theorem Shows.firesOnce (h : b.Shows p) (hfresh : b.isTriggered topic = false)
    {requests : List (Request ω ρ)} (hno : ∀ s ∈ b.steps requests, s.rearms topic = false) :
    FiresOnce topic (b.steps requests) := by
  have hfirst := h.filter_fires requests hno
  rw [hfresh, if_neg Bool.false_ne_true] at hfirst
  refine ⟨?_, hfirst⟩
  rw [hfirst]
  calc _ ≤ (((b.steps requests).filter (·.qualifies topic)).take 1).length :=
        List.length_filter_le ..
    _ ≤ 1 := List.length_take_le ..

/-- Every bus that the requests come to is shown by a plain one. -/
theorem Shows.of_mem_steps (h : b.Shows p) {requests : List (Request ω ρ)} {s : Step ω ρ}
    (hs : s ∈ b.steps requests) : ∃ p', s.bus.Shows p' := by
  induction requests generalizing b p with
  | nil => nomatch hs
  | cons request rest ih =>
    rcases List.mem_cons.mp hs with rfl | hs
    · exact ⟨p, h⟩
    · exact ih (h.next request) hs

/-- The first stretch starts with the bus itself, and every other behind a step at which the steps
are parted. -/
theorem splitOnP_steps (b : Bus ω ρ) (parts : Step ω ρ → Bool) (requests : List (Request ω ρ)) :
    ∃ first others, (b.steps requests).splitOnP parts = b.steps first :: others ∧
      (∀ s ∈ b.steps first, parts s = false) ∧
      ∀ stretch ∈ others, ∃ s ∈ b.steps requests, parts s = true ∧
        ∃ later, stretch = s.next.steps later ∧ ∀ s ∈ stretch, parts s = false := by
  have hnone : ∀ (b : Bus ω ρ), ∀ s ∈ b.steps [], parts s = false :=
    fun _ _ hs => absurd hs List.not_mem_nil
  induction requests generalizing b with
  | nil => exact ⟨[], [], rfl, hnone b, fun _ hs => absurd hs List.not_mem_nil⟩
  | cons request rest ih =>
    obtain ⟨first, others, hsplit, hfirst, hothers⟩ := ih (Step.mk b request).next
    have hlater : ∀ stretch ∈ others, ∃ s ∈ b.steps (request :: rest), parts s = true ∧
        ∃ later, stretch = s.next.steps later ∧ ∀ s ∈ stretch, parts s = false := by
      intro stretch hstretch
      obtain ⟨s, hs, hfound⟩ := hothers stretch hstretch
      exact ⟨s, List.mem_cons_of_mem _ hs, hfound⟩
    have hcons := List.splitOnP_cons_eq_if_modifyHead (p := parts) ⟨b, request⟩
      ((Step.mk b request).next.steps rest)
    rw [hsplit] at hcons
    cases hparts : parts ⟨b, request⟩ with
    | true =>
      -- What was the first stretch starts behind this request.
      rw [hparts, if_pos rfl] at hcons
      refine ⟨[], _, hcons, hnone b, ?_⟩
      intro stretch hstretch
      rcases List.mem_cons.mp hstretch with rfl | hstretch
      · exact ⟨⟨b, request⟩, List.mem_cons_self, hparts, first, rfl, hfirst⟩
      · exact hlater stretch hstretch
    | false =>
      -- The request goes to the front of the first stretch.
      rw [hparts, if_neg Bool.false_ne_true] at hcons
      refine ⟨request :: first, others, hcons, ?_, hlater⟩
      intro s hs
      rcases List.mem_cons.mp hs with rfl | hs
      · exact hparts
      · exact hfirst s hs

/-- Only events that qualify set a latch and only requests that rearm reset it. Parted at the points
where a topic is rearmed, the steps of a bus make up stretches in which at most one of its one-shot
events is delivered, the first that qualifies. -/
theorem firesOnce_after (channel : String) (isServer : Bool) (requests : List (Request ω ρ))
    (topic : Topic) :
    (∀ s ∈ (new channel isServer).steps requests, s.next.isTriggered topic =
      (!s.rearms topic && (s.bus.isTriggered topic || s.qualifies topic))) ∧
    ∀ stretch ∈ ((new channel isServer).steps requests).splitOnP (·.rearms topic),
      FiresOnce topic stretch := by
  have hnew := shows_new (ω := ω) (ρ := ρ) channel isServer
  have hlatch : ∀ s ∈ (new channel isServer).steps requests, s.next.isTriggered topic =
      (!s.rearms topic && (s.bus.isTriggered topic || s.qualifies topic)) := by
    intro s hs
    obtain ⟨p, hp⟩ := hnew.of_mem_steps hs
    exact hp.isTriggered_next s.request topic
  refine ⟨hlatch, ?_⟩
  intro stretch hstretch
  obtain ⟨first, others, hsplit, hfirst, hothers⟩ :=
    (new channel isServer).splitOnP_steps (·.rearms topic) requests
  rw [hsplit] at hstretch
  rcases List.mem_cons.mp hstretch with rfl | hstretch
  · exact hnew.firesOnce rfl hfirst
  · obtain ⟨s, hs, hrearms, later, rfl, hno⟩ := hothers stretch hstretch
    obtain ⟨p, hp⟩ := hnew.of_mem_steps hs
    have hfresh : s.next.isTriggered topic = false := by
      rw [hlatch s hs, hrearms]
      rfl
    exact (hp.next s.request).firesOnce hfresh hno

/-- An event of the own process. -/
def alarm : Topic :=
  ⟨.named "alarm", "i64"⟩

/-- The alarm is refused at first, since the network is not allowed. Then it goes off, is held back
while the bus is locked, and goes off again after it has been rearmed. -/
def lockedAlarm : List (Request Unit Nat) :=
  [.register alarm .localOnly, .subscribe alarm .localOnly ⟨1⟩ (.reading fun _ _ => []),
    .raise alarm 0 true .networked, .raise alarm 1 true .localOnly, .ready,
    .raise alarm 2 true .localOnly, .rearm alarm, .raise alarm 3 true .both]

/-- The alarm goes off once before it is rearmed and once afterwards. -/
theorem firesOnce_after_lockedAlarm :
    (new "named_events" false).steps (lockedAlarm.take 6) ∈
      ((new "named_events" false).steps lockedAlarm).splitOnP (·.rearms alarm) ∧
    FiresOnce alarm ((new "named_events" false).steps (lockedAlarm.take 6)) ∧
    ((new "named_events" false).steps lockedAlarm).map (·.fires alarm) =
      [false, false, false, true, false, false, false, true] := by
  have hsplit : ((new "named_events" false).steps lockedAlarm).splitOnP (·.rearms alarm) =
      (new "named_events" false).steps (lockedAlarm.take 6) ::
        [((new "named_events" false).steps lockedAlarm).drop 7] := rfl
  have hin : (new "named_events" false).steps (lockedAlarm.take 6) ∈
      ((new "named_events" false).steps lockedAlarm).splitOnP (·.rearms alarm) := by
    rw [hsplit]
    exact List.mem_cons_self
  exact ⟨hin, (firesOnce_after "named_events" false lockedAlarm alarm).2 _ hin, rfl⟩

end Bus

end ModuleRuntime.Event
