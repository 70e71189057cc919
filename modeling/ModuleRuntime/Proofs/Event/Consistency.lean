import Mathlib.Data.List.Nodup
import ModuleRuntime.Proofs.Event.Edit
import ModuleRuntime.Proofs.Event.Simulation

/-!
# Consistent buses

Whatever is asked of a bus, and with whatever origins: every topic allows some origin, its
subscribers take events of some of the allowed origins and of no others, and nobody is subscribed to
it twice, be it enabled or disabled. Controllers stand for topics that are registered, each once,
and a cleared bus has neither topics nor controllers. So one event calls nobody twice.
-/

set_option autoImplicit false

namespace ModuleRuntime.Event

variable {ω ρ κ : Type}

/-! ## Slots -/

namespace Slot

/-- Some origin is allowed, every subscriber takes events of some of the allowed origins and of no
others, and nobody is subscribed twice. -/
structure Sound (s : Slot ω ρ κ) : Prop where
  allowed : s.allowed.isEmpty = false
  mask {subscription : Subscription ω ρ} (h : subscription ∈ s.subscriptions) :
    subscription.mask.isEmpty = false ∧ s.allowed.contains subscription.mask = true
  tokens : (s.subscriptions.map (·.token)).Nodup

namespace Sound

variable {s s' : Slot ω ρ κ} {subscription : Subscription ω ρ}

/-- A slot without subscribers is sound if it allows some origin. -/
theorem new {allowed : Origin} (h : allowed.isEmpty = false) (latch : κ) :
    (Slot.new allowed latch : Slot ω ρ κ).Sound :=
  ⟨h, nofun, List.nodup_nil⟩

/-- A slot with some of the subscriptions, in whatever order. -/
theorem subperm (hs : s.Sound) (hallowed : s'.allowed = s.allowed)
    (hsub : s'.subscriptions.Subperm s.subscriptions) : s'.Sound := by
  refine ⟨?_, ?_, ?_⟩
  · rw [hallowed]
    exact hs.allowed
  · intro subscription hin
    rw [hallowed]
    exact hs.mask (hsub.subset hin)
  · obtain ⟨l, hperm, hsublist⟩ := hsub
    have hl : (l.map (·.token)).Nodup := (hsublist.map _).nodup hs.tokens
    exact (hperm.map _).nodup_iff.mp hl

/-- Somebody who has no subscription yet can be added. -/
theorem add (hs : s.Sound) (hmask : subscription.mask.isEmpty = false)
    (hallowed : s.allowed.contains subscription.mask = true)
    (h : s.add? subscription = some s') : s'.Sound := by
  obtain ⟨hnew, rfl⟩ := add?_eq_some h
  have hperm : (s.enabled ++ [subscription] ++ s.disabled).Perm
      (subscription :: s.subscriptions) := by
    unfold subscriptions
    rw [List.append_assoc]
    exact List.perm_middle
  refine ⟨hs.allowed, ?_, ?_⟩
  · intro other hin
    rcases List.mem_cons.mp (hperm.mem_iff.mp hin) with rfl | hold
    · exact ⟨hmask, hallowed⟩
    · exact hs.mask hold
  · have hfresh : subscription.token ∉ s.subscriptions.map (·.token) := by
      intro hin
      obtain ⟨other, hother, htoken⟩ := List.mem_map.mp hin
      have hno : isOf subscription.token other = false := by
        simpa using List.any_eq_false.mp hnew other hother
      simp [isOf, htoken] at hno
    exact (hperm.map _).nodup_iff.mpr (List.nodup_cons.mpr ⟨hfresh, hs.tokens⟩)

/-- A revision of a slot keeps it sound. -/
theorem revised (hs : s.Sound) (h : s.Revised s') : s'.Sound := by
  cases h with
  | added hmask hallowed h => exact hs.add hmask hallowed h
  | removed h =>
    obtain ⟨hallowed, -, hsublist⟩ := remove?_eq_some h
    exact hs.subperm hallowed hsublist.subperm
  | switched h =>
    obtain ⟨hallowed, -, hperm⟩ := setEnabled?_eq_some h
    exact hs.subperm hallowed hperm.subperm

/-- A delivery reaches nobody twice. -/
theorem nodup_eligible (hs : s.Sound) (origin : Origin) :
    ((s.eligible origin).map (·.token)).Nodup :=
  ((s.sublist_eligible origin).map _).nodup hs.tokens

end Sound

end Slot

/-! ## Plain buses -/

namespace PlainBus

/-- All slots are sound, all topics of controllers are registered, and a cleared bus is empty. -/
structure Sound (p : PlainBus ω ρ) : Prop where
  slot {topic : Topic} {slot : Slot ω ρ Bool} (h : p.slot? topic = some slot) : slot.Sound
  controller {d : Declared} (h : d ∈ p.controllers) : p.Registers d
  cleared (h : p.phase = .cleared) : p.slots = .empty ∧ p.controllers = []

namespace Sound

variable {p p' : PlainBus ω ρ} {topic : Topic} {slot : Slot ω ρ Bool}

/-- A bus without topics is sound. -/
theorem new (channel : String) (isServer : Bool) :
    (PlainBus.new channel isServer : PlainBus ω ρ).Sound :=
  ⟨nofun, nofun, nofun⟩

/-- Of the slots after one was put, that one is sound and so are the others. -/
theorem put (hs : p.Sound) (hslot : slot.Sound) {topic' : Topic} {slot' : Slot ω ρ Bool}
    (h : (p.put topic slot).slot? topic' = some slot') : slot'.Sound := by
  rw [slot?_put] at h
  split at h
  · cases h
    exact hslot
  · exact hs.slot h

/-- An edit keeps a bus sound. -/
theorem edit (hs : p.Sound) (h : p.Edit p') : p'.Sound := by
  have hedits : p.Edits p' := .single h
  have hregisters {d : Declared} (hd : d ∈ p.controllers) : p'.Registers d :=
    hedits.registers (hs.controller hd)
  -- Edits need open registration, so a cleared bus gets none.
  have hphase : p'.phase = .unlocked := by
    rw [h.phase]
    cases h <;> assumption
  have hcleared (hp : p'.phase = .cleared) : p'.slots = .empty ∧ p'.controllers = [] :=
    nomatch hphase.symm.trans hp
  cases h with
  | topic _ _ hallowed => exact ⟨hs.put (.new hallowed false), hregisters, hcleared⟩
  | slot _ hslot hrevised => exact ⟨hs.put ((hs.slot hslot).revised hrevised), hregisters, hcleared⟩
  | controller _ hd =>
    refine ⟨hs.slot, ?_, hcleared⟩
    intro d' hd'
    rcases List.mem_append.mp hd' with hold | hnew
    · exact hregisters hold
    · rw [List.mem_singleton.mp hnew]
      exact hedits.registers hd

/-- By induction on the edits. -/
theorem edits (hs : p.Sound) (h : p.Edits p') : p'.Sound := by
  induction h with
  | refl => exact hs
  | tail _ hedit ih => exact ih.edit hedit

/-- A change keeps a bus sound. -/
theorem change (hs : p.Sound) (h : p.Change p') : p'.Sound := by
  cases h with
  | edits h => exact hs.edits h
  | phase hphase =>
    refine ⟨hs.slot, ?_, fun h => absurd h hphase⟩
    exact fun hd => (hs.controller hd).mono fun _ => id
  | @latch topic slot hslot value =>
    refine ⟨hs.put ?_, ?_, ?_⟩
    · exact ⟨(hs.slot hslot).allowed, (hs.slot hslot).mask, (hs.slot hslot).tokens⟩
    · intro d hd
      refine (hs.controller hd).mono ?_
      intro other hin
      rw [slot?_put]
      split
      · rfl
      · exact hin
    · intro hcleared
      have hnone : p.slot? topic = none := by
        unfold slot?
        rw [(hs.cleared hcleared).1]
        rfl
      rw [hnone] at hslot
      cases hslot
  | shutdown => exact ⟨nofun, nofun, fun _ => ⟨rfl, rfl⟩⟩

end Sound

end PlainBus

/-! ## Buses -/

namespace Bus

variable {b : Bus ω ρ} {p : PlainBus ω ρ}

/-- The bus after several requests. -/
def after (b : Bus ω ρ) (requests : List (Request ω ρ)) : Bus ω ρ :=
  requests.foldl (fun b request => (b.perform request).value.2) b

/-- Requests keep a bus and a sound plain bus together. -/
theorem Shows.after (h : b.Shows p) (hs : p.Sound) (requests : List (Request ω ρ)) :
    ∃ p', (b.after requests).Shows p' ∧ p'.Sound := by
  induction requests generalizing b p with
  | nil => exact ⟨p, h, hs⟩
  | cons request rest ih =>
    have hnext := (h.perform request).result.2
    exact ih hnext (hs.change (.perform p request))

/-- After every run the bus shows a sound plain bus. -/
theorem shows_after (channel : String) (isServer : Bool) (requests : List (Request ω ρ)) :
    ∃ p, ((new channel isServer : Bus ω ρ).after requests).Shows p ∧ p.Sound :=
  (shows_new channel isServer).after (.new channel isServer) requests

/-- Look-ups read the slots themselves, be there a snapshot or not. All slots are sound, controllers
have registered topics for each type of payload, none of them twice, and a cleared bus has neither
topics nor controllers. -/
structure Consistent (b : Bus ω ρ) : Prop where
  view : b.table.view = b.table.slots
  slot {topic : Topic} {slot : Slot ω ρ Latch} (h : b.table.slot? topic = some slot) : slot.Sound
  controller {d : Declared} (h : d ∈ b.controllers) (payload : String) :
    (d.idsOf payload).Nodup ∧ ∀ id ∈ d.idsOf payload, b.isRegistered ⟨id, payload⟩ = true
  cleared (h : b.table.phase = .cleared) :
    b.registrationCount = 0 ∧ (∀ topic, b.isRegistered topic = false) ∧ b.controllers = []

/-- The ids that a controller has for a type of payload belong to topics that it has. -/
theorem mem_idsOf {d : Declared} {payload : String} {id : Id} (h : id ∈ d.idsOf payload) :
    (⟨id, payload⟩ : Topic) ∈ d.topics := by
  unfold Declared.idsOf at h
  obtain ⟨topic, htopic, rfl⟩ := List.mem_map.mp h
  obtain ⟨hin, hpayload⟩ := List.mem_filter.mp htopic
  have hsame : topic.payload = payload := by simpa using hpayload
  rw [← hsame]
  exact hin

/-- Topics with one type of payload differ in their ids. -/
theorem nodup_idsOf {d : Declared} (h : d.topics.Nodup) (payload : String) :
    (d.idsOf payload).Nodup := by
  unfold Declared.idsOf
  refine List.Nodup.map_on ?_ (h.filter _)
  intro topic htopic topic' htopic' hid
  have hpayload : topic.payload = payload := by simpa using (List.mem_filter.mp htopic).2
  have hpayload' : topic'.payload = payload := by simpa using (List.mem_filter.mp htopic').2
  cases topic
  cases topic'
  simp_all

/-- A bus that shows a sound plain bus is consistent. -/
theorem Shows.consistent (h : b.Shows p) (hs : p.Sound) : b.Consistent := by
  refine ⟨h.table.view, ?_, ?_, ?_⟩
  · intro topic slot hslot
    have hsound : (slot.mapLatch b.table.isSet).Sound := by
      apply hs.slot
      rw [h.slot? topic, hslot]
      rfl
    exact ⟨hsound.allowed, hsound.mask, hsound.tokens⟩
  · intro d hd payload
    rw [← h.controllers] at hd
    have hregisters := hs.controller hd
    refine ⟨nodup_idsOf hregisters.nodup payload, ?_⟩
    intro id hid
    rw [h.isRegistered]
    exact hregisters.registered (mem_idsOf hid)
  · intro hcleared
    rw [← h.phase] at hcleared
    obtain ⟨hslots, hcontrollers⟩ := hs.cleared hcleared
    refine ⟨?_, ?_, ?_⟩
    · have hsize := h.table.size
      rw [hslots] at hsize
      exact hsize.symm
    · intro topic
      rw [h.isRegistered]
      unfold PlainBus.slot?
      rw [hslots]
      rfl
    · rw [← h.controllers]
      exact hcontrollers

/-- Raising an event on a consistent bus calls nobody twice. -/
theorem Consistent.nodup_raise (hb : b.Consistent) (topic : Topic) (payload : ρ) (oneShot : Bool)
    (target : Origin) : (callees (b.raise topic payload oneShot target).journal).Nodup := by
  rcases b.callees_raise topic payload oneShot target with hnone | ⟨slot, hslot, hcallees⟩
  · rw [hnone]
    exact List.nodup_nil
  · rw [hcallees]
    exact (hb.slot hslot).nodup_eligible .localOnly

/-- Receiving an event on a consistent bus calls nobody twice. -/
theorem Consistent.nodup_receive (hb : b.Consistent) (topic : Topic) (payload : ρ)
    (oneShot : Bool) : (callees (b.receive topic payload oneShot).journal).Nodup := by
  rcases b.callees_receive topic payload oneShot with hnone | ⟨slot, hslot, hcallees⟩
  · rw [hnone]
    exact List.nodup_nil
  · rw [hcallees]
    exact (hb.slot hslot).nodup_eligible .networked

/-- After all requests a bus is consistent, and an event that is raised or received calls nobody
twice. -/
theorem consistent_after (channel : String) (isServer : Bool) (requests : List (Request ω ρ)) :
    ((new channel isServer).after requests).Consistent ∧
      ∀ (topic : Topic) (payload : ρ) (oneShot : Bool),
        (∀ target : Origin, (callees (((new channel isServer).after requests).raise topic payload
          oneShot target).journal).Nodup) ∧
        (callees (((new channel isServer).after requests).receive topic payload
          oneShot).journal).Nodup := by
  obtain ⟨p, hshows, hsound⟩ := shows_after channel isServer requests
  have hconsistent := hshows.consistent hsound
  refine ⟨hconsistent, ?_⟩
  intro topic payload oneShot
  exact ⟨fun target => hconsistent.nodup_raise topic payload oneShot target,
    hconsistent.nodup_receive topic payload oneShot⟩

end Bus

end ModuleRuntime.Event
