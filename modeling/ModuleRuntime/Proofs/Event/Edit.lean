import Mathlib.Data.List.Perm.Subperm
import Mathlib.Logic.Relation
import ModuleRuntime.Proofs.Event.Delivery
import ModuleRuntime.Proofs.Event.PlainBus

/-!
# Edits

While registration is open a bus is edited in three ways: a topic is added, the subscribers of a
topic are revised, or a controller is recorded. No edit changes which events have fired. Whatever
else a request does, it changes the phase, sets or resets one latch, or drops everything.
-/

set_option autoImplicit false

namespace ModuleRuntime.Event

open Relation (ReflTransGen)

variable {ω ρ κ α : Type}

/-! ## Revisions of a slot -/

namespace Slot

/-- A slot after one change of its subscribers. A new subscriber takes events of some of the allowed
origins. -/
inductive Revised (s : Slot ω ρ κ) : Slot ω ρ κ → Prop where
  | added {subscription : Subscription ω ρ} {s' : Slot ω ρ κ}
      (hmask : subscription.mask.isEmpty = false)
      (hallowed : s.allowed.contains subscription.mask = true)
      (h : s.add? subscription = some s') : Revised s s'
  | removed {token : Token} {s' : Slot ω ρ κ} (h : s.remove? token = some s') : Revised s s'
  | switched {token : Token} {isEnabled : Bool} {s' : Slot ω ρ κ}
      (h : s.setEnabled? token isEnabled = some s') : Revised s s'

variable {s s' : Slot ω ρ κ} {subscription : Subscription ω ρ} {token : Token}

/-- A slot takes a subscription behind its enabled ones, and only of somebody who has none yet. -/
theorem add?_eq_some (h : s.add? subscription = some s') :
    s.holds subscription.token = false ∧
      s' = { s with enabled := s.enabled ++ [subscription] } := by
  unfold add? at h
  split at h
  · cases h
  · next hnew =>
    refine ⟨?_, (Option.some.inj h).symm⟩
    simpa using hnew

/-- A slot from which somebody is removed has fewer subscriptions and else is the same. -/
theorem remove?_eq_some (h : s.remove? token = some s') :
    s'.allowed = s.allowed ∧ s'.latch = s.latch ∧
      s'.subscriptions.Sublist s.subscriptions := by
  unfold remove? at h
  split at h
  · cases h
    exact ⟨rfl, rfl, List.eraseP_sublist.append (.refl _)⟩
  · split at h
    · cases h
      exact ⟨rfl, rfl, (List.Sublist.refl _).append List.eraseP_sublist⟩
    · cases h

/-- Nobody is lost when a subscription goes from one list to the other. -/
theorem perm_of_move? {source destination source' destination' : List (Subscription ω ρ)}
    (h : move? token source destination = some (source', destination')) :
    (source' ++ destination').Perm (source ++ destination) := by
  unfold move? at h
  split at h
  · next found hfound =>
    obtain ⟨hof, before, behind, rfl, hbefore⟩ := List.find?_eq_some_iff_append.mp hfound
    have herase : (before ++ found :: behind).eraseP (isOf token) = before ++ behind := by
      rw [List.eraseP_append_right _ (by simpa using hbefore), List.eraseP_cons_of_pos hof]
    obtain ⟨rfl, rfl⟩ := Prod.mk.inj (Option.some.inj h)
    rw [herase]
    -- The subscription that is found goes behind the others of its new list.
    calc before ++ behind ++ (destination ++ [found])
        = before ++ ((behind ++ destination) ++ [found]) := by simp
      List.Perm _ (before ++ ([found] ++ (behind ++ destination))) :=
        List.perm_append_comm.append_left before
      _ = before ++ found :: behind ++ destination := by simp
  · split at h
    · obtain ⟨rfl, rfl⟩ := Prod.mk.inj (Option.some.inj h)
      exact .refl _
    · cases h

/-- A slot where somebody is enabled or disabled has the same subscriptions and else is the same. -/
theorem setEnabled?_eq_some {isEnabled : Bool} (h : s.setEnabled? token isEnabled = some s') :
    s'.allowed = s.allowed ∧ s'.latch = s.latch ∧ s'.subscriptions.Perm s.subscriptions := by
  unfold setEnabled? at h
  cases isEnabled with
  | true =>
    obtain ⟨⟨disabled, enabled⟩, hmove, rfl⟩ := Option.map_eq_some_iff.mp h
    refine ⟨rfl, rfl, ?_⟩
    calc (enabled ++ disabled).Perm (disabled ++ enabled) := List.perm_append_comm
      List.Perm _ (s.disabled ++ s.enabled) := perm_of_move? hmove
      List.Perm _ (s.enabled ++ s.disabled) := List.perm_append_comm
  | false =>
    obtain ⟨⟨enabled, disabled⟩, hmove, rfl⟩ := Option.map_eq_some_iff.mp h
    exact ⟨rfl, rfl, perm_of_move? hmove⟩

namespace Revised

/-- A revised slot allows the same origins. -/
theorem allowed (h : s.Revised s') : s'.allowed = s.allowed := by
  cases h with
  | added _ _ h => rw [(add?_eq_some h).2]
  | removed h => exact (remove?_eq_some h).1
  | switched h => exact (setEnabled?_eq_some h).1

/-- A revised slot has the same latch. -/
theorem latch (h : s.Revised s') : s'.latch = s.latch := by
  cases h with
  | added _ _ h => rw [(add?_eq_some h).2]
  | removed h => exact (remove?_eq_some h).2.1
  | switched h => exact (setEnabled?_eq_some h).2.1

end Revised

end Slot

/-- Whether a request does nothing but edit, if it does anything. -/
def Request.onlyEdits : Request ω ρ → Bool
  | .raise .. | .raiseLocal .. | .receive .. | .rearm _ | .setLock _ | .start | .ready
  | .shutdown => false
  | _ => true

/-! ## Edits of a plain bus -/

namespace PlainBus

variable {p p' : PlainBus ω ρ} {topic : Topic} {slot : Slot ω ρ Bool}

/-- A slot that is put for a topic is found for that topic and for no other. -/
@[simp]
theorem slot?_put (p : PlainBus ω ρ) (topic topic' : Topic) (slot : Slot ω ρ Bool) :
    (p.put topic slot).slot? topic' = if topic = topic' then some slot else p.slot? topic' :=
  Dictionary.find?_put p.slots topic topic' slot

/-- Whether a registered topic has fired. -/
def hasFired (p : PlainBus ω ρ) (topic : Topic) : Bool :=
  ((p.slot? topic).map (·.latch)).getD false

/-- Whether a topic has fired after a slot was put for a topic. -/
theorem hasFired_put (p : PlainBus ω ρ) (topic topic' : Topic) (slot : Slot ω ρ Bool) :
    (p.put topic slot).hasFired topic' =
      if topic = topic' then slot.latch else p.hasFired topic' := by
  unfold hasFired
  rw [slot?_put]
  split <;> rfl

/-- A controller has each of its topics once, and all of them are registered. -/
structure Registers (p : PlainBus ω ρ) (d : Declared) : Prop where
  nodup : d.topics.Nodup
  registered {topic : Topic} (h : topic ∈ d.topics) : (p.slot? topic).isSome = true

/-- Topics that stay registered are all that matters. -/
theorem Registers.mono {d : Declared} (hd : p.Registers d)
    (h : ∀ topic, (p.slot? topic).isSome = true → (p'.slot? topic).isSome = true) :
    p'.Registers d :=
  ⟨hd.nodup, fun hin => h _ (hd.registered hin)⟩

/-- A controller gets one more registered topic. -/
theorem Registers.add {d : Declared} (hd : p.Registers d)
    (hin : (p.slot? topic).isSome = true) : p.Registers (d.add topic) := by
  unfold Declared.add
  split
  · exact hd
  · next hnew =>
    have hfresh : ∀ other ∈ d.topics, other ≠ topic := by
      rintro other hother rfl
      simp [hother] at hnew
    refine ⟨?_, ?_⟩
    · simpa [List.nodup_append, hd.nodup] using hfresh
    · intro other hother
      rcases List.mem_append.mp hother with hold | heq
      · exact hd.registered hold
      · rw [List.mem_singleton.mp heq]
        exact hin

/-- One change that needs open registration. -/
inductive Edit (p : PlainBus ω ρ) : PlainBus ω ρ → Prop where
  | topic {topic : Topic} {allowed : Origin} (hopen : p.phase = .unlocked)
      (hnew : p.slot? topic = none) (hallowed : allowed.isEmpty = false) :
      Edit p (p.put topic (.new allowed false))
  | slot {topic : Topic} {slot slot' : Slot ω ρ Bool} (hopen : p.phase = .unlocked)
      (hslot : p.slot? topic = some slot) (hrevised : slot.Revised slot') :
      Edit p (p.put topic slot')
  | controller {d : Declared} (hopen : p.phase = .unlocked) (hd : p.Registers d) :
      Edit p { p with controllers := p.controllers ++ [d] }

/-- Any number of edits, one after the other. -/
def Edits : PlainBus ω ρ → PlainBus ω ρ → Prop :=
  ReflTransGen Edit

namespace Edit

/-- An edit leaves the phase alone. -/
theorem phase (h : p.Edit p') : p'.phase = p.phase := by
  cases h <;> rfl

/-- A topic keeps its allowed origins and its latch. -/
theorem slot? (h : p.Edit p') (hslot : p.slot? topic = some slot) :
    ∃ slot', p'.slot? topic = some slot' ∧ slot'.allowed = slot.allowed ∧
      slot'.latch = slot.latch := by
  cases h with
  | @topic topic' allowed _ hnew _ =>
    have hne : topic' ≠ topic := by
      rintro rfl
      rw [hnew] at hslot
      cases hslot
    exact ⟨slot, by simp [hne, hslot], rfl, rfl⟩
  | @slot topic' old new _ hold hrevised =>
    by_cases heq : topic' = topic
    · subst heq
      rw [hold] at hslot
      cases hslot
      exact ⟨new, by simp, hrevised.allowed, hrevised.latch⟩
    · exact ⟨slot, by simp [heq, hslot], rfl, rfl⟩
  | controller => exact ⟨slot, hslot, rfl, rfl⟩

/-- An edit does not change which topics have fired. -/
theorem hasFired (h : p.Edit p') (topic : Topic) : p'.hasFired topic = p.hasFired topic := by
  cases hslot : p.slot? topic with
  | some slot =>
    obtain ⟨slot', hslot', -, hlatch⟩ := h.slot? hslot
    simp [PlainBus.hasFired, hslot, hslot', hlatch]
  | none =>
    have hold : p.hasFired topic = false := by simp [PlainBus.hasFired, hslot]
    rw [hold]
    cases h with
    | topic => simp [hasFired_put, Slot.new, hold]
    | @slot topic' old new _ hfound _ =>
      have hne : topic' ≠ topic := by
        rintro rfl
        rw [hslot] at hfound
        cases hfound
      simp [hasFired_put, hne, hold]
    | controller => exact hold

end Edit

namespace Edits

/-- No edit at all. -/
theorem refl : p.Edits p :=
  ReflTransGen.refl

/-- Edits leave the phase alone. -/
theorem phase (h : p.Edits p') : p'.phase = p.phase := by
  induction h with
  | refl => rfl
  | tail _ hedit ih => exact hedit.phase.trans ih

/-- A topic keeps its slot through edits, with the same origins and latch. -/
theorem slot? (h : p.Edits p') (hslot : p.slot? topic = some slot) :
    ∃ slot', p'.slot? topic = some slot' ∧ slot'.allowed = slot.allowed ∧
      slot'.latch = slot.latch := by
  induction h with
  | refl => exact ⟨slot, hslot, rfl, rfl⟩
  | tail _ hedit ih =>
    obtain ⟨slot', hslot', hallowed, hlatch⟩ := ih
    obtain ⟨slot'', hslot'', hallowed', hlatch'⟩ := hedit.slot? hslot'
    exact ⟨slot'', hslot'', hallowed'.trans hallowed, hlatch'.trans hlatch⟩

/-- A topic that is registered stays so through edits. -/
theorem isSome_slot? (h : p.Edits p') (hin : (p.slot? topic).isSome = true) :
    (p'.slot? topic).isSome = true := by
  obtain ⟨slot, hslot⟩ := Option.isSome_iff_exists.mp hin
  obtain ⟨slot', hslot', -⟩ := h.slot? hslot
  rw [hslot']
  rfl

/-- The topics that a controller has collected stay registered through edits. -/
theorem registers (h : p.Edits p') {d : Declared} (hd : p.Registers d) : p'.Registers d :=
  hd.mono fun _ => h.isSome_slot?

/-- Edits do not change which topics have fired. -/
theorem hasFired (h : p.Edits p') (topic : Topic) : p'.hasFired topic = p.hasFired topic := by
  induction h with
  | refl => rfl
  | tail _ hedit ih => exact (hedit.hasFired topic).trans ih

end Edits

/-! ## Requests that edit -/

/-- What is done while registration is open edits the bus, if only it does so while that is open. -/
theorem edits_whileOpen {action event : String} {x : Result α × PlainBus ω ρ}
    (h : p.phase = .unlocked → p.Edits x.2) : p.Edits (p.whileOpen action event x).2 := by
  unfold whileOpen
  split
  · exact .refl
  · next hlocked =>
    apply h
    simpa [isLocked] using hlocked

/-- A change of the slot of a topic is an edit if it revises the slot. -/
theorem edit_change? {f : Slot ω ρ Bool → Option (Slot ω ρ Bool)} (hopen : p.phase = .unlocked)
    (hf : ∀ slot slot', p.slot? topic = some slot → f slot = some slot' → slot.Revised slot')
    (h : p.change? topic f = some p') : p.Edit p' := by
  obtain ⟨slot', hbind, rfl⟩ := Option.map_eq_some_iff.mp h
  obtain ⟨slot, hslot, hslot'⟩ := Option.bind_eq_some_iff.mp hbind
  exact .slot hopen hslot (hf slot slot' hslot hslot')

/-- Registering a topic edits the bus. -/
theorem edits_register (p : PlainBus ω ρ) (topic : Topic) (allowed : Origin) :
    p.Edits (p.register topic allowed).2 := by
  unfold register
  split
  · exact .refl
  · next hallowed =>
    apply edits_whileOpen
    intro hopen
    split
    · exact .refl
    · next hnew => exact .single (.topic hopen hnew (by simpa using hallowed))

/-- A topic that has been registered without an error is registered afterwards. -/
theorem isSome_slot?_register {allowed : Origin} {u : Unit}
    (h : (p.register topic allowed).1 = .ok u) :
    ((p.register topic allowed).2.slot? topic).isSome = true := by
  unfold register whileOpen at h ⊢
  split at h
  · cases h
  · split at h
    · cases h
    · next hallowed hopen =>
      rw [if_neg hallowed, if_neg hopen]
      split
      · next hslot => simp [hslot]
      · simp

/-- Subscribing somebody edits the bus. -/
theorem edits_subscribe (p : PlainBus ω ρ) (topic : Topic) (origin : Origin) (token : Token)
    (handler : Handler ω ρ) : p.Edits (p.subscribe topic origin token handler).2 := by
  apply edits_whileOpen
  intro hopen
  split
  · exact .refl
  · next hmask =>
    split
    · exact .refl
    · next slot hslot =>
      split
      · exact .refl
      · next hallowed =>
        split
        · next hadd =>
          refine .single (.slot hopen hslot (.added ?_ ?_ hadd))
          · simpa using hmask
          · simpa using hallowed
        · exact .refl

/-- Removing somebody edits the bus. -/
theorem edits_unsubscribe (p : PlainBus ω ρ) (topic : Topic) (token : Token) :
    p.Edits (p.unsubscribe topic token).2 := by
  apply edits_whileOpen
  intro hopen
  split
  · next hchange => exact .single (edit_change? hopen (fun _ _ _ => .removed) hchange)
  · exact .refl

/-- Enabling or disabling somebody edits the bus. -/
theorem edits_setEnabled (p : PlainBus ω ρ) (topic : Topic) (token : Token) (isEnabled : Bool) :
    p.Edits (p.setEnabled topic token isEnabled).2 := by
  apply edits_whileOpen
  intro hopen
  split
  · next hchange => exact .single (edit_change? hopen (fun _ _ _ => .switched) hchange)
  · exact .refl

/-- By induction on the work of the controller. The topics that it has collected so far are
registered, each once. -/
theorem edits_runSetup (setup : Setup ω α) {d : Declared} (hd : p.Registers d) :
    p.Edits (p.runSetup d setup).value.2.1 ∧
      (p.runSetup d setup).value.2.1.Registers (p.runSetup d setup).value.2.2 := by
  induction setup generalizing p d with
  | done a => exact ⟨.refl, hd⟩
  | telling note next ih => exact ih hd
  | registering topic allowed next ih =>
    have hedits := edits_register p topic allowed
    have hin := @isSome_slot?_register _ _ p topic allowed
    unfold runSetup
    generalize p.register topic allowed = y at hedits hin
    obtain ⟨r, p'⟩ := y
    have hd' := hedits.registers hd
    cases r with
    | error e =>
      obtain ⟨hrest, hregisters⟩ := ih (.error e) hd'
      exact ⟨hedits.trans hrest, hregisters⟩
    | ok u =>
      -- A topic is collected only behind its registration.
      have hadd : p'.Registers (d.add topic) := hd'.add (hin rfl)
      obtain ⟨hrest, hregisters⟩ := ih (.ok topic.id) hadd
      exact ⟨hedits.trans hrest, hregisters⟩

/-- A controller that joins edits the bus. -/
theorem edits_join (p : PlainBus ω ρ) (c : Controller ω) : p.Edits (p.join c).value.2 := by
  unfold join
  split
  · exact .refl
  · next hlocked =>
    have hopen : p.phase = .unlocked := by simpa [isLocked] using hlocked
    have hnothing : p.Registers ⟨c.name, []⟩ := ⟨List.nodup_nil, fun h => nomatch h⟩
    obtain ⟨hedits, hregisters⟩ := edits_runSetup (c.define p.isServer) hnothing
    rw [Journaled.value_bind]
    generalize (p.runSetup ⟨c.name, []⟩ (c.define p.isServer)).value = y at hedits hregisters
    obtain ⟨r, p', d⟩ := y
    cases r with
    | error e => exact hedits
    | ok _ => exact hedits.tail (.controller (hedits.phase.trans hopen) hregisters)

/-- By induction on the topics. Each of them is an edit, leaves the bus as it is, or ends it. -/
theorem edits_subscribeEach (p : PlainBus ω ρ) (token : Token) (handler : Handler ω ρ)
    (topics : List (Topic × Origin)) : p.Edits (p.subscribeEach token handler topics).2 := by
  induction topics generalizing p with
  | nil => exact .refl
  | cons x rest ih =>
    obtain ⟨topic, origin⟩ := x
    have hfirst := edits_subscribe p topic origin token handler
    unfold subscribeEach
    generalize p.subscribe topic origin token handler = y at hfirst ⊢
    obtain ⟨r, p'⟩ := y
    cases r with
    | ok _ => exact hfirst.trans (ih p')
    | error e => exact hfirst

/-- Subscribing to all chosen topics edits the bus. -/
theorem edits_subscribeAll (p : PlainBus ω ρ) (payload : String) (token : Token) (s : Selection)
    (handler : Handler ω ρ) : p.Edits (p.subscribeAll payload token s handler).2 := by
  apply edits_whileOpen
  intro _
  split
  · exact .refl
  · exact edits_subscribeEach p token handler _

/-- By induction on the topics. Each of them is an edit, leaves the bus as it is, or ends it. -/
theorem edits_unsubscribeEach (p : PlainBus ω ρ) (token : Token) (count : Nat)
    (topics : List Topic) : p.Edits (p.unsubscribeEach token count topics).2 := by
  induction topics generalizing p count with
  | nil => exact .refl
  | cons topic rest ih =>
    have hfirst := edits_unsubscribe p topic token
    unfold unsubscribeEach
    generalize p.unsubscribe topic token = y at hfirst ⊢
    obtain ⟨r, p'⟩ := y
    cases r with
    | ok isFound => exact hfirst.trans (ih p' _)
    | error e => exact hfirst

/-- Leaving all chosen topics edits the bus. -/
theorem edits_unsubscribeAll (p : PlainBus ω ρ) (payload : String) (token : Token)
    (s : Selection) : p.Edits (p.unsubscribeAll payload token s).2 := by
  apply edits_whileOpen
  intro _
  exact edits_unsubscribeEach p token 0 _

/-- Every request that is one of registration edits the bus. -/
theorem edits_perform (p : PlainBus ω ρ) {request : Request ω ρ}
    (h : request.onlyEdits = true) : p.Edits (p.perform request).value.2 := by
  cases request with
  | register topic allowed => exact edits_register p topic allowed
  | join controller => exact edits_join p controller
  | subscribe topic origin token handler => exact edits_subscribe p topic origin token handler
  | unsubscribe topic token warn => exact edits_unsubscribe p topic token
  | setEnabled topic token isEnabled => exact edits_setEnabled p topic token isEnabled
  | subscribeAll payload token selection handler =>
    exact edits_subscribeAll p payload token selection handler
  | unsubscribeAll payload token selection => exact edits_unsubscribeAll p payload token selection
  | raise | raiseLocal | receive | rearm | setLock | start | ready | shutdown => cases h
  | isRegistered | allowed | subscriberCount | enabledCount | isTriggered | registrationCount
  | controllerNames | isLocked | phase | channel | isServer => exact .refl

/-! ## Requests that fire -/

/-- The bus after an event has been let through or held back. -/
def fired (p : PlainBus ω ρ) (topic : Topic) (slot : Slot ω ρ Bool) (oneShot : Bool) :
    PlainBus ω ρ :=
  (p.latched? topic slot oneShot).getD p

/-- Raising an event sets the latch of its topic, or does nothing, to the bus. -/
theorem value_raise (p : PlainBus ω ρ) (topic : Topic) (payload : ρ) (oneShot : Bool)
    (target : Origin) :
    (p.raise topic payload oneShot target).value.2 =
      match p.slot? topic with
      | none => p
      | some slot =>
        if target.intersects slot.allowed then p.fired topic slot oneShot else p := by
  unfold raise fired
  cases p.slot? topic with
  | none => rfl
  | some slot =>
    dsimp only
    rw [Origin.isEmpty_inter]
    cases target.intersects slot.allowed with
    | false => rfl
    | true =>
      cases p.latched? topic slot oneShot with
      | none => rfl
      | some p' =>
        simp only [Bool.not_true, Bool.false_eq_true, if_false, if_true, Option.getD_some]
        split <;> split <;> rfl

/-- Receiving an event sets the latch of its topic, or does nothing, to the bus. -/
theorem value_receive (p : PlainBus ω ρ) (topic : Topic) (payload : ρ) (oneShot : Bool) :
    (p.receive topic payload oneShot).value.2 =
      match p.slot? topic with
      | none => p
      | some slot => p.fired topic slot oneShot := by
  unfold receive fired
  cases p.slot? topic with
  | none => rfl
  | some slot =>
    dsimp only
    cases p.latched? topic slot oneShot <;> rfl

/-! ## All requests -/

/-- What a request can do to a bus. -/
inductive Change (p : PlainBus ω ρ) : PlainBus ω ρ → Prop where
  | edits {p' : PlainBus ω ρ} (h : p.Edits p') : Change p p'
  | phase {phase : Phase} (h : phase ≠ .cleared) : Change p { p with phase := phase }
  | latch {topic : Topic} {slot : Slot ω ρ Bool} (hslot : p.slot? topic = some slot)
      (value : Bool) : Change p (p.put topic { slot with latch := value })
  | shutdown : Change p p.shutdown

namespace Change

/-- Nothing changes. -/
theorem refl : p.Change p :=
  .edits .refl

/-- Setting the latch of a topic is a change. -/
theorem fired (hslot : p.slot? topic = some slot) (oneShot : Bool) :
    p.Change (p.fired topic slot oneShot) := by
  unfold PlainBus.fired latched?
  cases oneShot with
  | false => exact .refl
  | true =>
    cases slot.latch with
    | true => exact .refl
    | false => exact .latch hslot true

/-- Raising an event makes a change at most. -/
theorem raise (p : PlainBus ω ρ) (topic : Topic) (payload : ρ) (oneShot : Bool)
    (target : Origin) : p.Change (p.raise topic payload oneShot target).value.2 := by
  rw [value_raise]
  split
  · exact .refl
  · next hslot =>
    split
    · exact .fired hslot oneShot
    · exact .refl

/-- Receiving an event makes a change at most. -/
theorem receive (p : PlainBus ω ρ) (topic : Topic) (payload : ρ) (oneShot : Bool) :
    p.Change (p.receive topic payload oneShot).value.2 := by
  rw [value_receive]
  split
  · exact .refl
  · next hslot => exact .fired hslot oneShot

/-- Closing or opening registration makes a change at most. -/
theorem setLock (p : PlainBus ω ρ) (isLocked : Bool) : p.Change (p.setLock isLocked) := by
  unfold PlainBus.setLock
  split
  · exact .refl
  · cases isLocked with
    | true => exact .phase nofun
    | false => exact .phase nofun

/-- Every request makes a change at most. -/
theorem perform (p : PlainBus ω ρ) (request : Request ω ρ) :
    p.Change (p.perform request).value.2 := by
  cases hedits : request.onlyEdits with
  | true => exact .edits (edits_perform p hedits)
  | false =>
    cases request with
    | raise topic payload oneShot target => exact .raise p topic payload oneShot target
    | raiseLocal topic payload => exact .raise p topic payload false .localOnly
    | receive topic payload oneShot => exact .receive p topic payload oneShot
    | rearm topic =>
      show p.Change (p.rearm topic).2
      unfold rearm
      split
      · next hslot => exact .latch hslot false
      · exact .refl
    | setLock isLocked => exact .setLock p isLocked
    | start => exact .setLock p false
    | ready => exact .setLock p true
    | shutdown => exact .shutdown
    | _ => cases hedits

end Change

end PlainBus

end ModuleRuntime.Event
