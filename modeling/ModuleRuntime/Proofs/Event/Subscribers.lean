import ModuleRuntime.Proofs.Event.Bulk

/-!
# The subscribers of a topic

What one request does to the subscribers of a topic. Somebody new goes behind all others, and so
does somebody who was disabled and is enabled again; all other requests leave those who stay enabled
in their order.
-/

set_option autoImplicit false

namespace ModuleRuntime.Event

variable {ω ρ κ α : Type}

/-! ## Lists of subscriptions -/

/-- The subscriptions of a topic. The enabled ones stand in the order in which they are called. -/
structure Subscribers (ω ρ : Type) where
  enabled : List (Subscription ω ρ)
  disabled : List (Subscription ω ρ)

namespace Subscribers

/-- Nobody is subscribed. -/
def empty : Subscribers ω ρ :=
  ⟨[], []⟩

/-- Who is enabled. -/
def enabledTokens (r : Subscribers ω ρ) : List Token :=
  r.enabled.map (·.token)

/-- Who is subscribed. -/
def tokens (r : Subscribers ω ρ) : List Token :=
  (r.enabled ++ r.disabled).map (·.token)

variable {r r' r'' : Subscribers ω ρ} {token : Token}

/-- Who is enabled is subscribed. -/
theorem mem_tokens_of_mem_enabledTokens (h : token ∈ r.enabledTokens) : token ∈ r.tokens := by
  unfold tokens
  rw [List.map_append]
  exact List.mem_append_left _ h

/-- Nobody is subscribed who was not, and those who stay enabled keep their order. -/
structure Shrinks (r r' : Subscribers ω ρ) : Prop where
  enabledTokens : r'.enabledTokens.Sublist r.enabledTokens
  tokens : r'.tokens ⊆ r.tokens

namespace Shrinks

/-- Nothing has happened. -/
theorem refl (r : Subscribers ω ρ) : r.Shrinks r :=
  ⟨.refl _, fun _ => id⟩

/-- One request after another. -/
theorem trans (h : r.Shrinks r') (h' : r'.Shrinks r'') : r.Shrinks r'' :=
  ⟨h'.enabledTokens.trans h.enabledTokens, fun _ hin => h.tokens (h'.tokens hin)⟩

/-- Everybody is dropped. -/
theorem empty (r : Subscribers ω ρ) : r.Shrinks .empty :=
  ⟨List.nil_sublist _, List.nil_subset _⟩

end Shrinks

/-- What a request does to the subscribers of a topic: nobody is added, or somebody new joins behind
all others, or somebody who was disabled is enabled again and goes behind all others. -/
inductive Changes (request : Request ω ρ) (topic : Topic) (r r' : Subscribers ω ρ) : Prop where
  | shrinks (h : r.Shrinks r')
  | joins {token : Token} (hnew : token ∉ r.tokens)
      (henabled : r'.enabledTokens = r.enabledTokens ++ [token])
      (htokens : ∀ t ∈ r'.tokens, t ∈ r.tokens ∨ t = token)
  | returns {token : Token} (hrequest : request = .setEnabled topic token true)
      (hdisabled : token ∉ r.enabledTokens)
      (henabled : r'.enabledTokens = r.enabledTokens ++ [token]) (htokens : r'.tokens ⊆ r.tokens)

namespace Changes

variable {request : Request ω ρ} {topic : Topic} {t : Token}

/-- At most one subscriber is enabled, and goes behind all others. -/
theorem enabledTokens_cases (h : r.Changes request topic r') :
    r'.enabledTokens.Sublist r.enabledTokens ∨
      ∃ t, t ∉ r.enabledTokens ∧ r'.enabledTokens = r.enabledTokens ++ [t] := by
  cases h with
  | shrinks h => exact .inl h.enabledTokens
  | joins hnew henabled _ =>
    exact .inr ⟨_, fun hin => hnew (mem_tokens_of_mem_enabledTokens hin), henabled⟩
  | returns _ hdisabled henabled _ => exact .inr ⟨_, hdisabled, henabled⟩

/-- At most one subscriber is new. -/
theorem exists_joining (h : r.Changes request topic r') (hnew : t ∉ r.tokens)
    (hin : t ∈ r'.tokens) :
    r'.enabledTokens = r.enabledTokens ++ [t] ∧ ∀ t' ∈ r'.tokens, t' ∈ r.tokens ∨ t' = t := by
  cases h with
  | shrinks h => exact absurd (h.tokens hin) hnew
  | returns _ _ _ htokens => exact absurd (htokens hin) hnew
  | joins _ henabled htokens =>
    obtain rfl := (htokens t hin).resolve_left hnew
    exact ⟨henabled, htokens⟩

/-- Who becomes enabled is new, or the request is to enable that one. -/
theorem joins_or_returns (h : r.Changes request topic r') (hnot : t ∉ r.enabledTokens)
    (hin : t ∈ r'.enabledTokens) :
    (t ∉ r.tokens ∧ t ∈ r'.tokens) ∨ request = .setEnabled topic t true := by
  have hlast {token : Token} (henabled : r'.enabledTokens = r.enabledTokens ++ [token]) :
      t = token := by
    rw [henabled] at hin
    exact List.mem_singleton.mp ((List.mem_append.mp hin).resolve_left hnot)
  cases h with
  | shrinks h => exact absurd (h.enabledTokens.subset hin) hnot
  | joins hnew henabled _ =>
    obtain rfl := hlast henabled
    exact .inl ⟨hnew, mem_tokens_of_mem_enabledTokens hin⟩
  | returns hrequest _ henabled _ =>
    obtain rfl := hlast henabled
    exact .inr hrequest

end Changes

end Subscribers

namespace Slot

/-- The subscriptions of a slot. -/
def subscribers (s : Slot ω ρ κ) : Subscribers ω ρ :=
  ⟨s.enabled, s.disabled⟩

variable {s s' : Slot ω ρ κ} {token : Token}

/-- A slot holds those who are among its subscribers. -/
theorem mem_tokens_subscribers : token ∈ s.subscribers.tokens ↔ s.holds token = true := by
  unfold holds
  rw [List.any_eq_true]
  show token ∈ s.subscriptions.map (·.token) ↔ _
  rw [List.mem_map]
  simp [isOf]

/-- Who is new goes behind all others. -/
theorem changes_gain {subscription : Subscription ω ρ} (hnew : s.holds subscription.token = false)
    (request : Request ω ρ) (topic : Topic) :
    s.subscribers.Changes request topic (s.gain subscription).subscribers := by
  have hjoins : subscription.token ∉ s.subscribers.tokens := by
    rw [mem_tokens_subscribers, hnew]
    exact Bool.false_ne_true
  refine .joins hjoins ?_ ?_
  · unfold Subscribers.enabledTokens subscribers gain
    rw [List.map_append]
    rfl
  · intro t ht
    simp only [Subscribers.tokens, subscribers, gain, List.map_append, List.mem_append,
      List.map_singleton, List.mem_singleton] at ht ⊢
    rcases ht with (ht | rfl) | ht
    · exact .inl (.inl ht)
    · exact .inr rfl
    · exact .inl (.inr ht)

/-- Removing somebody from a slot leaves the others in their order. -/
theorem shrinks_remove? (h : s.remove? token = some s') : s.subscribers.Shrinks s'.subscribers := by
  have hsublist := (remove?_eq_some h).2.2
  refine ⟨?_, (hsublist.map _).subset⟩
  unfold remove? at h
  split at h
  · cases h
    exact List.eraseP_sublist.map _
  · split at h
    · cases h
      exact .refl _
    · cases h

/-- Who is disabled leaves the others where they stand. -/
theorem shrinks_setEnabled?_false (h : s.setEnabled? token false = some s') :
    s.subscribers.Shrinks s'.subscribers := by
  have hperm := (setEnabled?_eq_some h).2.2
  refine ⟨?_, (hperm.map _).subset⟩
  obtain ⟨⟨enabled, disabled⟩, hmove, rfl⟩ := Option.map_eq_some_iff.mp h
  unfold move? at hmove
  split at hmove
  · cases hmove
    exact List.eraseP_sublist.map _
  · split at hmove
    · cases hmove
      exact .refl _
    · cases hmove

/-- Who is enabled has been so before, or comes from the disabled and goes behind all others. -/
theorem setEnabled?_true (hs : s.Sound) (h : s.setEnabled? token true = some s') :
    s.subscribers.Shrinks s'.subscribers ∨
      token ∉ s.subscribers.enabledTokens ∧
        s'.subscribers.enabledTokens = s.subscribers.enabledTokens ++ [token] ∧
        s'.subscribers.tokens ⊆ s.subscribers.tokens := by
  have hperm := (setEnabled?_eq_some h).2.2
  obtain ⟨⟨disabled, enabled⟩, hmove, rfl⟩ := Option.map_eq_some_iff.mp h
  unfold move? at hmove
  split at hmove
  · next found hfound =>
    cases hmove
    have htoken : found.token = token := by simpa [isOf] using List.find?_some hfound
    have hin : token ∈ s.disabled.map (·.token) :=
      List.mem_map.mpr ⟨found, List.mem_of_find?_eq_some hfound, htoken⟩
    -- Nobody stands in both lists.
    have hnodup : (s.enabled.map (·.token) ++ s.disabled.map (·.token)).Nodup := by
      rw [← List.map_append]
      exact hs.tokens
    refine .inr ⟨?_, ?_, (hperm.map _).subset⟩
    · intro henabled
      exact (List.nodup_append.mp hnodup).2.2 token henabled token hin rfl
    · unfold Subscribers.enabledTokens subscribers
      rw [List.map_append, List.map_singleton, htoken]
  · split at hmove
    · cases hmove
      exact .inl (.refl _)
    · cases hmove

end Slot

/-! ## Requests to a plain bus -/

namespace PlainBus

/-- The subscriptions of a topic. -/
def subscribers (p : PlainBus ω ρ) (topic : Topic) : Subscribers ω ρ :=
  ((p.slot? topic).map (·.subscribers)).getD .empty

variable {p p' p'' : PlainBus ω ρ} {topic : Topic} {slot : Slot ω ρ Bool}

/-- The subscribers of a topic are those of its slot. -/
theorem subscribers_of_slot? (h : p.slot? topic = some slot) :
    p.subscribers topic = slot.subscribers := by
  unfold subscribers
  rw [h]
  rfl

/-- The subscribers of a topic after a slot was put for a topic. -/
theorem subscribers_put (p : PlainBus ω ρ) (topic topic' : Topic) (slot : Slot ω ρ Bool) :
    (p.put topic slot).subscribers topic' =
      if topic = topic' then slot.subscribers else p.subscribers topic' := by
  unfold subscribers
  rw [slot?_put]
  split <;> rfl

/-- No topic has a subscriber that it did not have, and those who stay enabled for a topic keep
their order. -/
def Shrinks (p p' : PlainBus ω ρ) : Prop :=
  ∀ topic, (p.subscribers topic).Shrinks (p'.subscribers topic)

namespace Shrinks

/-- Nothing has happened. -/
theorem refl (p : PlainBus ω ρ) : p.Shrinks p :=
  fun _ => .refl _

/-- One request after another. -/
theorem trans (h : p.Shrinks p') (h' : p'.Shrinks p'') : p.Shrinks p'' :=
  fun topic => (h topic).trans (h' topic)

/-- A slot is put for its topic that has nobody new. -/
theorem put (h : (p.subscribers topic).Shrinks slot.subscribers) :
    p.Shrinks (p.put topic slot) := by
  intro topic'
  rw [subscribers_put]
  split
  · next heq => exact heq ▸ h
  · exact .refl _

/-- What is done while registration is open, or refused. -/
theorem whileOpen {action event : String} {x : Result α × PlainBus ω ρ} (h : p.Shrinks x.2) :
    p.Shrinks (p.whileOpen action event x).2 := by
  unfold PlainBus.whileOpen
  split
  · exact .refl p
  · exact h

/-- The slot of a topic is changed to one that has nobody new. -/
theorem change? {f : Slot ω ρ Bool → Option (Slot ω ρ Bool)}
    (hf : ∀ slot slot', f slot = some slot' → slot.subscribers.Shrinks slot'.subscribers)
    (h : p.change? topic f = some p') : p.Shrinks p' := by
  obtain ⟨slot', hbind, rfl⟩ := Option.map_eq_some_iff.mp h
  obtain ⟨slot, hslot, hslot'⟩ := Option.bind_eq_some_iff.mp hbind
  apply put
  rw [subscribers_of_slot? hslot]
  exact hf slot slot' hslot'

/-- A topic that is registered has no subscribers yet. -/
theorem register (p : PlainBus ω ρ) (topic : Topic) (allowed : Origin) :
    p.Shrinks (p.register topic allowed).2 := by
  unfold PlainBus.register
  split
  · exact .refl p
  · apply whileOpen
    split
    · exact .refl p
    · exact put (.empty _)

/-- By induction on the work of the controller, which does nothing but register topics. -/
theorem runSetup (setup : Setup ω α) (p : PlainBus ω ρ) (d : Declared) :
    p.Shrinks (p.runSetup d setup).value.2.1 := by
  induction setup generalizing p d with
  | done a => exact .refl p
  | telling note next ih => exact ih p d
  | registering topic allowed next ih =>
    have hregister := register p topic allowed
    unfold PlainBus.runSetup
    generalize p.register topic allowed = y at hregister
    obtain ⟨r, p'⟩ := y
    cases r with
    | ok u => exact hregister.trans (ih _ p' _)
    | error e => exact hregister.trans (ih _ p' d)

/-- A controller that joins subscribes nobody. -/
theorem join (p : PlainBus ω ρ) (c : Controller ω) : p.Shrinks (p.join c).value.2 := by
  unfold PlainBus.join
  split
  · exact .refl p
  · have hsetup := runSetup (c.define p.isServer) p ⟨c.name, []⟩
    rw [Journaled.value_bind]
    generalize (p.runSetup ⟨c.name, []⟩ (c.define p.isServer)).value = y at hsetup
    obtain ⟨r, p', d⟩ := y
    cases r with
    | ok u => exact hsetup
    | error e => exact hsetup

/-- Removing somebody from a topic leaves the others in their order. -/
theorem unsubscribe (p : PlainBus ω ρ) (topic : Topic) (token : Token) :
    p.Shrinks (p.unsubscribe topic token).2 := by
  apply whileOpen
  split
  · next hchange => exact change? (fun _ _ => Slot.shrinks_remove?) hchange
  · exact .refl p

/-- By induction on the topics, from each of which somebody is removed. -/
theorem unsubscribeEach (p : PlainBus ω ρ) (token : Token) (count : Nat) (topics : List Topic) :
    p.Shrinks (p.unsubscribeEach token count topics).2 := by
  induction topics generalizing p count with
  | nil => exact .refl p
  | cons topic rest ih =>
    have hfirst := unsubscribe p topic token
    unfold PlainBus.unsubscribeEach
    generalize p.unsubscribe topic token = y at hfirst ⊢
    obtain ⟨r, p'⟩ := y
    cases r with
    | ok isFound => exact hfirst.trans (ih p' _)
    | error e => exact hfirst

/-- Removing somebody from all chosen topics leaves the others in their order. -/
theorem unsubscribeAll (p : PlainBus ω ρ) (payload : String) (token : Token) (s : Selection) :
    p.Shrinks (p.unsubscribeAll payload token s).2 :=
  whileOpen (unsubscribeEach p token 0 _)

/-- Setting a latch leaves the subscribers alone. -/
theorem fired (hslot : p.slot? topic = some slot) (oneShot : Bool) :
    p.Shrinks (p.fired topic slot oneShot) := by
  have hlatch : p.Shrinks (p.put topic { slot with latch := true }) := by
    apply put
    rw [subscribers_of_slot? hslot]
    exact .refl _
  unfold PlainBus.fired latched?
  cases oneShot with
  | false => exact .refl p
  | true =>
    cases slot.latch with
    | true => exact .refl p
    | false => exact hlatch

/-- Raising an event leaves the subscribers alone. -/
theorem raise (p : PlainBus ω ρ) (topic : Topic) (payload : ρ) (oneShot : Bool)
    (target : Origin) : p.Shrinks (p.raise topic payload oneShot target).value.2 := by
  rw [value_raise]
  split
  · exact .refl p
  · next hslot =>
    split
    · exact fired hslot oneShot
    · exact .refl p

/-- Receiving an event leaves the subscribers alone. -/
theorem receive (p : PlainBus ω ρ) (topic : Topic) (payload : ρ) (oneShot : Bool) :
    p.Shrinks (p.receive topic payload oneShot).value.2 := by
  rw [value_receive]
  split
  · exact .refl p
  · next hslot => exact fired hslot oneShot

/-- Rearming a topic leaves the subscribers alone. -/
theorem rearm (p : PlainBus ω ρ) (topic : Topic) : p.Shrinks (p.rearm topic).2 := by
  unfold PlainBus.rearm
  split
  · next slot hslot =>
    apply put
    rw [subscribers_of_slot? hslot]
    exact .refl _
  · exact .refl p

/-- Closing or opening registration leaves the subscribers alone. -/
theorem setLock (p : PlainBus ω ρ) (isLocked : Bool) : p.Shrinks (p.setLock isLocked) := by
  unfold PlainBus.setLock
  split
  · exact .refl p
  · exact .refl p

/-- A bus that is shut down has no subscribers. -/
theorem shutdown (p : PlainBus ω ρ) : p.Shrinks p.shutdown :=
  fun _ => .empty _

end Shrinks

/-- Somebody who subscribes to a topic joins behind all others, unless that is refused. -/
theorem changes_subscribe (p : PlainBus ω ρ) (topic topic' : Topic) (origin : Origin)
    (token : Token) (handler : Handler ω ρ) (request : Request ω ρ) :
    (p.subscribers topic').Changes request topic'
      ((p.subscribe topic origin token handler).2.subscribers topic') := by
  have hsame : (p.subscribers topic').Changes request topic' (p.subscribers topic') :=
    .shrinks (.refl _)
  unfold subscribe whileOpen
  split
  · exact hsame
  · split
    · exact hsame
    · split
      · exact hsame
      · next slot hslot =>
        split
        · exact hsame
        · split
          · next slot' hadd =>
            obtain ⟨hnew, rfl⟩ := Slot.add?_eq_some hadd
            dsimp only
            rw [subscribers_put]
            split
            · next heq =>
              rw [← heq, subscribers_of_slot? hslot]
              exact Slot.changes_gain hnew request topic
            · exact hsame
          · exact hsame

/-- Who is enabled again goes behind all others, and nobody else is moved. -/
theorem changes_setEnabled (hs : p.Sound) (topic topic' : Topic) (token : Token)
    (isEnabled : Bool) :
    (p.subscribers topic').Changes (.setEnabled topic token isEnabled) topic'
      ((p.setEnabled topic token isEnabled).2.subscribers topic') := by
  have hsame {request : Request ω ρ} :
      (p.subscribers topic').Changes request topic' (p.subscribers topic') :=
    .shrinks (.refl _)
  unfold setEnabled whileOpen
  split
  · exact hsame
  · split
    · next p' hchange =>
      obtain ⟨slot', hbind, rfl⟩ := Option.map_eq_some_iff.mp hchange
      obtain ⟨slot, hslot, hswitch⟩ := Option.bind_eq_some_iff.mp hbind
      dsimp only
      rw [subscribers_put]
      split
      · next heq =>
        rw [← heq, subscribers_of_slot? hslot]
        cases isEnabled with
        | false => exact .shrinks (Slot.shrinks_setEnabled?_false hswitch)
        | true =>
          rcases Slot.setEnabled?_true (hs.slot hslot) hswitch with
            hshrinks | ⟨hdisabled, henabled, htokens⟩
          · exact .shrinks hshrinks
          · exact .returns rfl hdisabled henabled htokens
      · exact hsame
    · exact hsame

end PlainBus

/-! ## Requests to a bus -/

namespace Bus

/-- The subscriptions of a topic. -/
def subscribers (b : Bus ω ρ) (topic : Topic) : Subscribers ω ρ :=
  ((b.table.slot? topic).map (·.subscribers)).getD .empty

variable {b b' : Bus ω ρ} {p p' : PlainBus ω ρ} {topic : Topic} {slot : Slot ω ρ Latch}

/-- The subscribers of a topic are those of the slot that look-ups find. -/
theorem subscribers_of_slot? (h : b.table.slot? topic = some slot) :
    b.subscribers topic = slot.subscribers := by
  unfold subscribers
  rw [h]
  rfl

/-- A bus and the plain bus that it shows have the same subscribers. -/
theorem Shows.subscribers (h : b.Shows p) (topic : Topic) :
    b.subscribers topic = p.subscribers topic :=
  congrArg (·.getD .empty) (h.map_slot? topic (·.subscribers))

/-- Somebody new joins the chosen topics, or nothing happens. -/
theorem changes_subscribeAll (hopen : b.isLocked = false) (hsnapshot : b.table.snapshot = none)
    (payload : String) (token : Token) (s : Selection) (handler : Handler ω ρ)
    (request : Request ω ρ) (topic : Topic) :
    (b.subscribers topic).Changes request topic
      ((b.subscribeAll payload token s handler).value.2.subscribers topic) := by
  have hall := subscribesAll_of_open hopen hsnapshot payload token s handler
  cases hfind : (b.chosenTopics payload s).find? (b.isSubscribed token) with
  | some found =>
    rw [hall.conflict found hfind]
    exact .shrinks (.refl _)
  | none =>
    have hnone := List.find?_eq_none.mp hfind
    obtain ⟨b', hvalue, hgains, -⟩ := hall.success fun topic hin => by simpa using hnone topic hin
    rw [hvalue]
    by_cases hin : topic ∈ b.chosenTopics payload s
    · obtain ⟨slot, hslot, hslot'⟩ := hgains.gained topic hin
      have hnew : slot.holds token = false := by
        have hnot := hnone topic hin
        unfold isSubscribed at hnot
        rw [hslot] at hnot
        simpa using hnot
      show (b.subscribers topic).Changes request topic (b'.subscribers topic)
      rw [subscribers_of_slot? hslot, subscribers_of_slot? hslot']
      exact Slot.changes_gain hnew request topic
    · have hkept : b'.subscribers topic = b.subscribers topic := by
        unfold subscribers
        rw [hgains.kept topic hin]
      refine .shrinks ?_
      show (b.subscribers topic).Shrinks (b'.subscribers topic)
      rw [hkept]
      exact .refl _

/-- What any request does to the subscribers of a topic, read off the plain bus. -/
theorem Shows.changes (h : b.Shows p) (hs : p.Sound) (request : Request ω ρ) (topic : Topic) :
    (b.subscribers topic).Changes request topic ((Step.mk b request).next.subscribers topic) := by
  have hnext := h.next request
  have hshrinks (hshrinks : p.Shrinks (p.perform request).value.2) :
      (b.subscribers topic).Changes request topic ((Step.mk b request).next.subscribers topic) := by
    rw [h.subscribers, hnext.subscribers]
    exact .shrinks (hshrinks topic)
  cases request with
  | subscribe topic' origin token handler =>
    rw [h.subscribers, hnext.subscribers]
    exact p.changes_subscribe topic' topic origin token handler _
  | setEnabled topic' token isEnabled =>
    rw [h.subscribers, hnext.subscribers]
    exact PlainBus.changes_setEnabled hs topic' topic token isEnabled
  | subscribeAll payload token s handler =>
    cases hopen : b.isLocked with
    | true =>
      have hlocked : (b.subscribeAll payload token s handler).value.2 = b := by
        unfold Bus.subscribeAll Bus.whileOpen
        rw [if_pos hopen]
        rfl
      have hsame : (Step.mk b (.subscribeAll payload token s handler)).next = b := hlocked
      rw [hsame]
      exact .shrinks (.refl _)
    | false =>
      exact changes_subscribeAll hopen (h.snapshot_eq_none hopen) payload token s handler _ topic
  | register topic' allowed => exact hshrinks (.register p topic' allowed)
  | join controller => exact hshrinks (.join p controller)
  | unsubscribe topic' token warn => exact hshrinks (.unsubscribe p topic' token)
  | unsubscribeAll payload token s => exact hshrinks (.unsubscribeAll p payload token s)
  | raise topic' payload oneShot target => exact hshrinks (.raise p topic' payload oneShot target)
  | raiseLocal topic' payload => exact hshrinks (.raise p topic' payload false .localOnly)
  | receive topic' payload oneShot => exact hshrinks (.receive p topic' payload oneShot)
  | rearm topic' => exact hshrinks (.rearm p topic')
  | setLock isLocked => exact hshrinks (.setLock p isLocked)
  | start => exact hshrinks (.setLock p false)
  | ready => exact hshrinks (.setLock p true)
  | shutdown => exact hshrinks (.shutdown p)
  | _ => exact hshrinks (.refl p)

end Bus

end ModuleRuntime.Event
