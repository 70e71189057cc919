import ModuleRuntime.Proofs.Event.Mirror
import ModuleRuntime.Proofs.Event.PlainBus

/-!
# The bus and the plain bus

A bus shows a plain bus: its table shows the plain one's slots, and the rest is equal. Every request
keeps it so and is answered alike by both, so no client can tell a new bus from a new plain one.
-/

set_option autoImplicit false

namespace ModuleRuntime.Event

variable {ω ρ α : Type}

namespace Bus

/-- The slots of a plain bus are those that the table shows, and the rest is equal. -/
structure Shows (b : Bus ω ρ) (p : PlainBus ω ρ) : Prop where
  channel : p.channel = b.channel
  isServer : p.isServer = b.isServer
  phase : p.phase = b.table.phase
  controllers : p.controllers = b.controllers
  table : b.table.Shows p.slots

/-- The same for another table of the bus, while registration is open. -/
structure ShowsOpen (b : Bus ω ρ) (t : Table ω ρ) (p : PlainBus ω ρ) : Prop where
  unlocked : p.phase = .unlocked
  shows : ({ b with table := t } : Bus ω ρ).Shows p

/-- New buses differ in nothing. -/
theorem shows_new (channel : String) (isServer : Bool) :
    (new channel isServer : Bus ω ρ).Shows (.new channel isServer) :=
  ⟨rfl, rfl, rfl, rfl, .empty⟩

namespace Shows

variable {b : Bus ω ρ} {p : PlainBus ω ρ}

/-- Both are locked or none is. -/
theorem isLocked (h : b.Shows p) : p.isLocked = b.isLocked := by
  unfold PlainBus.isLocked
  rw [h.phase]
  rfl

/-- The slot of a topic, with the value of its latch. -/
theorem slot? (h : b.Shows p) (topic : Topic) :
    p.slot? topic = (b.table.slot? topic).map (·.mapLatch b.table.isSet) :=
  h.table.slot? topic

/-- A table in the same phase, and the slots that it shows. -/
theorem withTable (h : b.Shows p) {t : Table ω ρ} {slots : Dictionary Topic (Slot ω ρ Bool)}
    (hphase : t.phase = b.table.phase) (ht : t.Shows slots) :
    ({ b with table := t } : Bus ω ρ).Shows { p with slots := slots } :=
  ⟨h.channel, h.isServer, h.phase.trans hphase.symm, h.controllers, ht⟩

/-! ## Registration -/

/-- What is done while registration is open is refused by both while it is closed. -/
theorem whileOpen (h : b.Shows p) {action event : String}
    {x : Journaled (Activity ω ρ) (Result α × Bus ω ρ)}
    {y : Journaled (Activity ω ρ) (Result α × PlainBus ω ρ)}
    (hopen : p.phase = .unlocked → Agree (Paired Bus.Shows) x y) :
    Agree (Paired Bus.Shows) (b.whileOpen action event x)
      (if p.isLocked then pure (.error (.misplaced (.registrationsLocked action event)), p)
        else y) := by
  unfold Bus.whileOpen
  rw [h.isLocked]
  cases hlocked : b.isLocked with
  | true => exact .log (.pure ⟨rfl, h⟩)
  | false =>
    apply hopen
    rw [← h.isLocked] at hlocked
    simpa [PlainBus.isLocked] using hlocked

/-- The same for what the plain bus does without being seen. -/
theorem whileOpenUnseen (h : b.Shows p) {action event : String}
    {x : Journaled (Activity ω ρ) (Result α × Bus ω ρ)} {y : Result α × PlainBus ω ρ}
    (hopen : p.phase = .unlocked → Agree (Paired Bus.Shows) x (pure y)) :
    Agree (Paired Bus.Shows) (b.whileOpen action event x) (pure (p.whileOpen action event y)) := by
  unfold PlainBus.whileOpen
  rw [apply_ite pure]
  exact h.whileOpen hopen

/-- Both register a topic alike. -/
theorem register (h : b.Shows p) (topic : Topic) (allowed : Origin) :
    Agree (Paired Bus.Shows) (b.register topic allowed) (pure (p.register topic allowed)) := by
  unfold Bus.register PlainBus.register
  split
  · exact .pure ⟨rfl, h⟩
  · apply h.whileOpenUnseen
    intro hphase
    rw [h.phase] at hphase
    cases ht : b.table.insert? topic allowed with
    | some t =>
      obtain ⟨hnone, hsame, ht'⟩ := h.table.insert? hphase ht
      unfold PlainBus.slot?
      rw [hnone]
      exact .log (.pure ⟨rfl, h.withTable hsame ht'⟩)
    | none =>
      obtain ⟨slot, hslot⟩ := h.table.insert?_eq_none ht
      unfold PlainBus.slot?
      rw [hslot]
      exact .log (.pure ⟨rfl, h⟩)

section Change

variable {f : Slot ω ρ Latch → Option (Slot ω ρ Latch)} {g : Slot ω ρ Bool → Option (Slot ω ρ Bool)}

/-- Both make a change of a slot, or both refuse it. -/
theorem change? {t : Table ω ρ} (h : b.ShowsOpen t p) (hfg : Slot.Alike f g) (topic : Topic) :
    Option.Rel b.ShowsOpen (t.change? topic f) (p.change? topic g) := by
  unfold PlainBus.change? PlainBus.slot?
  have hphase : t.phase = .unlocked := h.shows.phase ▸ h.unlocked
  cases ht : t.change? topic f with
  | some t' =>
    obtain ⟨slot, hslot, hsame, ht'⟩ := h.shows.table.change? hphase hfg ht
    rw [hslot]
    exact .some ⟨h.unlocked, h.shows.withTable hsame ht'⟩
  | none =>
    rw [h.shows.table.change?_eq_none hfg ht]
    exact .none

end Change

/-- Both subscribe somebody alike. -/
theorem subscribe (h : b.Shows p) (topic : Topic) (origin : Origin) (token : Token)
    (handler : Handler ω ρ) :
    Agree (Paired Bus.Shows) (b.subscribe topic origin token handler)
      (pure (p.subscribe topic origin token handler)) := by
  unfold Bus.subscribe PlainBus.subscribe
  apply h.whileOpenUnseen
  intro hphase
  have hphase' := h.phase ▸ hphase
  split
  · exact .pure ⟨rfl, h⟩
  · unfold PlainBus.slot?
    rw [h.table.find]
    cases hslot : b.table.slots.find? topic with
    | none => exact .pure ⟨rfl, h⟩
    | some slot =>
      have hallowed : (slot.mapLatch b.table.isSet).allowed = slot.allowed := rfl
      simp only [Option.map_some, hallowed]
      split
      · exact .pure ⟨rfl, h⟩
      · rw [slot.add?_mapLatch]
        cases hadd : slot.add? ⟨origin, token, handler⟩ with
        | none => exact .log (.pure ⟨rfl, h⟩)
        | some slot' =>
          have hreplace := h.table.replace hphase' hslot (Slot.latch_add? hadd)
          exact .pure ⟨rfl, h.withTable rfl hreplace⟩

/-- Both remove somebody alike. Only the bus logs that nobody was found. -/
theorem unsubscribe (h : b.Shows p) (topic : Topic) (token : Token) (warn : Bool) :
    Agree (Paired Bus.Shows) (b.unsubscribe topic token warn)
      (pure (p.unsubscribe topic token)) := by
  unfold Bus.unsubscribe PlainBus.unsubscribe
  apply h.whileOpenUnseen
  intro hphase
  have hchange := change? ⟨hphase, h⟩ (Slot.alike_remove? token) topic
  generalize b.table.change? topic (·.remove? token) = t at hchange ⊢
  generalize p.change? topic (·.remove? token) = p' at hchange ⊢
  cases hchange with
  | some hopen => exact .pure ⟨rfl, hopen.shows⟩
  | none =>
    cases warn with
    | true => exact .log (.pure ⟨rfl, h⟩)
    | false => exact .pure ⟨rfl, h⟩

/-- Both enable or disable somebody alike. -/
theorem setEnabled (h : b.Shows p) (topic : Topic) (token : Token) (isEnabled : Bool) :
    Agree (Paired Bus.Shows) (b.setEnabled topic token isEnabled)
      (pure (p.setEnabled topic token isEnabled)) := by
  unfold Bus.setEnabled PlainBus.setEnabled
  apply h.whileOpenUnseen
  intro hphase
  have hchange := change? ⟨hphase, h⟩ (Slot.alike_setEnabled? token isEnabled) topic
  generalize b.table.change? topic (·.setEnabled? token isEnabled) = t at hchange ⊢
  generalize p.change? topic (·.setEnabled? token isEnabled) = p' at hchange ⊢
  cases hchange with
  | some hopen => exact .pure ⟨rfl, hopen.shows⟩
  | none => exact .pure ⟨rfl, h⟩

/-! ## Delivery -/

/-- Setting the latch that look-ups find for a topic sets the latch of its plain slot. -/
theorem setLatch (h : b.Shows p) {topic : Topic} {slot : Slot ω ρ Latch}
    (hslot : b.table.slot? topic = some slot) (value : Bool) :
    ({ b with table := b.table.setLatch slot.latch value } : Bus ω ρ).Shows
      (p.put topic ⟨slot.allowed, value, slot.enabled, slot.disabled⟩) := by
  unfold Table.slot? at hslot
  rw [h.table.view] at hslot
  exact h.withTable rfl (h.table.setLatch hslot value)

/-- A delivery that may happen once only is held back by both or by none. -/
theorem latched? (h : b.Shows p) {topic : Topic} {slot : Slot ω ρ Latch}
    (hslot : b.table.slot? topic = some slot) (oneShot : Bool) :
    Option.Rel Bus.Shows (b.latched? slot oneShot)
      (p.latched? topic (slot.mapLatch b.table.isSet) oneShot) := by
  unfold Bus.latched? PlainBus.latched? Slot.mapLatch
  dsimp only
  cases oneShot with
  | false => exact .some h
  | true =>
    cases b.table.isSet slot.latch with
    | true => exact .none
    | false => exact .some (h.setLatch hslot true)

/-- Both send an event to the network after its delivery, or none does. -/
theorem send (h : b.Shows p) (topic : Topic) (oneShot isSent : Bool) (answer : Nat × ρ) :
    Agree (Paired Bus.Shows)
      (if isSent then do
          b.send topic answer.2 oneShot
          return (answer, b)
        else return (answer, b))
      (if isSent then do
          Journaled.tell (.sent ⟨topic, answer.2, oneShot, p.isServer⟩)
          return (answer, p)
        else return (answer, p)) := by
  unfold Bus.send
  rw [h.isServer]
  cases isSent with
  | true => exact .bind (.refl _) fun _ _ _ => .pure ⟨rfl, h⟩
  | false => exact .pure ⟨rfl, h⟩

/-- Both raise an event alike. -/
theorem raise (h : b.Shows p) (topic : Topic) (payload : ρ) (oneShot : Bool) (target : Origin) :
    Agree (Paired Bus.Shows) (b.raise topic payload oneShot target)
      (p.raise topic payload oneShot target) := by
  unfold Bus.raise PlainBus.raise
  rw [h.slot?]
  cases hslot : b.table.slot? topic with
  | none => exact .pure ⟨rfl, h⟩
  | some slot =>
    have hallowed : (slot.mapLatch b.table.isSet).allowed = slot.allowed := rfl
    simp only [Option.map_some, hallowed]
    split
    · exact .log (.pure ⟨rfl, h⟩)
    · have hlatched := h.latched? hslot oneShot
      generalize b.latched? slot oneShot = b' at hlatched ⊢
      generalize p.latched? topic (slot.mapLatch b.table.isSet) oneShot = p' at hlatched ⊢
      cases hlatched with
      | none => exact .pure ⟨rfl, h⟩
      | some hshows =>
        dsimp only
        split
        · refine .bind (.refl _) fun answer _ heq => ?_
          subst heq
          exact hshows.send topic oneShot _ answer
        · refine .bind (.refl _) fun answer _ heq => ?_
          subst heq
          exact hshows.send topic oneShot _ answer

/-- Both receive an event alike. -/
theorem receive (h : b.Shows p) (topic : Topic) (payload : ρ) (oneShot : Bool) :
    Agree (Paired Bus.Shows) (b.receive topic payload oneShot)
      (p.receive topic payload oneShot) := by
  unfold Bus.receive PlainBus.receive
  rw [h.slot?]
  cases hslot : b.table.slot? topic with
  | none => exact .log (.pure ⟨rfl, h⟩)
  | some slot =>
    have hlatched := h.latched? hslot oneShot
    simp only [Option.map_some]
    generalize b.latched? slot oneShot = b' at hlatched ⊢
    generalize p.latched? topic (slot.mapLatch b.table.isSet) oneShot = p' at hlatched ⊢
    cases hlatched with
    | none => exact .pure ⟨rfl, h⟩
    | some hshows => exact .bind (.refl _) fun _ _ heq => .pure ⟨heq, hshows⟩

/-- Both rearm a topic alike. -/
theorem rearm (h : b.Shows p) (topic : Topic) :
    Paired Bus.Shows (b.rearm topic) (p.rearm topic) := by
  unfold Bus.rearm PlainBus.rearm
  rw [h.slot?]
  cases hslot : b.table.slot? topic with
  | none => exact ⟨rfl, h⟩
  | some slot => exact ⟨rfl, h.setLatch hslot false⟩

/-! ## Phases -/

/-- Both close or open registration alike. Locking takes the snapshot, which the plain bus has no
need of. -/
theorem setLock (h : b.Shows p) (isLocked : Bool) :
    Agree Bus.Shows (b.setLock isLocked) (pure (p.setLock isLocked)) := by
  unfold Bus.setLock PlainBus.setLock
  rw [h.isLocked]
  split
  · exact .pure h
  · cases isLocked with
    | true => exact .log (.pure ⟨h.channel, h.isServer, rfl, h.controllers, h.table.lock⟩)
    | false => exact .log (.pure ⟨h.channel, h.isServer, rfl, h.controllers, h.table.unlock⟩)

/-- Both start alike. -/
theorem start (h : b.Shows p) : Agree Bus.Shows b.start (pure (p.setLock false)) :=
  .log (h.setLock false)

/-- Both get ready alike. -/
theorem ready (h : b.Shows p) : Agree Bus.Shows b.ready (pure (p.setLock true)) :=
  .bindUnseen (h.setLock true) fun _ h' => .log (.pure h')

/-- Both shut down alike. The plain bus drops its topics, which also closes it. -/
theorem shutdown (h : b.Shows p) : Agree Bus.Shows b.shutdown (pure p.shutdown) := by
  have hsame : p.shutdown = (p.setLock true).shutdown := by
    unfold PlainBus.setLock
    split <;> rfl
  rw [hsame]
  refine .bindUnseen (h.setLock true) fun b' h' => .log (.pure ?_)
  exact ⟨h'.channel, h'.isServer, rfl, rfl, .clear b'.table⟩

/-! ## Controllers -/

/-- By induction on the work of the controller, which registers its topics one by one. -/
theorem runSetup (setup : Setup ω α) (h : b.Shows p) (d : Declared) :
    Agree (fun x y => x.1 = y.1 ∧ x.2.1.Shows y.2.1 ∧ x.2.2 = y.2.2)
      (b.runSetup d setup) (p.runSetup d setup) := by
  induction setup generalizing b p d with
  | done a => exact .pure ⟨rfl, h, rfl⟩
  | telling note next ih => exact .bind (.refl _) fun _ _ _ => ih h d
  | registering topic allowed next ih =>
    unfold Bus.runSetup PlainBus.runSetup
    refine .bindUnseen (h.register topic allowed) ?_
    rintro ⟨r, b'⟩ ⟨hr, hshows⟩
    generalize p.register topic allowed = y at hr hshows ⊢
    obtain ⟨r', p'⟩ := y
    dsimp only at hr hshows
    subst hr
    cases r with
    | ok _ => exact ih _ hshows _
    | error e => exact ih _ hshows _

/-- A controller joins both alike. -/
theorem join (h : b.Shows p) (c : Controller ω) :
    Agree (Paired Bus.Shows) (b.join c) (p.join c) := by
  unfold Bus.join PlainBus.join
  apply h.whileOpen
  intro hphase
  rw [h.isServer]
  refine .bind (h.runSetup (c.define b.isServer) ⟨c.name, []⟩) ?_
  rintro ⟨r, b', d⟩ ⟨r', p', d'⟩ ⟨hr, hshows, hd⟩
  dsimp only at hr hshows hd
  subst hr hd
  cases r with
  | error e => exact .pure ⟨rfl, hshows⟩
  | ok _ =>
    refine .log (.pure ⟨rfl, hshows.channel, hshows.isServer, hshows.phase, ?_, hshows.table⟩)
    show p'.controllers ++ [d] = b'.controllers ++ [d]
    rw [hshows.controllers]

/-- The same topics are selected. -/
theorem selectedSlots (h : b.Shows p) (payload : String) (s : Selection) :
    p.selectedSlots payload s = (b.selectedSlots payload s).map fun (topic, slot) =>
      (topic, slot.mapLatch b.table.isSet) := by
  unfold PlainBus.selectedSlots Bus.selectedSlots Bus.declaredTopics
  have hslots : (fun topic => (p.slot? topic).map fun slot => (topic, slot)) =
      fun topic => ((b.table.slot? topic).map fun slot => (topic, slot)).map fun (topic, slot) =>
        (topic, slot.mapLatch b.table.isSet) := by
    funext topic
    rw [h.slot?]
    cases b.table.slot? topic <;> rfl
  rw [h.controllers, hslots, ← List.map_filterMap, List.filter_map]
  rfl

/-- The same topics are to be subscribed, each for the same origins. -/
theorem planned (h : b.Shows p) (payload : String) (s : Selection) :
    p.planned payload s = b.planned payload s := by
  unfold PlainBus.planned Bus.planned
  rw [h.selectedSlots, List.map_map]
  rfl

/-- By induction on the topics. Both fail at the same one, if at any. -/
theorem subscribeEach (h : b.Shows p) (token : Token) (handler : Handler ω ρ)
    (topics : List (Topic × Origin)) :
    Agree (Paired Bus.Shows) (b.subscribeEach token handler topics)
      (pure (p.subscribeEach token handler topics)) := by
  induction topics generalizing b p with
  | nil => exact .pure ⟨rfl, h⟩
  | cons x rest ih =>
    obtain ⟨topic, origin⟩ := x
    unfold Bus.subscribeEach PlainBus.subscribeEach
    refine .bindUnseen (h.subscribe topic origin token handler) ?_
    rintro ⟨r, b'⟩ ⟨hr, hshows⟩
    generalize p.subscribe topic origin token handler = y at hr hshows ⊢
    obtain ⟨r', p'⟩ := y
    dsimp only at hr hshows
    subst hr
    cases r with
    | ok _ => exact ih hshows
    | error e => exact .pure ⟨rfl, hshows⟩

/-- Both subscribe somebody to all chosen topics, or both refuse that. -/
theorem subscribeAll (h : b.Shows p) (payload : String) (token : Token) (s : Selection)
    (handler : Handler ω ρ) :
    Agree (Paired Bus.Shows) (b.subscribeAll payload token s handler)
      (pure (p.subscribeAll payload token s handler)) := by
  unfold Bus.subscribeAll PlainBus.subscribeAll
  apply h.whileOpenUnseen
  intro hphase
  rw [h.selectedSlots, List.find?_map, h.planned]
  have hholds : ((fun x : Topic × Slot ω ρ Bool => x.2.holds token) ∘ fun x =>
      (x.1, x.2.mapLatch b.table.isSet)) = fun x : Topic × Slot ω ρ Latch => x.2.holds token := rfl
  rw [hholds]
  cases (b.selectedSlots payload s).find? fun x => x.2.holds token with
  | some x => exact .log (.pure ⟨rfl, h⟩)
  | none =>
    refine .bindUnseen (h.subscribeEach token handler (b.planned payload s)) ?_
    rintro ⟨r, b'⟩ ⟨hr, hshows⟩
    exact .pure ⟨congrArg (Except.map fun _ => (b.planned payload s).length) hr, hshows⟩

/-- By induction on the topics. Both count the same ones. -/
theorem unsubscribeEach (h : b.Shows p) (token : Token) (count : Nat) (topics : List Topic) :
    Agree (Paired Bus.Shows) (b.unsubscribeEach token count topics)
      (pure (p.unsubscribeEach token count topics)) := by
  induction topics generalizing b p count with
  | nil => exact .pure ⟨rfl, h⟩
  | cons topic rest ih =>
    unfold Bus.unsubscribeEach PlainBus.unsubscribeEach
    refine .bindUnseen (h.unsubscribe topic token false) ?_
    rintro ⟨r, b'⟩ ⟨hr, hshows⟩
    generalize p.unsubscribe topic token = y at hr hshows ⊢
    obtain ⟨r', p'⟩ := y
    dsimp only at hr hshows
    subst hr
    cases r with
    | ok isFound => exact ih hshows _
    | error e => exact .pure ⟨rfl, hshows⟩

/-- Both remove somebody from all chosen topics. -/
theorem unsubscribeAll (h : b.Shows p) (payload : String) (token : Token) (s : Selection) :
    Agree (Paired Bus.Shows) (b.unsubscribeAll payload token s)
      (pure (p.unsubscribeAll payload token s)) := by
  unfold Bus.unsubscribeAll PlainBus.unsubscribeAll Bus.declaredTopics
  apply h.whileOpenUnseen
  intro _
  rw [h.controllers]
  exact h.unsubscribeEach token 0 (s.topicsOf b.controllers payload)

/-! ## Requests -/

/-- Equal results make equal answers. -/
theorem answered {x : Journaled (Activity ω ρ) (α × Bus ω ρ)}
    {y : Journaled (Activity ω ρ) (α × PlainBus ω ρ)} (h : Agree (Paired Bus.Shows) x y)
    (f : α → Answer ρ) : Agree (Paired Bus.Shows) (Prod.map f id <$> x) (Prod.map f id <$> y) :=
  h.map fun _ _ hpair => ⟨congrArg f hpair.1, hpair.2⟩

/-- What has no result answers nothing. -/
theorem unanswered {x : Journaled (Activity ω ρ) (Bus ω ρ)} (h : Agree Bus.Shows x (pure p)) :
    Agree (Paired Bus.Shows) (((.nothing : Answer ρ), ·) <$> x) (pure (.nothing, p)) := by
  refine ⟨⟨rfl, h.result⟩, ?_⟩
  rw [Journaled.journal_map]
  exact h.activities

/-- What is asked about the slot of a topic. -/
theorem map_slot? (h : b.Shows p) (topic : Topic) (f : Slot ω ρ Bool → α) :
    (b.table.slot? topic).map (fun slot => f (slot.mapLatch b.table.isSet)) =
      (p.slot? topic).map f := by
  rw [h.slot?, Option.map_map]
  rfl

/-- Both have a topic registered or none has. -/
theorem isRegistered (h : b.Shows p) (topic : Topic) :
    b.isRegistered topic = (p.slot? topic).isSome := by
  rw [h.slot?, Option.isSome_map]
  rfl

/-- Every request is answered alike, and the bus after it shows the plain bus after it. -/
theorem perform (h : b.Shows p) (request : Request ω ρ) :
    Agree (Paired Bus.Shows) (b.perform request) (p.perform request) := by
  cases request with
  | register topic allowed => exact answered (h.register topic allowed) .done
  | join controller => exact answered (h.join controller) .done
  | subscribe topic origin token handler =>
    exact answered (h.subscribe topic origin token handler) .done
  | unsubscribe topic token warn => exact answered (h.unsubscribe topic token warn) .found
  | setEnabled topic token isEnabled =>
    exact answered (h.setEnabled topic token isEnabled) .found
  | subscribeAll payload token selection handler =>
    exact answered (h.subscribeAll payload token selection handler) .counted
  | unsubscribeAll payload token selection =>
    exact answered (h.unsubscribeAll payload token selection) .counted
  | raise topic payload oneShot target => exact answered (h.raise topic payload oneShot target) _
  | raiseLocal topic payload => exact answered (h.raise topic payload false .localOnly) _
  | receive topic payload oneShot => exact answered (h.receive topic payload oneShot) _
  | rearm topic =>
    obtain ⟨htruth, hshows⟩ := h.rearm topic
    exact .pure ⟨congrArg Answer.truth htruth, hshows⟩
  | setLock isLocked => exact unanswered (h.setLock isLocked)
  | start => exact unanswered h.start
  | ready => exact unanswered h.ready
  | shutdown => exact unanswered h.shutdown
  | isRegistered topic => exact .pure ⟨congrArg Answer.truth (h.isRegistered topic), h⟩
  | allowed topic => exact .pure ⟨congrArg Answer.origins (h.map_slot? topic (·.allowed)), h⟩
  | subscriberCount topic =>
    have hsame := h.map_slot? topic (·.subscriptions.length)
    exact .pure ⟨congrArg (fun n => Answer.number (n.getD 0)) hsame, h⟩
  | enabledCount topic =>
    have hsame := h.map_slot? topic (·.enabled.length)
    exact .pure ⟨congrArg (fun n => Answer.number (n.getD 0)) hsame, h⟩
  | isTriggered topic =>
    have hsame := h.map_slot? topic (·.latch)
    exact .pure ⟨congrArg (fun l => Answer.truth (l.getD false)) hsame, h⟩
  | registrationCount => exact .pure ⟨congrArg Answer.number h.table.size.symm, h⟩
  | controllerNames =>
    exact .pure ⟨congrArg (fun l => Answer.names (l.map (·.controller))) h.controllers.symm, h⟩
  | isLocked => exact .pure ⟨congrArg Answer.truth h.isLocked.symm, h⟩
  | phase => exact .pure ⟨congrArg Answer.phase h.phase.symm, h⟩
  | channel => exact .pure ⟨congrArg Answer.text h.channel.symm, h⟩
  | isServer => exact .pure ⟨congrArg Answer.truth h.isServer.symm, h⟩

end Shows

/-- However a client chooses its requests, a new bus replies to them as a new plain bus does. -/
theorem play_new_eq_play_plainBus (channel : String) (isServer : Bool) (client : Client ω ρ)
    (n : Nat) :
    play Bus.perform client n [] (new channel isServer) =
      play PlainBus.perform client n [] (.new channel isServer) :=
  play_eq_play (fun _ _ request h => h.perform request) client n [] (shows_new channel isServer)

end Bus

end ModuleRuntime.Event
