import ModuleRuntime.Proofs.Event.Request

/-!
# The plain bus

A bus to compare with: one map from topics to slots, each with a truth value for its latch, and a
phase. There is no snapshot, and nothing is logged. Registration and subscription are refused unless
the bus is unlocked.
-/

set_option autoImplicit false

namespace ModuleRuntime.Event

/-- One map of slots, and the phase. -/
structure PlainBus (ω ρ : Type) where
  channel : String
  isServer : Bool
  slots : Dictionary Topic (Slot ω ρ Bool)
  phase : Phase
  controllers : List Declared

namespace PlainBus

variable {ω ρ α : Type}

/-- A bus without topics and with open registration. -/
def new (channel : String) (isServer : Bool) : PlainBus ω ρ :=
  ⟨channel, isServer, .empty, .unlocked, []⟩

/-- Whether registration is closed. -/
def isLocked (p : PlainBus ω ρ) : Bool :=
  p.phase != .unlocked

/-- The slot of a topic. -/
def slot? (p : PlainBus ω ρ) (topic : Topic) : Option (Slot ω ρ Bool) :=
  p.slots.find? topic

/-- The bus with a slot for a topic. -/
def put (p : PlainBus ω ρ) (topic : Topic) (slot : Slot ω ρ Bool) : PlainBus ω ρ :=
  { p with slots := p.slots.put topic slot }

/-- Changes the slot of a topic by a function that can refuse. -/
def change? (p : PlainBus ω ρ) (topic : Topic) (f : Slot ω ρ Bool → Option (Slot ω ρ Bool)) :
    Option (PlainBus ω ρ) :=
  ((p.slot? topic).bind f).map (p.put topic)

/-! ## Registration -/

/-- Does something if the bus is unlocked, and else fails. -/
def whileOpen (p : PlainBus ω ρ) (action event : String) (change : Result α × PlainBus ω ρ) :
    Result α × PlainBus ω ρ :=
  if p.isLocked then (.error (.misplaced (.registrationsLocked action event)), p) else change

/-- Registers a topic. The first registration of a topic stays. -/
def register (p : PlainBus ω ρ) (topic : Topic) (allowed : Origin) : Result Unit × PlainBus ω ρ :=
  if allowed.isEmpty then (.error (.invalid (.eventOrigin topic.id.text)), p)
  else p.whileOpen "register" topic.id.text <|
    match p.slot? topic with
    | some _ => (.ok (), p)
    | none => (.ok (), p.put topic (.new allowed false))

/-- Subscribes a handler to a topic for some of its origins. -/
def subscribe (p : PlainBus ω ρ) (topic : Topic) (origin : Origin) (token : Token)
    (handler : Handler ω ρ) : Result Unit × PlainBus ω ρ :=
  p.whileOpen "subscribe to" topic.id.text <|
    if origin.isEmpty then (.error (.invalid (.emptyMask topic.id.text)), p)
    else match p.slot? topic with
      | none => (.error (.misplaced (.unregisteredEvent topic.id.text topic.payload)), p)
      | some slot =>
        if !slot.allowed.contains origin then
          (.error (.misplaced (.originNotAllowed origin.name topic.id.text slot.allowed.name)), p)
        else match slot.add? ⟨origin, token, handler⟩ with
          | some slot => (.ok (), p.put topic slot)
          | none => (.error (Bus.alreadySubscribed topic token), p)

/-- Removes a subscription. Answers whether there was one. -/
def unsubscribe (p : PlainBus ω ρ) (topic : Topic) (token : Token) : Result Bool × PlainBus ω ρ :=
  p.whileOpen "unsubscribe from" topic.id.text <|
    match p.change? topic (·.remove? token) with
    | some p => (.ok true, p)
    | none => (.ok false, p)

/-- Enables or disables a subscription. Answers whether there is one. -/
def setEnabled (p : PlainBus ω ρ) (topic : Topic) (token : Token) (isEnabled : Bool) :
    Result Bool × PlainBus ω ρ :=
  p.whileOpen "toggle a subscription on" topic.id.text <|
    match p.change? topic (·.setEnabled? token isEnabled) with
    | some p => (.ok true, p)
    | none => (.ok false, p)

/-! ## Delivery -/

/-- The bus after a delivery that may happen once only, or nothing if it has happened. -/
def latched? (p : PlainBus ω ρ) (topic : Topic) (slot : Slot ω ρ Bool) (oneShot : Bool) :
    Option (PlainBus ω ρ) :=
  if oneShot then
    if slot.latch then none else some (p.put topic { slot with latch := true })
  else some p

/-- Raises an event for those of its targets that are allowed: the own process first, then the
network. -/
def raise (p : PlainBus ω ρ) (topic : Topic) (payload : ρ) (oneShot : Bool) (target : Origin) :
    Journaled (Activity ω ρ) ((Nat × ρ) × PlainBus ω ρ) :=
  match p.slot? topic with
  | none => return ((0, payload), p)
  | some slot =>
    let effective := target.inter slot.allowed
    if effective.isEmpty then return ((0, payload), p)
    else match p.latched? topic slot oneShot with
      | none => return ((0, payload), p)
      | some p => do
        let (count, payload) ←
          if effective.hasLocal then slot.deliver topic.id payload .localOnly
          else pure (0, payload)
        if effective.hasNetworked then
          Journaled.tell (.sent ⟨topic, payload, oneShot, p.isServer⟩)
        return ((count, payload), p)

/-- Delivers an event that came from the network. -/
def receive (p : PlainBus ω ρ) (topic : Topic) (payload : ρ) (oneShot : Bool) :
    Journaled (Activity ω ρ) ((Nat × ρ) × PlainBus ω ρ) :=
  match p.slot? topic with
  | none => return ((0, payload), p)
  | some slot =>
    match p.latched? topic slot oneShot with
    | none => return ((0, payload), p)
    | some p => do
      let answer ← slot.deliver topic.id payload .networked
      return (answer, p)

/-- Lets a topic fire again. Answers whether it is registered. -/
def rearm (p : PlainBus ω ρ) (topic : Topic) : Bool × PlainBus ω ρ :=
  match p.slot? topic with
  | some slot => (true, p.put topic { slot with latch := false })
  | none => (false, p)

/-! ## Phases -/

/-- Closes or opens registration, unless it is so already. -/
def setLock (p : PlainBus ω ρ) (isLocked : Bool) : PlainBus ω ρ :=
  if p.isLocked = isLocked then p
  else { p with phase := if isLocked then .locked else .unlocked }

/-- Drops all topics and controllers. -/
def shutdown (p : PlainBus ω ρ) : PlainBus ω ρ :=
  { p with slots := .empty, phase := .cleared, controllers := [] }

/-! ## Controllers -/

/-- Does the work of a controller, and collects the topics that it registers. -/
def runSetup (p : PlainBus ω ρ) (d : Declared) :
    Setup ω α → Journaled (Activity ω ρ) (α × PlainBus ω ρ × Declared)
  | .done a => return (a, p, d)
  | .telling note next => do
    Journaled.tell (.told note)
    p.runSetup d next
  | .registering topic allowed next =>
    match p.register topic allowed with
    | (.ok _, p) => p.runSetup (d.add topic) (next (.ok topic.id))
    | (.error e, p) => p.runSetup d (next (.error e))

/-- Lets a controller join, unless the bus is locked. If its work fails, what it has registered
stays. -/
def join (p : PlainBus ω ρ) (c : Controller ω) :
    Journaled (Activity ω ρ) (Result Unit × PlainBus ω ρ) :=
  if p.isLocked then
    return (.error (.misplaced (.registrationsLocked "register controller" "")), p)
  else do
    let (r, p, d) ← p.runSetup ⟨c.name, []⟩ (c.define p.isServer)
    match r with
    | .error e => return (.error e, p)
    | .ok _ => return (.ok (), { p with controllers := p.controllers ++ [d] })

/-- The chosen topics that are registered for an origin of the choice, each with its slot. -/
def selectedSlots (p : PlainBus ω ρ) (payload : String) (s : Selection) :
    List (Topic × Slot ω ρ Bool) :=
  ((s.topicsOf p.controllers payload).filterMap fun topic =>
    (p.slot? topic).map fun slot => (topic, slot)).filter fun (_, slot) =>
      s.origins.intersects slot.allowed

/-- The chosen topics, each with the origins for which it is to be subscribed. -/
def planned (p : PlainBus ω ρ) (payload : String) (s : Selection) : List (Topic × Origin) :=
  (p.selectedSlots payload s).map fun (topic, slot) => (topic, s.origins.inter slot.allowed)

/-- Subscribes a handler to one topic after the other, each for its own origins. The first that
fails ends it, and the subscriptions before it stay. -/
def subscribeEach (p : PlainBus ω ρ) (token : Token) (handler : Handler ω ρ) :
    List (Topic × Origin) → Result Unit × PlainBus ω ρ
  | [] => (.ok (), p)
  | (topic, origin) :: rest =>
    match p.subscribe topic origin token handler with
    | (.ok _, p) => p.subscribeEach token handler rest
    | (.error e, p) => (.error e, p)

/-- Subscribes a handler to every chosen topic, or to none if its subscriber is subscribed to one of
them. Answers to how many. -/
def subscribeAll (p : PlainBus ω ρ) (payload : String) (token : Token) (s : Selection)
    (handler : Handler ω ρ) : Result Nat × PlainBus ω ρ :=
  p.whileOpen "subscribe to all of" "" <|
    match (p.selectedSlots payload s).find? fun (_, slot) => slot.holds token with
    | some (topic, _) => (.error (Bus.alreadySubscribed topic token), p)
    | none =>
      let planned := p.planned payload s
      (p.subscribeEach token handler planned).map (·.map fun _ => planned.length) id

/-- Removes somebody from one topic after the other, and adds up in how many there was a
subscription. The first that fails ends it. -/
def unsubscribeEach (p : PlainBus ω ρ) (token : Token) (count : Nat) :
    List Topic → Result Nat × PlainBus ω ρ
  | [] => (.ok count, p)
  | topic :: rest =>
    match p.unsubscribe topic token with
    | (.ok isFound, p) => p.unsubscribeEach token (if isFound then count + 1 else count) rest
    | (.error e, p) => (.error e, p)

/-- Removes somebody from every chosen topic. Answers from how many. -/
def unsubscribeAll (p : PlainBus ω ρ) (payload : String) (token : Token) (s : Selection) :
    Result Nat × PlainBus ω ρ :=
  p.whileOpen "unsubscribe from all of" "" <|
    p.unsubscribeEach token 0 (s.topicsOf p.controllers payload)

/-! ## Requests -/

/-- The answer and the bus after a request. -/
def perform (p : PlainBus ω ρ) :
    Request ω ρ → Journaled (Activity ω ρ) (Answer ρ × PlainBus ω ρ)
  | .register topic allowed => return Prod.map .done id (p.register topic allowed)
  | .join controller => Prod.map .done id <$> p.join controller
  | .subscribe topic origin token handler =>
    return Prod.map .done id (p.subscribe topic origin token handler)
  | .unsubscribe topic token _ => return Prod.map .found id (p.unsubscribe topic token)
  | .setEnabled topic token isEnabled =>
    return Prod.map .found id (p.setEnabled topic token isEnabled)
  | .subscribeAll payload token selection handler =>
    return Prod.map .counted id (p.subscribeAll payload token selection handler)
  | .unsubscribeAll payload token selection =>
    return Prod.map .counted id (p.unsubscribeAll payload token selection)
  | .raise topic payload oneShot target =>
    Prod.map (fun a => .delivered a.1 a.2) id <$> p.raise topic payload oneShot target
  | .raiseLocal topic payload =>
    Prod.map (fun a => .delivered a.1 a.2) id <$> p.raise topic payload false .localOnly
  | .receive topic payload oneShot =>
    Prod.map (fun a => .delivered a.1 a.2) id <$> p.receive topic payload oneShot
  | .rearm topic => return Prod.map .truth id (p.rearm topic)
  | .setLock isLocked => return (.nothing, p.setLock isLocked)
  | .start => return (.nothing, p.setLock false)
  | .ready => return (.nothing, p.setLock true)
  | .shutdown => return (.nothing, p.shutdown)
  | .isRegistered topic => return (.truth (p.slot? topic).isSome, p)
  | .allowed topic => return (.origins ((p.slot? topic).map (·.allowed)), p)
  | .subscriberCount topic =>
    return (.number (((p.slot? topic).map (·.subscriptions.length)).getD 0), p)
  | .enabledCount topic => return (.number (((p.slot? topic).map (·.enabled.length)).getD 0), p)
  | .isTriggered topic => return (.truth (((p.slot? topic).map (·.latch)).getD false), p)
  | .registrationCount => return (.number p.slots.size, p)
  | .controllerNames => return (.names (p.controllers.map (·.controller)), p)
  | .isLocked => return (.truth p.isLocked, p)
  | .phase => return (.phase p.phase, p)
  | .channel => return (.text p.channel, p)
  | .isServer => return (.truth p.isServer, p)

end PlainBus

end ModuleRuntime.Event
