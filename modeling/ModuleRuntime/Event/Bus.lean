import ModuleRuntime.Config
import ModuleRuntime.Event.Controller
import ModuleRuntime.Event.Table
import ModuleRuntime.Text.Quoted

/-!
# The event bus

Events are raised on a bus and received from the network. Topics and subscriptions change only while
registration is open; in return a locked bus delivers from a snapshot. A one-shot event fires once
until it is rearmed. Events with a networked target leave the bus after the local handlers have run.
-/

set_option autoImplicit false

namespace ModuleRuntime.Event

/-- A table of topics with the controllers that joined it, for one channel. -/
structure Bus (ω ρ : Type) where
  channel : String
  isServer : Bool
  table : Table ω ρ
  controllers : List Declared

namespace Bus

variable {ω ρ α : Type}

/-- A bus without topics and with open registration. -/
def new (channel : String) (isServer : Bool) : Bus ω ρ :=
  ⟨channel, isServer, .empty, []⟩

/-- The bus for named events. -/
def namedEvents (isServer : Bool) : Bus ω ρ :=
  new "named_events" isServer

/-- The bus for sensors. -/
def sensors (isServer : Bool) : Bus ω ρ :=
  new "sensors" isServer

/-- The bus for telemetry. -/
def telemetry (isServer : Bool) : Bus ω ρ :=
  new "telemetry" isServer

/-- A bus that belongs to the server if the configuration says so. -/
def ofConfig (config : Config) (channel : String) : Bus ω ρ :=
  new channel config.isServer

/-! ## Questions -/

/-- Whether registration is closed. -/
def isLocked (b : Bus ω ρ) : Bool :=
  b.table.isLocked

/-- The number of topics. -/
def registrationCount (b : Bus ω ρ) : Nat :=
  b.table.size

/-- Whether a topic is registered. -/
def isRegistered (b : Bus ω ρ) (topic : Topic) : Bool :=
  (b.table.slot? topic).isSome

/-- The origins that are allowed for a topic. -/
def allowed? (b : Bus ω ρ) (topic : Topic) : Option Origin :=
  (b.table.slot? topic).map (·.allowed)

/-- The number of subscribers of a topic, enabled or not. -/
def subscriberCount (b : Bus ω ρ) (topic : Topic) : Nat :=
  ((b.table.slot? topic).map (·.subscriptions.length)).getD 0

/-- The number of enabled subscribers of a topic. -/
def enabledCount (b : Bus ω ρ) (topic : Topic) : Nat :=
  ((b.table.slot? topic).map (·.enabled.length)).getD 0

/-- Whether a registered topic has fired. -/
def isTriggered (b : Bus ω ρ) (topic : Topic) : Bool :=
  ((b.table.slot? topic).map fun slot => b.table.isSet slot.latch).getD false

/-- The names of the controllers that joined. -/
def controllerNames (b : Bus ω ρ) : List String :=
  b.controllers.map (·.controller)

/-- The bus as diagnostics show it. -/
def debugText (b : Bus ω ρ) : String :=
  "RtEventBus \x7b channel: " ++ Text.quoted b.channel
    ++ ", is_server: " ++ (if b.isServer then "true" else "false")
    ++ ", state: " ++ b.table.phase.name
    ++ ", registrations: " ++ toString b.registrationCount
    ++ ", controllers: " ++ toString b.controllers.length ++ " \x7d"

/-! ## Log entries -/

/-- An entry under the target of the channel. -/
def entry (b : Bus ω ρ) (level : Log.Level) (event message : String)
    (fields : List (String × String)) : Log.Entry :=
  ⟨level, "rtgt." ++ b.channel, event, message, fields⟩

/-- Logs under the target of the channel. -/
def log (b : Bus ω ρ) (level : Log.Level) (event message : String)
    (fields : List (String × String)) : Journaled (Activity ω ρ) PUnit :=
  Journaled.tell (.logged (b.entry level event message fields))

/-- The fields that identify a topic. -/
def topicFields (topic : Topic) : List (String × String) :=
  [("id", topic.id.text), ("type", topic.payload)]

/-- Logs that somebody is subscribed already. -/
def logDuplicate (b : Bus ω ρ) (topic : Topic) (token : Token) :
    Journaled (Activity ω ρ) PUnit :=
  b.log .error "events.subscribe.duplicate" "subscriber already subscribed"
    (topicFields topic ++ [("token", token.text)])

/-- The failure when somebody is subscribed already. -/
def alreadySubscribed (topic : Topic) (token : Token) : Error :=
  .conflict topic.id.text (.subscription token.text)

/-! ## Registration -/

/-- Does something if registration is open, and else fails. -/
def whileOpen (b : Bus ω ρ) (action event : String)
    (change : Journaled (Activity ω ρ) (Result α × Bus ω ρ)) :
    Journaled (Activity ω ρ) (Result α × Bus ω ρ) :=
  if b.isLocked then do
    b.log .error "events.locked" "registrations are locked" [("action", action), ("id", event)]
    return (.error (.misplaced (.registrationsLocked action event)), b)
  else change

/-- Registers a topic. The first registration of a topic stays. -/
def register (b : Bus ω ρ) (topic : Topic) (allowed : Origin) :
    Journaled (Activity ω ρ) (Result Unit × Bus ω ρ) :=
  if allowed.isEmpty then return (.error (.invalid (.eventOrigin topic.id.text)), b)
  else b.whileOpen "register" topic.id.text <|
    match b.table.insert? topic allowed with
    | some table => do
      b.log .debug "events.register" "event id registered"
        (topicFields topic ++ [("allowed", allowed.name)])
      return (.ok (), { b with table := table })
    | none => do
      b.log .warn "events.register.duplicate" "event id was already registered"
        (topicFields topic)
      return (.ok (), b)

/-- Subscribes a handler to a topic for some of its origins. -/
def subscribe (b : Bus ω ρ) (topic : Topic) (origin : Origin) (token : Token)
    (handler : Handler ω ρ) : Journaled (Activity ω ρ) (Result Unit × Bus ω ρ) :=
  b.whileOpen "subscribe to" topic.id.text <|
    if origin.isEmpty then return (.error (.invalid (.emptyMask topic.id.text)), b)
    else match b.table.slots.find? topic with
      | none =>
        return (.error (.misplaced (.unregisteredEvent topic.id.text topic.payload)), b)
      | some slot =>
        if !slot.allowed.contains origin then
          return (.error (.misplaced
            (.originNotAllowed origin.name topic.id.text slot.allowed.name)), b)
        else match slot.add? ⟨origin, token, handler⟩ with
          | some slot => return (.ok (), { b with table := b.table.replace topic slot })
          | none => do
            b.logDuplicate topic token
            return (.error (alreadySubscribed topic token), b)

/-- Removes a subscription. Answers whether there was one. -/
def unsubscribe (b : Bus ω ρ) (topic : Topic) (token : Token) (warn : Bool) :
    Journaled (Activity ω ρ) (Result Bool × Bus ω ρ) :=
  b.whileOpen "unsubscribe from" topic.id.text <|
    match b.table.change? topic (·.remove? token) with
    | some table => return (.ok true, { b with table := table })
    | none => do
      if warn then
        b.log .warn "events.unsubscribe.missing" "no such subscription"
          (topicFields topic ++ [("token", token.text)])
      return (.ok false, b)

/-- Enables or disables a subscription. Answers whether there is one. -/
def setEnabled (b : Bus ω ρ) (topic : Topic) (token : Token) (isEnabled : Bool) :
    Journaled (Activity ω ρ) (Result Bool × Bus ω ρ) :=
  b.whileOpen "toggle a subscription on" topic.id.text <|
    match b.table.change? topic (·.setEnabled? token isEnabled) with
    | some table => return (.ok true, { b with table := table })
    | none => return (.ok false, b)

/-! ## Delivery -/

/-- The bus after a delivery that may happen once only, or nothing if it has happened. -/
def latched? (b : Bus ω ρ) (slot : Slot ω ρ Latch) (oneShot : Bool) : Option (Bus ω ρ) :=
  if oneShot then
    if b.table.isSet slot.latch then none
    else some { b with table := b.table.setLatch slot.latch true }
  else some b

/-- Hands an event to the network. -/
def send (b : Bus ω ρ) (topic : Topic) (payload : ρ) (oneShot : Bool) :
    Journaled (Activity ω ρ) PUnit :=
  Journaled.tell (.sent ⟨topic, payload, oneShot, b.isServer⟩)

/-- Raises an event for those of its targets that are allowed: the own process first, then the
network. Answers how many handlers ran, and the payload they left. -/
def raise (b : Bus ω ρ) (topic : Topic) (payload : ρ) (oneShot : Bool) (target : Origin) :
    Journaled (Activity ω ρ) ((Nat × ρ) × Bus ω ρ) :=
  match b.table.slot? topic with
  | none => return ((0, payload), b)
  | some slot =>
    let effective := target.inter slot.allowed
    if effective.isEmpty then do
      b.log .warn "events.raise.invalid_target" "target not allowed for event"
        (topicFields topic ++ [("target", target.name), ("allowed", slot.allowed.name)])
      return ((0, payload), b)
    else match b.latched? slot oneShot with
      | none => return ((0, payload), b)
      | some b => do
        let (count, payload) ←
          if effective.hasLocal then slot.deliver topic.id payload .localOnly
          else pure (0, payload)
        if effective.hasNetworked then b.send topic payload oneShot
        return ((count, payload), b)

/-- Raises an event for the own process only. -/
def raiseLocal (b : Bus ω ρ) (topic : Topic) (payload : ρ) :
    Journaled (Activity ω ρ) ((Nat × ρ) × Bus ω ρ) :=
  b.raise topic payload false .localOnly

/-- Delivers an event that came from the network. -/
def receive (b : Bus ω ρ) (topic : Topic) (payload : ρ) (oneShot : Bool) :
    Journaled (Activity ω ρ) ((Nat × ρ) × Bus ω ρ) :=
  match b.table.slot? topic with
  | none => do
    b.log .error "events.receive.unknown" "no registration for networked event"
      (topicFields topic)
    return ((0, payload), b)
  | some slot =>
    match b.latched? slot oneShot with
    | none => return ((0, payload), b)
    | some b => do
      let answer ← slot.deliver topic.id payload .networked
      return (answer, b)

/-- Lets a topic fire again. Answers whether it is registered. -/
def rearm (b : Bus ω ρ) (topic : Topic) : Bool × Bus ω ρ :=
  match b.table.slot? topic with
  | some slot => (true, { b with table := b.table.setLatch slot.latch false })
  | none => (false, b)

/-! ## Phases -/

/-- Closes or opens registration, unless it is so already. -/
def setLock (b : Bus ω ρ) (isLocked : Bool) : Journaled (Activity ω ρ) (Bus ω ρ) :=
  if b.isLocked = isLocked then return b
  else if isLocked then do
    b.log .debug "events.lock" "locking registrations" []
    return { b with table := b.table.lock }
  else do
    b.log .debug "events.unlock" "unlocking registrations" []
    return { b with table := b.table.unlock }

/-- Opens registration. -/
def start (b : Bus ω ρ) : Journaled (Activity ω ρ) (Bus ω ρ) := do
  b.log .debug "events.startup" "initializing" [("channel", b.channel)]
  b.setLock false

/-- Closes registration. -/
def ready (b : Bus ω ρ) : Journaled (Activity ω ρ) (Bus ω ρ) := do
  let b ← b.setLock true
  b.log .debug "events.ready" "init complete"
    [("channel", b.channel), ("registrations", toString b.registrationCount)]
  return b

/-- Drops all topics and controllers. -/
def shutdown (b : Bus ω ρ) : Journaled (Activity ω ρ) (Bus ω ρ) := do
  let b ← b.setLock true
  b.log .debug "events.terminate" "table cleared" [("channel", b.channel)]
  return { b with table := b.table.clear, controllers := [] }

/-! ## Controllers -/

/-- Does the work of a controller, and collects the topics that it registers. -/
def runSetup (b : Bus ω ρ) (d : Declared) :
    Setup ω α → Journaled (Activity ω ρ) (α × Bus ω ρ × Declared)
  | .done a => return (a, b, d)
  | .telling note next => do
    Journaled.tell (.told note)
    b.runSetup d next
  | .registering topic allowed next => do
    let (r, b) ← b.register topic allowed
    match r with
    | .ok _ => b.runSetup (d.add topic) (next (.ok topic.id))
    | .error e => b.runSetup d (next (.error e))

/-- Lets a controller join. If its work fails, what it has registered stays. -/
def join (b : Bus ω ρ) (c : Controller ω) :
    Journaled (Activity ω ρ) (Result Unit × Bus ω ρ) :=
  b.whileOpen "register controller" "" do
    let (r, b, d) ← b.runSetup ⟨c.name, []⟩ (c.define b.isServer)
    match r with
    | .error e => return (.error e, b)
    | .ok _ =>
      b.log .info "events.controller.registered" "controller ids defined"
        [("controller", d.controller), ("ids", toString d.topics.length)]
      return (.ok (), { b with controllers := b.controllers ++ [d] })

/-- The chosen topics of the controllers that joined. -/
def declaredTopics (b : Bus ω ρ) (payload : String) (s : Selection) : List Topic :=
  s.topicsOf b.controllers payload

/-- The chosen topics that are registered for an origin of the choice, each with its slot. -/
def selectedSlots (b : Bus ω ρ) (payload : String) (s : Selection) :
    List (Topic × Slot ω ρ Latch) :=
  ((b.declaredTopics payload s).filterMap fun topic =>
    (b.table.slot? topic).map fun slot => (topic, slot)).filter fun (_, slot) =>
      s.origins.intersects slot.allowed

/-- The chosen topics, each with the origins for which it is to be subscribed. -/
def planned (b : Bus ω ρ) (payload : String) (s : Selection) : List (Topic × Origin) :=
  (b.selectedSlots payload s).map fun (topic, slot) => (topic, s.origins.inter slot.allowed)

/-- Subscribes a handler to one topic after the other, each for its own origins. The first that
fails ends it, and the subscriptions before it stay. -/
def subscribeEach (b : Bus ω ρ) (token : Token) (handler : Handler ω ρ) :
    List (Topic × Origin) → Journaled (Activity ω ρ) (Result Unit × Bus ω ρ)
  | [] => return (.ok (), b)
  | (topic, origin) :: rest => do
    let (r, b) ← b.subscribe topic origin token handler
    match r with
    | .ok _ => b.subscribeEach token handler rest
    | .error e => return (.error e, b)

/-- Subscribes a handler to every chosen topic, or to none if its subscriber is subscribed to one of
them. Answers to how many. -/
def subscribeAll (b : Bus ω ρ) (payload : String) (token : Token) (s : Selection)
    (handler : Handler ω ρ) : Journaled (Activity ω ρ) (Result Nat × Bus ω ρ) :=
  b.whileOpen "subscribe to all of" "" <|
    match (b.selectedSlots payload s).find? fun (_, slot) => slot.holds token with
    | some (topic, _) => do
      b.logDuplicate topic token
      return (.error (alreadySubscribed topic token), b)
    | none => do
      let planned := b.planned payload s
      let (r, b) ← b.subscribeEach token handler planned
      return (r.map fun _ => planned.length, b)

/-- Removes somebody from one topic after the other, and adds up in how many there was a
subscription. The first that fails ends it. -/
def unsubscribeEach (b : Bus ω ρ) (token : Token) (count : Nat) :
    List Topic → Journaled (Activity ω ρ) (Result Nat × Bus ω ρ)
  | [] => return (.ok count, b)
  | topic :: rest => do
    let (r, b) ← b.unsubscribe topic token false
    match r with
    | .ok isFound => b.unsubscribeEach token (if isFound then count + 1 else count) rest
    | .error e => return (.error e, b)

/-- Removes somebody from every chosen topic. Answers from how many. -/
def unsubscribeAll (b : Bus ω ρ) (payload : String) (token : Token) (s : Selection) :
    Journaled (Activity ω ρ) (Result Nat × Bus ω ρ) :=
  b.whileOpen "unsubscribe from all of" "" <|
    b.unsubscribeEach token 0 (b.declaredTopics payload s)

end Bus

end ModuleRuntime.Event
