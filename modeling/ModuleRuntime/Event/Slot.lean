import ModuleRuntime.Event.Id
import ModuleRuntime.Event.Origin
import ModuleRuntime.Event.Token
import ModuleRuntime.Journaled
import ModuleRuntime.Log.Entry

/-!
# Slots

The subscribers of one topic, and its latch, by which a one-shot event fires only once. A subscriber
stands either among the enabled or among the disabled ones; a delivery runs the handlers of the
enabled ones in the order in which they stand, and each handler gets the payload as the one before
it left it.
-/

set_option autoImplicit false

namespace ModuleRuntime.Event

/-- An event, and the name of the type of its payload. -/
structure Topic where
  id : Id
  payload : String
  deriving DecidableEq

/-- An event on its way to the network. -/
structure Outbound (ρ : Type) where
  topic : Topic
  payload : ρ
  oneShot : Bool
  isServer : Bool

/-- What can be seen of a bus at work: entries of the log, calls of handlers with the payload that
they get, what handlers and controllers tell, and events on their way to the network. -/
inductive Activity (ω ρ : Type) where
  | logged (entry : Log.Entry)
  | called (token : Token) (id : Id) (payload : ρ)
  | told (note : ω)
  | sent (event : Outbound ρ)

/-- What a subscriber does with an event: it tells something and leaves a payload. -/
abbrev Handler (ω ρ : Type) := Id → ρ → Journaled ω ρ

/-- A handler that leaves the payload as it is. -/
def Handler.reading {ω ρ : Type} (tells : Id → ρ → List ω) : Handler ω ρ :=
  fun id payload => ⟨payload, tells id payload⟩

/-- A subscriber, the origins from which it takes events, and what it does with them. -/
structure Subscription (ω ρ : Type) where
  mask : Origin
  token : Token
  handler : Handler ω ρ

/-- The origins allowed for a topic, its latch, and its subscribers. What a latch is, is left open:
it may be a truth value or the place of one. -/
structure Slot (ω ρ κ : Type) where
  allowed : Origin
  latch : κ
  enabled : List (Subscription ω ρ)
  disabled : List (Subscription ω ρ)

namespace Slot

variable {ω ρ κ : Type}

/-- A slot without subscribers. -/
def new (allowed : Origin) (latch : κ) : Slot ω ρ κ :=
  ⟨allowed, latch, [], []⟩

/-- Whether a subscription is that of a subscriber. -/
def isOf (token : Token) (s : Subscription ω ρ) : Bool :=
  s.token == token

/-- The enabled and the disabled subscriptions. -/
def subscriptions (s : Slot ω ρ κ) : List (Subscription ω ρ) :=
  s.enabled ++ s.disabled

/-- Whether somebody is subscribed. -/
def holds (s : Slot ω ρ κ) (token : Token) : Bool :=
  s.subscriptions.any (isOf token)

/-- The slot with one more enabled subscription, unless its subscriber is subscribed. -/
def add? (s : Slot ω ρ κ) (subscription : Subscription ω ρ) : Option (Slot ω ρ κ) :=
  if s.holds subscription.token then none
  else some { s with enabled := s.enabled ++ [subscription] }

/-- The slot without somebody who is subscribed. -/
def remove? (s : Slot ω ρ κ) (token : Token) : Option (Slot ω ρ κ) :=
  if s.enabled.any (isOf token) then
    some { s with enabled := s.enabled.eraseP (isOf token) }
  else if s.disabled.any (isOf token) then
    some { s with disabled := s.disabled.eraseP (isOf token) }
  else none

/-- A subscription goes from one list to the end of the other, if it is not there already. -/
def move? (token : Token) (source destination : List (Subscription ω ρ)) :
    Option (List (Subscription ω ρ) × List (Subscription ω ρ)) :=
  match source.find? (isOf token) with
  | some s => some (source.eraseP (isOf token), destination ++ [s])
  | none => if destination.any (isOf token) then some (source, destination) else none

/-- The slot with somebody who is subscribed enabled or disabled. -/
def setEnabled? (s : Slot ω ρ κ) (token : Token) (isEnabled : Bool) : Option (Slot ω ρ κ) :=
  if isEnabled then
    (move? token s.disabled s.enabled).map fun (disabled, enabled) =>
      { s with enabled := enabled, disabled := disabled }
  else
    (move? token s.enabled s.disabled).map fun (enabled, disabled) =>
      { s with enabled := enabled, disabled := disabled }

/-- The enabled subscriptions that take events of an origin. -/
def eligible (s : Slot ω ρ κ) (origin : Origin) : List (Subscription ω ρ) :=
  s.enabled.filter fun subscription => subscription.mask.intersects origin

/-- Runs the handler of a subscription. -/
def call (id : Id) (payload : ρ) (s : Subscription ω ρ) : Journaled (Activity ω ρ) ρ := do
  Journaled.tell (.called s.token id payload)
  (s.handler id payload).mapJournal .told

/-- Delivers an event of an origin. Answers how many handlers ran, and the payload they left. -/
def deliver (s : Slot ω ρ κ) (id : Id) (payload : ρ) (origin : Origin) :
    Journaled (Activity ω ρ) (Nat × ρ) := do
  let payload ← (s.eligible origin).foldlM (call id) payload
  return ((s.eligible origin).length, payload)

end Slot

end ModuleRuntime.Event
