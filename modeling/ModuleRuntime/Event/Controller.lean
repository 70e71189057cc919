import ModuleRuntime.Error
import ModuleRuntime.Event.Slot

/-!
# Controllers

A controller owns events and registers them when it joins a bus. The events that it has registered
are kept under its name, so that somebody can subscribe to all of them.
-/

set_option autoImplicit false

namespace ModuleRuntime.Event

/-- The work of a controller that joins a bus: it registers topics one after the other, sees the
answer to each, and may tell something on the way. -/
inductive Setup (ω α : Type) where
  | done (a : α)
  | telling (note : ω) (next : Setup ω α)
  | registering (topic : Topic) (allowed : Origin) (next : Result Id → Setup ω α)

namespace Setup

variable {ω α β : Type}

/-- One work after the other. -/
def andThen : Setup ω α → (α → Setup ω β) → Setup ω β
  | done a, f => f a
  | telling note next, f => telling note (next.andThen f)
  | registering topic allowed next, f => registering topic allowed fun r => (next r).andThen f

instance : Monad (Setup ω) where
  pure := done
  bind := andThen

/-- Tells something. -/
def tell (note : ω) : Setup ω Unit :=
  telling note (done ())

/-- Registers a topic. -/
def register (topic : Topic) (allowed : Origin) : Setup ω (Result Id) :=
  registering topic allowed done

/-- Registers a topic for events of the own process only. -/
def registerLocal (topic : Topic) : Setup ω (Result Id) :=
  register topic .localOnly

/-- Registers a topic that the server raises: there its events have both origins, elsewhere they
come from the network. -/
def registerServed (isServer : Bool) (topic : Topic) : Setup ω (Result Id) :=
  register topic (if isServer then .both else .networked)

end Setup

/-- A controller, and its work when it joins a bus, of which it learns whether it is
the server's. -/
structure Controller (ω : Type) where
  name : String
  define : (isServer : Bool) → Setup ω (Result Unit)

/-- The topics that a controller has registered, each once. -/
structure Declared where
  controller : String
  topics : List Topic
  deriving DecidableEq

namespace Declared

/-- One more topic, unless it is there already. -/
def add (d : Declared) (topic : Topic) : Declared :=
  if d.topics.contains topic then d else { d with topics := d.topics ++ [topic] }

/-- The events with a type of payload. -/
def idsOf (d : Declared) (payload : String) : List Id :=
  (d.topics.filter (·.payload == payload)).map (·.id)

end Declared

/-- A choice among the events of controllers, and the origins to subscribe with. -/
structure Selection where
  origins : Origin
  category : Option String
  ignored : List Id
  deriving DecidableEq

namespace Selection

/-- All events of controllers, with all origins. -/
def all : Selection :=
  ⟨.both, none, []⟩

/-- Whether an event is chosen. -/
def admits (s : Selection) (id : Id) : Bool :=
  (match s.category with
    | some category => category == id.category
    | none => true)
  && !s.ignored.contains id

/-- The chosen topics of controllers with a type of payload, each once. -/
def topicsOf (s : Selection) (controllers : List Declared) (payload : String) : List Topic :=
  (((controllers.flatMap (·.idsOf payload)).filter s.admits).eraseDups).map (⟨·, payload⟩)

end Selection

end ModuleRuntime.Event
