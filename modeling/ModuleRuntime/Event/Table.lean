import ModuleRuntime.Dictionary
import ModuleRuntime.Event.Slot

/-!
# Tables of topics

The slots of topics stand in one map for each type of payload. While a table is unlocked its slots
change in place. Locking takes a snapshot of the slots, and as long as there is one every look-up
reads it. A slot and its copy in a snapshot have one latch in common, so what fires while the table
is locked has fired when it is unlocked again; clearing drops the slots with their latches.
-/

set_option autoImplicit false

namespace ModuleRuntime.Event

/-- Whether topics can be registered. A cleared table is locked and empty. -/
inductive Phase where
  | unlocked
  | locked
  | cleared
  deriving DecidableEq

/-- The name of a phase. -/
def Phase.name : Phase → String
  | unlocked => "Unlocked"
  | locked => "Locked"
  | cleared => "Cleared"

/-- The place of a latch among those of a table. -/
structure Latch where
  index : Nat
  deriving DecidableEq

/-- Slots by the type of the payload and the event. -/
structure SlotMap (ω ρ : Type) where
  byPayload : Dictionary String (Dictionary Id (Slot ω ρ Latch))

namespace SlotMap

variable {ω ρ : Type}

/-- The map without slots. -/
def empty : SlotMap ω ρ :=
  ⟨.empty⟩

/-- The slots for a type of payload. -/
def ofPayload (m : SlotMap ω ρ) (payload : String) : Dictionary Id (Slot ω ρ Latch) :=
  (m.byPayload.find? payload).getD .empty

/-- The slot of a topic. -/
def find? (m : SlotMap ω ρ) (topic : Topic) : Option (Slot ω ρ Latch) :=
  (m.ofPayload topic.payload).find? topic.id

/-- Whether a topic has a slot. -/
def contains (m : SlotMap ω ρ) (topic : Topic) : Bool :=
  (m.find? topic).isSome

/-- The map with a slot for a topic. -/
def put (m : SlotMap ω ρ) (topic : Topic) (slot : Slot ω ρ Latch) : SlotMap ω ρ :=
  ⟨m.byPayload.put topic.payload ((m.ofPayload topic.payload).put topic.id slot)⟩

/-- The number of slots. -/
def size (m : SlotMap ω ρ) : Nat :=
  (m.byPayload.values.map (·.size)).sum

/-- Only the topic for which a slot is put is looked up in another way. -/
@[simp]
theorem find?_put (m : SlotMap ω ρ) (topic topic' : Topic) (slot : Slot ω ρ Latch) :
    (m.put topic slot).find? topic' = if topic = topic' then some slot else m.find? topic' := by
  unfold find? put ofPayload
  rw [Dictionary.find?_put]
  by_cases hp : topic.payload = topic'.payload
  · rw [if_pos hp, Option.getD_some, Dictionary.find?_put, hp]
    by_cases hid : topic.id = topic'.id
    · have heq : topic = topic' := by
        cases topic
        cases topic'
        simp_all
      rw [if_pos hid, if_pos heq]
    · rw [if_neg hid, if_neg fun heq => hid (congrArg Topic.id heq)]
  · rw [if_neg hp, if_neg fun heq => hp (congrArg Topic.payload heq)]

/-- Putting a slot adds one, unless the topic has one. -/
theorem size_put (m : SlotMap ω ρ) (topic : Topic) (slot : Slot ω ρ Latch) :
    (m.put topic slot).size = if m.contains topic then m.size else m.size + 1 := by
  have hsum := Dictionary.sum_values_put (·.size) m.byPayload topic.payload
    ((m.ofPayload topic.payload).put topic.id slot)
  have hold : ((m.byPayload.find? topic.payload).map (·.size)).getD 0 =
      (m.ofPayload topic.payload).size := by
    unfold ofPayload
    cases m.byPayload.find? topic.payload <;> rfl
  have hcontains : (m.ofPayload topic.payload).contains topic.id = m.contains topic := rfl
  rw [hold, Dictionary.size_put, hcontains] at hsum
  change (m.put topic slot).size + _ = m.size + _ at hsum
  cases h : m.contains topic with
  | true =>
    rw [h, if_pos rfl] at hsum
    rw [if_pos rfl]
    omega
  | false =>
    rw [h, if_neg Bool.false_ne_true] at hsum
    rw [if_neg Bool.false_ne_true]
    omega

end SlotMap

/-- The slots of topics, the snapshot that look-ups read, which latches are set, and the phase. -/
structure Table (ω ρ : Type) where
  slots : SlotMap ω ρ
  snapshot : Option (SlotMap ω ρ)
  latches : List Bool
  phase : Phase

namespace Table

variable {ω ρ : Type}

/-- The unlocked table without topics. -/
def empty : Table ω ρ :=
  ⟨.empty, none, [], .unlocked⟩

/-- Whether registration is closed. -/
def isLocked (t : Table ω ρ) : Bool :=
  t.phase != .unlocked

/-- The slots that look-ups read. -/
def view (t : Table ω ρ) : SlotMap ω ρ :=
  t.snapshot.getD t.slots

/-- The slot of a topic as look-ups read it. -/
def slot? (t : Table ω ρ) (topic : Topic) : Option (Slot ω ρ Latch) :=
  t.view.find? topic

/-- The number of topics. -/
def size (t : Table ω ρ) : Nat :=
  t.slots.size

/-- The table with a slot for a topic that has none. Its latch is new and not set. -/
def insert? (t : Table ω ρ) (topic : Topic) (allowed : Origin) : Option (Table ω ρ) :=
  if t.slots.contains topic then none
  else some { t with
    slots := t.slots.put topic (Slot.new allowed ⟨t.latches.length⟩)
    latches := t.latches ++ [false] }

/-- The table with another slot for a topic. -/
def replace (t : Table ω ρ) (topic : Topic) (slot : Slot ω ρ Latch) : Table ω ρ :=
  { t with slots := t.slots.put topic slot }

/-- Changes the slot of a topic by a function that can refuse. -/
def change? (t : Table ω ρ) (topic : Topic)
    (f : Slot ω ρ Latch → Option (Slot ω ρ Latch)) : Option (Table ω ρ) :=
  ((t.slots.find? topic).bind f).map (t.replace topic)

/-- Whether a latch is set. -/
def isSet (t : Table ω ρ) (latch : Latch) : Bool :=
  t.latches.getD latch.index false

/-- Sets or resets a latch. -/
def setLatch (t : Table ω ρ) (latch : Latch) (value : Bool) : Table ω ρ :=
  { t with latches := t.latches.set latch.index value }

/-- Closes registration and takes a snapshot. -/
def lock (t : Table ω ρ) : Table ω ρ :=
  { t with snapshot := some t.slots, phase := .locked }

/-- Opens registration. -/
def unlock (t : Table ω ρ) : Table ω ρ :=
  { t with snapshot := none, phase := .unlocked }

/-- Drops everything and closes registration. -/
def clear (_ : Table ω ρ) : Table ω ρ :=
  ⟨.empty, none, [], .cleared⟩

end Table

end ModuleRuntime.Event
