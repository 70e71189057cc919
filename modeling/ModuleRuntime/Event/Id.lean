import ModuleRuntime.Digest.Blake3
import ModuleRuntime.Text.Utf8

/-!
# Event ids

An event is named within a category. Both ends of a network agree on a hash of sixty-four bits that
is taken from the category, a zero octet and the name.
-/

set_option autoImplicit false

namespace ModuleRuntime.Event

/-- The name of an event, and its category. -/
structure Id where
  name : String
  category : String
  deriving DecidableEq

namespace Id

/-- An event of no particular category. -/
def named (name : String) : Id :=
  ⟨name, "unsorted"⟩

/-- The category and the name, with a colon between them. -/
def text (id : Id) : String :=
  id.category ++ ":" ++ id.name

/-- The octets that are hashed. -/
def hashInput (id : Id) : List UInt8 :=
  Text.Utf8.encode id.category ++ [0] ++ Text.Utf8.encode id.name

/-- The first eight octets of the digest as a number, the lowest first. -/
def stableHash (id : Id) : Nat :=
  ((Blake3.digest id.hashInput).take 8).foldr (fun octet n => 256 * n + octet.toNat) 0

/-- The id as diagnostics show it. -/
def debugText (id : Id) : String :=
  "RtEventId(" ++ id.text ++ ")"

end Id

end ModuleRuntime.Event
