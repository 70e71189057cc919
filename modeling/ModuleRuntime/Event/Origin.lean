/-!
# Origins

Where an event may come from, as flags in eight bits: the own process and the network. Other bits
have no meaning and are kept.
-/

set_option autoImplicit false

namespace ModuleRuntime.Event

/-- A set of origins. -/
structure Origin where
  bits : UInt8
  deriving DecidableEq

namespace Origin

/-- No origin. -/
def none : Origin := ⟨0⟩

/-- The own process. -/
def localOnly : Origin := ⟨1⟩

/-- The network. -/
def networked : Origin := ⟨4⟩

/-- The own process and the network. -/
def both : Origin := ⟨5⟩

/-- The origins in both sets. -/
def inter (a b : Origin) : Origin :=
  ⟨a.bits &&& b.bits⟩

/-- The origins in either set. -/
def union (a b : Origin) : Origin :=
  ⟨a.bits ||| b.bits⟩

/-- The origins in the first set and not in the second. -/
def diff (a b : Origin) : Origin :=
  ⟨a.bits &&& ~~~b.bits⟩

/-- The known origins of a set. -/
def truncated (a : Origin) : Origin :=
  a.inter both

/-- The known origins that are not in a set. -/
def complement (a : Origin) : Origin :=
  both.diff a

/-- Whether a set holds every origin of another. -/
def contains (a b : Origin) : Bool :=
  a.inter b == b

/-- Whether two sets have an origin in common. -/
def intersects (a b : Origin) : Bool :=
  a.inter b != none

/-- Whether a set holds no origin. -/
def isEmpty (a : Origin) : Bool :=
  a == none

/-- Whether every bit of a set is a known origin. -/
def isKnown (a : Origin) : Bool :=
  a.diff both == none

/-- Whether events may come from the own process. -/
def hasLocal (a : Origin) : Bool :=
  a.contains localOnly

/-- Whether events may come from the network. -/
def hasNetworked (a : Origin) : Bool :=
  a.contains networked

/-- The name of a set of origins. -/
def name (a : Origin) : String :=
  match a.hasLocal, a.hasNetworked with
  | true, true => "Both"
  | true, false => "Local"
  | false, true => "Networked"
  | false, false => "None"

end Origin

end ModuleRuntime.Event
