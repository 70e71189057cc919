/-!
# Numbers in octets

Numbers written with the lowest octet first, and pieces of a sequence of octets.
-/

set_option autoImplicit false

namespace ModuleRuntime.Archive

/-- The number of a sequence of octets, the lowest first. -/
def number (octets : List UInt8) : Nat :=
  octets.foldr (fun octet n => 256 * n + octet.toNat) 0

/-- The lowest octets of a number, the lowest first. -/
def octetsOf : Nat → Nat → List UInt8
  | 0, _ => []
  | count + 1, n => UInt8.ofNat n :: octetsOf count (n / 256)

/-- A number fills as many octets as it is given. -/
@[simp]
theorem length_octetsOf (count n : Nat) : (octetsOf count n).length = count := by
  induction count generalizing n <;> simp [octetsOf, *]

/-- The piece of a given length at a position, if it is all there. -/
def piece? (octets : List UInt8) (position length : Nat) : Option (List UInt8) :=
  let piece := (octets.drop position).take length
  if piece.length = length then some piece else none

/-- The number in a piece. -/
def numberAt? (octets : List UInt8) (position length : Nat) : Option Nat :=
  (piece? octets position length).map number

end ModuleRuntime.Archive
