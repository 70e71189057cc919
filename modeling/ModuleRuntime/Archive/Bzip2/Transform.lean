/-!
# Sorting rotations

A block is the last column of its rotations in sorted order. The column and the place of the block
itself among the rotations determine the block.
-/

set_option autoImplicit false

namespace ModuleRuntime.Archive.Bzip2

/-- The places of a column in the order of their octets; equal octets stay in order. -/
def places (column : Array UInt8) : Array Nat :=
  ((column.toList.zipIdx.mergeSort fun a b => a.1 ≤ b.1).map Prod.snd).toArray

/-- The octets that follow a place of the column, one for each place that leads to the next. -/
def follow (column : Array UInt8) (places : Array Nat) : Nat → Nat → Array UInt8 → Array UInt8
  | 0, _, octets => octets
  | n + 1, place, octets =>
    let place := places.getD place 0
    follow column places n place (octets.push (column.getD place 0))

/-- The block of a column, where the block itself has the given place. -/
def blockOf (column : Array UInt8) (origin : Nat) : Array UInt8 :=
  follow column (places column) column.size origin #[]

end ModuleRuntime.Archive.Bzip2
