/-!
# Runs

After four equal octets stands how often the octet is repeated once more, from not at all to 255
times. A new run starts behind that count.
-/

set_option autoImplicit false

namespace ModuleRuntime.Archive.Bzip2

/-- The octets so far, the last of them, and how many equal ones the run at hand has. -/
structure Runs where
  octets : Array UInt8
  last : UInt8
  length : Nat

/-- Takes one more octet or count. -/
def Runs.step (r : Runs) (octet : UInt8) : Runs :=
  if r.length = 4 then
    ⟨r.octets ++ Array.replicate octet.toNat r.last, r.last, 0⟩
  else if r.length ≠ 0 ∧ r.last = octet then ⟨r.octets.push octet, octet, r.length + 1⟩
  else ⟨r.octets.push octet, octet, 1⟩

/-- The octets with their runs written out, unless a count is missing at the end. -/
def writtenOut? (octets : Array UInt8) : Option (Array UInt8) :=
  let r := octets.foldl Runs.step ⟨#[], 0, 0⟩
  if r.length = 4 then none else some r.octets

end ModuleRuntime.Archive.Bzip2
