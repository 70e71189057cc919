import ModuleRuntime.Number.Instances

/-!
# Double precision numbers

A number of the format binary64 is kept as its 64 bits. A finite one is `significand · 2 ^ (scale -
1075)` with its sign, so that products and quotients are exact fractions of natural numbers, which
`ofFraction?` rounds to the nearest number, ties to the even significand.
-/

set_option autoImplicit false

namespace ModuleRuntime

/-- A binary64 number, by its bits. -/
structure Binary64 where
  bits : UInt64
  deriving DecidableEq

namespace Binary64

/-- Whether the sign bit is set. -/
def isNegative (x : Binary64) : Bool :=
  x.bits.toNat / 2 ^ 63 == 1

/-- The eleven bits of the exponent. -/
def exponentField (x : Binary64) : Nat :=
  x.bits.toNat / 2 ^ 52 % 2 ^ 11

/-- The fifty-two bits of the fraction. -/
def fractionField (x : Binary64) : Nat :=
  x.bits.toNat % 2 ^ 52

/-- The integer significand of a finite number. -/
def significand (x : Binary64) : Nat :=
  if x.exponentField = 0 then x.fractionField else 2 ^ 52 + x.fractionField

/-- The exponent of the unit of the significand, counted from `-1075`. -/
def scale (x : Binary64) : Nat :=
  max 1 x.exponentField

/-- The number with the given sign, exponent field and fraction field. -/
def ofFields (negative : Bool) (exponent fraction : Nat) : Binary64 :=
  ⟨UInt64.ofNat ((if negative then 2 ^ 63 else 0) + exponent * 2 ^ 52 + fraction)⟩

/-- Zero with a sign. -/
def zero (negative : Bool) : Binary64 :=
  ofFields negative 0 0

/-- The quotient rounded to the nearest natural number, a half to the even one. -/
def divNearest (num den : Nat) : Nat :=
  let q := num / den
  let r := num % den
  if 2 * r < den then q
  else if den < 2 * r then q + 1
  else q + q % 2

/-- The number nearest to the fraction `num / den`, ties to the even significand, or nothing when
the fraction rounds beyond the largest finite number. -/
def ofFraction? (negative : Bool) (num den : Nat) : Option Binary64 :=
  let units := num * 2 ^ 1074
  let whole := units / den
  let shift := if whole < 2 ^ 53 then 0 else Nat.log2 whole - 52
  let rounded := divNearest units (den * 2 ^ shift)
  let (m, p) := if rounded < 2 ^ 53 then (rounded, shift) else (rounded / 2, shift + 1)
  if m < 2 ^ 52 then some (ofFields negative 0 m)
  else if p + 1 < 2047 then some (ofFields negative (p + 1) (m - 2 ^ 52))
  else none

/-- The product of two finite numbers with the sign of the first, or nothing on overflow. -/
def mulAbs? (x y : Binary64) : Option Binary64 :=
  ofFraction? x.isNegative (x.significand * y.significand * 2 ^ (x.scale + y.scale)) (2 ^ 2150)

/-- The quotient of a finite number by a positive one, with the sign of the first. -/
def divAbs? (x y : Binary64) : Option Binary64 :=
  ofFraction? x.isNegative (x.significand * 2 ^ x.scale) (y.significand * 2 ^ y.scale)

/-- The number of the opposite sign. -/
def negate (x : Binary64) : Binary64 :=
  ofFields (!x.isNegative) x.exponentField x.fractionField

end Binary64

end ModuleRuntime
