import ModuleRuntime.Json.Basic

/-!
# Numerals

The decimal digits of a JSON number, and the number that they denote. An integer that fits in 64
bits is exact. Any other numeral is read in two steps, each rounded to the nearest number: the
leading digits, as many as fit in 64 bits without a sign, give the significand, and the significand
is multiplied or divided by a power of ten. A magnitude beyond the largest number denotes nothing.
-/

set_option autoImplicit false

namespace ModuleRuntime.Json

/-- The digits of a number, as they are written. -/
structure Numeral where
  negative : Bool
  whole : List Nat
  places : Option (List Nat)
  exponentNegative : Bool
  exponent : Option (List Nat)

namespace Numeral

/-- The first number that does not fit in 64 bits. -/
def wordLimit : Nat := 2 ^ 64

/-- The number of the digits that fit behind `n`, and the digits that do not. -/
def gather (n : Nat) : List Nat → Nat × List Nat
  | [] => (n, [])
  | d :: rest => if 10 * n + d < wordLimit then gather (10 * n + d) rest else (n, d :: rest)

/-- The power of ten of the exponent, or its sign when it does not fit in 31 bits. -/
def writtenExponent (x : Numeral) : Int ⊕ Bool :=
  match x.exponent with
  | none => .inl 0
  | some digits =>
    let n : Nat := digits.foldl (fun n d => 10 * n + d) 0
    if 2 ^ 31 ≤ n then .inr x.exponentNegative
    else .inl (if x.exponentNegative then -(n : Int) else n)

/-- The least and the greatest exponent in use. -/
def clampExponent (e : Int) : Int :=
  max (-2 ^ 31) (min e (2 ^ 31 - 1))

/-- A power of ten up to `10 ^ 308`, rounded. -/
def powerOfTen? (e : Nat) : Option Binary64 :=
  Binary64.ofFraction? false (10 ^ e) 1

/-- The number scaled by a negative power of ten, in steps of at most `10 ^ 308`. -/
def scaleDown? (x : Binary64) (e : Nat) : Option Binary64 :=
  if x.significand = 0 then some x
  else if e ≤ 308 then do
    x.divAbs? (← powerOfTen? e)
  else do
    let y ← x.divAbs? (← powerOfTen? 308)
    scaleDown? y (e - 308)
  termination_by e

/-- The significand scaled by a power of ten, each step rounded. -/
def scaled? (significand : Nat) (exponent : Int) : Option Binary64 := do
  let x ← Binary64.ofFraction? false significand 1
  if exponent < 0 then scaleDown? x (-exponent).toNat
  else if x.significand = 0 then some x
  else if 308 < exponent then none
  else x.mulAbs? (← powerOfTen? exponent.toNat)

/-- The number of a numeral with places, an exponent or too many digits. -/
def fraction? (x : Numeral) : Option Binary64 := do
  let (n, rest) := gather 0 x.whole
  let places := x.places.getD []
  let (m, unused) := gather n places
  let point : Int := (rest.length : Int) - ((places.length : Int) - unused.length)
  let magnitude ←
    match x.writtenExponent with
    | .inl e => scaled? m (clampExponent (point + e))
    | .inr negative => if m = 0 || negative then some (Binary64.zero false) else none
  some (if x.negative then magnitude.negate else magnitude)

/-- The number of a numeral, if it denotes one. -/
def value? (x : Numeral) : Option Number :=
  let (n, rest) := gather 0 x.whole
  if x.places.isNone && x.exponent.isNone && rest.isEmpty then
    if !x.negative then some (.integer n)
    else if n ≠ 0 && n ≤ 2 ^ 63 then some (.integer (-n))
    else x.fraction?.map .binary
  else x.fraction?.map .binary

end Numeral

end ModuleRuntime.Json
