import ModuleRuntime.Number.Binary64

/-!
# The shortest decimal of a number

A decimal reads back as a number when it lies in the interval of reals that round to it. For one to
seventeen digits the two neighbours of the number on the grid of decimals with so many digits are
tried; the first grid with a neighbour in the interval gives the digits, the nearer of two. Which
one is taken of two that are equally near is up to the format.
-/

set_option autoImplicit false

namespace ModuleRuntime

/-- A positive decimal `0.d₁d₂… · 10 ^ point`, by its digits `d₁d₂…` as one number. -/
structure Decimal where
  digits : Nat
  point : Int
  deriving DecidableEq

/-- Which one is taken of two neighbours that are equally near: the one whose last digit is even, or
the greater one. -/
inductive Tie where
  | even
  | up
  deriving DecidableEq

/-- The digits taken of two equally near neighbours `d` and `d + 1`. -/
def Tie.pick : Tie → Nat → Nat
  | even, d => d + d % 2
  | up, d => d + 1

namespace Binary64

/-- The interval of a positive finite number as numerators over one denominator: the number, its
lower and its upper end. The ends belong to it exactly when the significand is even. -/
def interval (x : Binary64) : Nat × Nat × Nat × Nat :=
  let m := x.significand
  let below := if m = 2 ^ 52 ∧ 1 < x.scale then 1 else 2
  let unit := 2 ^ x.scale
  (4 * m * unit, (4 * m - below) * unit, (4 * m + 2) * unit, 4 * 2 ^ 1075)

/-- The least exponent `point` with `num / den < 10 ^ point`, looked for from `guess` upwards. -/
def pointFrom (num den : Nat) : Nat → Int → Int
  | 0, guess => guess
  | fuel + 1, guess =>
    let fits :=
      if 0 ≤ guess then num < den * 10 ^ guess.toNat else num * 10 ^ (-guess).toNat < den
    if fits then guess else pointFrom num den fuel (guess + 1)

/-- A guess at the decimal exponent that is never above it, from the binary exponent. -/
def pointGuess (num den : Nat) : Int :=
  let binary := (Nat.log2 num : Int) - (Nat.log2 den : Int) - 1
  (binary * 30103).fdiv 100000 - 1

/-- The digits of the neighbour on the grid of `count` digits that reads back, if there is one. -/
def onGrid? (tie : Tie) (x : Binary64) (point : Int) (count : Nat) : Option Nat :=
  let (num, low, high, den) := x.interval
  let drop := point - count
  let up := if drop < 0 then 10 ^ (-drop).toNat else 1
  let down := if drop < 0 then 1 else 10 ^ drop.toNat
  let unit := den * down
  let d := num * up / unit
  let inside (n : Nat) : Bool :=
    let v := n * unit
    if x.significand % 2 = 0 then low * up ≤ v && v ≤ high * up
    else low * up < v && v < high * up
  match inside d, inside (d + 1) with
  | true, true =>
    let below := num * up - d * unit
    let above := (d + 1) * unit - num * up
    some (if below < above then d else if above < below then d + 1 else tie.pick d)
  | true, false => some d
  | false, true => some (d + 1)
  | false, false => none

/-- The digits on the first of the grids with `count`, `count + 1`, … digits that has a hit. -/
def digitsFrom (tie : Tie) (x : Binary64) (point : Int) : Nat → Nat → Nat × Nat
  | 0, count => (0, count)
  | fuel + 1, count =>
    match x.onGrid? tie point count with
    | some d => (d, count)
    | none => digitsFrom tie x point fuel (count + 1)

/-- The shortest decimal that reads back as a positive finite number, without zeros at its end. -/
def shortest (x : Binary64) (tie : Tie) : Decimal :=
  let (num, _, _, den) := x.interval
  let point := pointFrom num den 8 (pointGuess num den)
  let (d, count) := digitsFrom tie x point 17 1
  if d = 10 ^ count then ⟨1, point + 1⟩ else ⟨d, point⟩

end Binary64

/-- How a number is written: from which exponent of ten on and up to which one the notation is
positional, which one of two equally near decimals is taken, and whether an exponent above zero has
a sign. The exponent is that of the first digit. -/
structure NumberFormat where
  leastPositional : Int
  greatestPositional : Int
  tie : Tie
  signsExponent : Bool
  deriving DecidableEq

namespace NumberFormat

/-- The text of an exponent. -/
def writeExponent (format : NumberFormat) (exponent : Int) : String :=
  (if format.signsExponent && 0 < exponent then "+" else "") ++ toString exponent

/-- The text of a positive decimal. -/
def writeDecimal (format : NumberFormat) (d : Decimal) : String :=
  let digits := Nat.toDigits 10 d.digits
  let exponent := d.point - 1
  String.ofList <|
    if format.leastPositional ≤ exponent ∧ exponent ≤ format.greatestPositional then
      if d.point ≤ 0 then
        '0' :: '.' :: (List.replicate (-d.point).toNat '0' ++ digits)
      else
        let whole := d.point.toNat
        let padded := digits ++ List.replicate (whole - digits.length) '0'
        let places := padded.drop whole
        padded.take whole ++ ('.' :: if places.isEmpty then ['0'] else places)
    else
      let mantissa :=
        match digits with
        | [] => []
        | [c] => [c]
        | c :: places => c :: '.' :: places
      mantissa ++ ('e' :: (format.writeExponent exponent).toList)

/-- The text of a finite number; zero is positional and keeps its sign. -/
def write (format : NumberFormat) (x : Binary64) : String :=
  let sign := if x.isNegative then "-" else ""
  if x.significand = 0 then sign ++ "0.0"
  else sign ++ format.writeDecimal (x.shortest format.tie)

end NumberFormat

end ModuleRuntime
