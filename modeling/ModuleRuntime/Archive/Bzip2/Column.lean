import ModuleRuntime.Archive.PrefixCode

/-!
# Columns

The column of a block is written in symbols of prefix codes. Some symbols are digits of how often
the octet at the front of a list is repeated; the others bring the octet at their place of the list
to its front. After every 50 symbols a selector says in which code the next ones are written.
-/

set_option autoImplicit false

namespace ModuleRuntime.Archive.Bzip2

open Unpacker

/-- The greatest length of a word. -/
def longest : Nat := 20

/-- How many symbols a selector is for. -/
def selected : Nat := 50

/-- The weight that no digit of a repetition reaches. -/
def heaviest : Nat := 2 ^ 21

/-- The member of a list at a place, and the list with that member at its front. -/
def toFront? {α : Type} (list : List α) (place : Nat) : Option (α × List α) :=
  list[place]?.map fun a => (a, a :: list.eraseIdx place)

/-! ## Codes -/

/-- The octets that a block uses: a flag for each sixteen, and a flag for each octet of those. -/
def usedOctets : Unpacker (List UInt8) := do
  let rows ← (← flags 16).mapM fun used =>
    if used then flags 16 else return List.replicate 16 false
  return rows.flatten.zipIdx.filterMap fun (used, octet) =>
    if used then some (UInt8.ofNat octet) else none

/-- A number below a limit, written as that many ones and a zero. -/
def unary : Nat → Unpacker Nat
  | 0 => damaged
  | limit + 1 => do
    if ← flag then return (← unary limit) + 1 else return 0

/-- The members that places name one after another, each brought to the front of the list. -/
def members? {α : Type} (list : List α) : List Nat → Option (List α)
  | [] => some []
  | place :: places => do
    let (a, list) ← toFront? list place
    return a :: (← members? list places)

/-- The numbers of the codes, in the order in which they are used. -/
def selectors (codes : Nat) : Unpacker (List Nat) := do
  let count ← highNumber 15
  let places ← (List.replicate count codes).mapM unary
  present (members? (List.range codes) places)

/-- The length of a word: the one before, up by one or down by one until a zero. -/
def wordLength : Nat → Nat → Unpacker Nat
  | 0, _ => damaged
  | fuel + 1, length => do
    if length < 1 || longest < length then damaged
    else if !(← flag) then return length
    else if ← flag then wordLength fuel (length - 1)
    else wordLength fuel (length + 1)

/-- The lengths of a number of words, from the length before them on. -/
def wordLengths (fuel : Nat) : Nat → Nat → Unpacker (List Nat)
  | 0, _ => return []
  | words + 1, length => do
    let length ← wordLength fuel length
    return length :: (← wordLengths fuel words length)

/-- The code of a number of symbols. -/
def code (fuel symbols : Nat) : Unpacker PrefixCode := do
  return .ofLengths (← wordLengths fuel symbols (← highNumber 5))

/-! ## Symbols -/

/-- A column that is being read: its octets, the list of octets with the latest at its front, how
often that one is still to be repeated, and the weight of the next digit. -/
structure Column where
  octets : Array UInt8
  list : List UInt8
  repetition : Nat
  weight : Nat

/-- The column after a digit of a repetition; the digits are one and two. -/
def Column.digit? (c : Column) (digit : Nat) : Option Column :=
  if c.weight < heaviest then
    some { c with repetition := c.repetition + digit * c.weight, weight := 2 * c.weight }
  else none

/-- The column after the octets of its repetition, if there is room for them. -/
def Column.closed? (c : Column) (room : Nat) : Option Column :=
  if c.octets.size + c.repetition ≤ room then
    some { c with
      octets := c.octets ++ Array.replicate c.repetition (c.list.headD 0)
      repetition := 0
      weight := 1 }
  else none

/-- The column after the octet at a place of the list, if there is room for it. -/
def Column.octet? (c : Column) (room place : Nat) : Option Column := do
  let c ← c.closed? room
  let (octet, list) ← toFront? c.list place
  if c.octets.size < room then some { c with octets := c.octets.push octet, list := list } else none

/-- The number of the code for the next symbol, and what follows it. The codes are given with the
number of symbols they are for. -/
def nextCode? : List (Nat × Nat) → Option (Nat × List (Nat × Nat))
  | [] => none
  | (_, 0) :: rest => nextCode? rest
  | (code, symbols + 1) :: rest => some (code, (code, symbols) :: rest)

/-- The octets of a column from its symbols up to the ending one. -/
def octetsFrom (codes : Array PrefixCode) (room ending : Nat) :
    Nat → List (Nat × Nat) → Column → Unpacker (Array UInt8)
  | 0, _, _ => damaged
  | fuel + 1, order, column => do
    let (number, order) ← present (nextCode? order)
    let symbol ← (← present codes[number]?).symbol
    if symbol < 2 then
      octetsFrom codes room ending fuel order (← present (column.digit? (symbol + 1)))
    else if symbol = ending then return (← present (column.closed? room)).octets
    else octetsFrom codes room ending fuel order (← present (column.octet? room (symbol - 1)))

/-- The column of a block that has room for a number of octets. -/
def column (fuel room : Nat) : Unpacker (Array UInt8) := do
  let used ← usedOctets
  let codes ← highNumber 3
  if used.isEmpty || codes < 2 || 6 < codes then damaged
  let order ← selectors codes
  if order.isEmpty then damaged
  let codes ← (List.replicate codes (used.length + 2)).mapM (code fuel)
  octetsFrom codes.toArray room (used.length + 1) fuel (order.map (·, selected)) ⟨#[], used, 0, 1⟩

end ModuleRuntime.Archive.Bzip2
