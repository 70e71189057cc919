import ModuleRuntime.Archive.Zstandard.StateCode

/-!
# Literals

The octets of a block that are not repetitions of earlier ones. They stand in the block as they are,
as one octet for all, or in the words of a tree, which may be the tree of an earlier block.
-/

set_option autoImplicit false

namespace ModuleRuntime.Archive.Zstandard

open Unpacker

/-! ## Trees -/

/-- A tree of words of at most `log` bits: for each number of that many bits the octet whose word
starts it, and the length of the word. -/
structure Tree where
  log : Nat
  words : Array (UInt8 × Nat)

/-- The greatest length of a word. -/
def longest : Nat := 12

/-- How many numbers of full length start with a word of the given weight. -/
def startsOf (weight : Nat) : Nat :=
  if weight = 0 then 0 else 2 ^ (weight - 1)

/-- The tree in which the octet `i` has the weight `weights[i]`. Words of smaller weights come
first, and words of one weight follow each other in the order of their octets. -/
def Tree.ofWeights (log : Nat) (weights : List Nat) : Tree where
  log := log
  words := ((List.range log).flatMap fun i =>
    weights.zipIdx.flatMap fun (weight, octet) =>
      if weight = i + 1 then List.replicate (startsOf weight) (UInt8.ofNat octet, log - i)
      else []).toArray

/-- The tree of all weights but the last, which has to make the words complete. -/
def Tree.ofAllButLast? (weights : List Nat) : Option Tree :=
  let total := (weights.map startsOf).sum
  let log := total.log2 + 1
  let missing := 2 ^ log - total
  let all := weights ++ [missing.log2 + 1]
  let leaves := all.count 1
  if total ≠ 0 ∧ log ≤ longest ∧ 2 ^ missing.log2 = missing ∧ 2 ≤ leaves ∧ leaves % 2 = 0
      ∧ weights.all (· ≤ longest) then
    some (.ofWeights log all)
  else none

/-- Weights in a state code with two states that take turns, the latest first in `done`. The last
state is known when the bits do not suffice for the one after it. -/
def weightsFrom (code : StateCode) : Nat → State → State → List Nat → Unpacker (List Nat)
  | 0, _, _, _ => damaged
  | fuel + 1, s, other, done => do
    let done := s.symbol :: done
    if (← left) < s.bits then
      let _ ← takeAll
      return (other.symbol :: done).reverse
    else weightsFrom code fuel other (← code.after s) done

/-- The most weights that are written in a state code. -/
def mostWeights : Nat := 255

/-- Weights that are written in a state code. -/
def codedWeights : Unpacker (List Nat) := do
  let code ← StateCode.described 256 6
  turn
  let first ← code.first
  let second ← code.first
  weightsFrom code (mostWeights - 1) first second []

/-- Weights that are written in half an octet each. -/
def plainWeights (count : Nat) : Unpacker (List Nat) := do
  let octets ← (List.replicate ((count + 1) / 2) 8).mapM lowNumber
  return (octets.flatMap fun octet => [octet / 16, octet % 16]).take count

/-- The tree that a block describes. -/
def Tree.described : Unpacker Tree := do
  let header ← lowNumber 8
  let weights ←
    if header < 128 then within (← slice header) codedWeights
    else plainWeights (header - 127)
  present (Tree.ofAllButLast? weights)

/-- The octet of the next word. Bits that are missing behind the last word count as zeros. -/
def Tree.octet (t : Tree) : Unpacker UInt8 := do
  let bits := (← get).rest.take t.log
  let number := bits.foldl (fun n b => 2 * n + b.toNat) 0 * 2 ^ (t.log - bits.length)
  let (octet, length) ← present t.words[number]?
  let _ ← highNumber length
  return octet

/-- A number of octets behind others. -/
def Tree.octets (t : Tree) : Nat → Array UInt8 → Unpacker (Array UInt8)
  | 0, done => return done
  | n + 1, done => do t.octets n (done.push (← t.octet))

/-- The octets of a stream, which is read from its end. -/
def Tree.stream (t : Tree) (count : Nat) (done : Array UInt8) (bits : List Bool) :
    Unpacker (Array UInt8) :=
  within bits (do turn; t.octets count done)

/-- Octets in four streams, of which the first three are equally long. -/
def Tree.fourStreams (t : Tree) (count : Nat) : Unpacker (Array UInt8) := do
  let size₁ ← lowNumber 16
  let size₂ ← lowNumber 16
  let size₃ ← lowNumber 16
  let each := (count + 3) / 4
  if count < 6 then damaged
  let octets ← t.stream each #[] (← slice size₁)
  let octets ← t.stream each octets (← slice size₂)
  let octets ← t.stream each octets (← slice size₃)
  t.stream (count - 3 * each) octets (← takeAll)

/-! ## Sections -/

/-- The size of literals that stand in no tree. -/
def plainSize : Unpacker Nat := do
  if !(← flag) then lowNumber 5
  else if ← flag then lowNumber 20
  else lowNumber 12

/-- The literals of a block, at most `limit` many, and the tree that is known after them. -/
def literals (limit : Nat) (known : Option Tree) : Unpacker (Array UInt8 × Option Tree) := do
  let kind ← lowNumber 2
  if kind < 2 then
    let count ← plainSize
    if limit < count then damaged
    let octets ←
      if kind = 0 then (List.replicate count 8).mapM lowNumber
      else List.replicate count <$> lowNumber 8
    return ((octets.map UInt8.ofNat).toArray, known)
  else
    let form ← lowNumber 2
    let width := if form = 3 then 18 else if form = 2 then 14 else 10
    let count ← lowNumber width
    let size ← lowNumber width
    if limit < count then damaged
    within (← slice size) do
      let tree ← if kind = 2 then Tree.described else present known
      let octets ←
        if form = 0 then tree.stream count #[] (← takeAll) else tree.fourStreams count
      return (octets, some tree)

end ModuleRuntime.Archive.Zstandard
