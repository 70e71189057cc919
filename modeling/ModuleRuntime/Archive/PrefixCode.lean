import ModuleRuntime.Archive.Unpacker

/-!
# Prefix codes

Codes whose words have different lengths and of which no word starts another. A code is given by the
lengths of its words: shorter words come first, and words of one length follow each other in the
order of their symbols.
-/

set_option autoImplicit false

namespace ModuleRuntime.Archive

/-- A prefix code: for every length from one on how many words it has, and the symbols in the order
of their words. -/
structure PrefixCode where
  counts : List Nat
  symbols : Array Nat

namespace PrefixCode

/-- The code in which the symbol `i` has a word of the length `lengths[i]`, or none for zero. -/
def ofLengths (lengths : List Nat) : PrefixCode :=
  let upTo := (List.range (lengths.foldl max 1)).map (· + 1)
  { counts := upTo.map lengths.count
    symbols := (upTo.flatMap fun l =>
      lengths.zipIdx.filterMap fun (length, symbol) =>
        if length = l then some symbol else none).toArray }

/-- How much of the space of words is used, in words of the greatest length. -/
def weight (c : PrefixCode) : Nat :=
  c.counts.foldl (fun total count => 2 * total + count) 0

/-- Whether the words fill the space. -/
def isFull (c : PrefixCode) : Bool :=
  c.weight == 2 ^ c.counts.length

/-- Whether there is no word, or only one and that of one bit. -/
def isLone (c : PrefixCode) : Bool :=
  c.counts.length == 1 && c.symbols.size ≤ 1

/-- The symbol of the next word. `word` and `first` are the bits read so far and the first word of
their length, and `skipped` counts the shorter words. -/
def symbolFrom (symbols : Array Nat) (word first skipped : Nat) : List Nat → Unpacker Nat
  | [] => Unpacker.damaged
  | count :: counts => do
    let word := word + (← Unpacker.flag).toNat
    if word < first + count then Unpacker.present symbols[skipped + (word - first)]?
    else symbolFrom symbols (2 * word) (2 * (first + count)) (skipped + count) counts

/-- The symbol of the next word. -/
def symbol (c : PrefixCode) : Unpacker Nat :=
  symbolFrom c.symbols 0 0 0 c.counts

end PrefixCode

end ModuleRuntime.Archive
