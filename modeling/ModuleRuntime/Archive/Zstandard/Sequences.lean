import ModuleRuntime.Archive.Zstandard.StateCode

/-!
# Sequences

How the contents of a block are put together: each sequence takes a number of literals and then
repeats a number of octets from an offset back. The three numbers are written in three state codes
that share one stream of bits, which is read from its end.
-/

set_option autoImplicit false

namespace ModuleRuntime.Archive.Zstandard

open Unpacker

/-! ## Numbers -/

/-- The least number of each symbol for a number of literals, and how many bits are added to it. -/
def literalBases : List (Nat × Nat) :=
  (List.range 16).map (·, 0) ++
    [(16, 1), (18, 1), (20, 1), (22, 1), (24, 2), (28, 2), (32, 3), (40, 3), (48, 4), (64, 6),
      (128, 7), (256, 8), (512, 9), (1024, 10), (2048, 11), (4096, 12), (8192, 13), (16384, 14),
      (32768, 15), (65536, 16)]

/-- The least length of each symbol for a repetition, and how many bits are added to it. -/
def lengthBases : List (Nat × Nat) :=
  (List.range 32).map (· + 3, 0) ++
    [(35, 1), (37, 1), (39, 1), (41, 1), (43, 2), (47, 2), (51, 3), (59, 3), (67, 4), (83, 4),
      (99, 5), (131, 7), (259, 8), (515, 9), (1027, 10), (2051, 11), (4099, 12), (8195, 13),
      (16387, 14), (32771, 15), (65539, 16)]

/-- The number that a symbol and the bits after it stand for. -/
def based (bases : List (Nat × Nat)) (symbol : Nat) : Unpacker Nat := do
  let (base, extra) ← present bases[symbol]?
  return base + (← highNumber extra)

/-! ## Offsets -/

/-- The offsets of the latest sequences. -/
structure Recent where
  first : Nat
  second : Nat
  third : Nat

/-- The offsets before the first sequence of a frame. -/
def Recent.initial : Recent :=
  ⟨1, 4, 8⟩

/-- The offset that a number stands for is the first one afterwards. Numbers up to three name one of
the latest offsets; in a sequence without literals they name the next one, and the last of them is
one less than the first offset. -/
def Recent.after (r : Recent) (number literals : Nat) : Recent :=
  if 3 < number then ⟨number - 3, r.first, r.second⟩
  else
    match if literals = 0 then number + 1 else number with
    | 1 => r
    | 2 => ⟨r.second, r.first, r.third⟩
    | 3 => ⟨r.third, r.first, r.second⟩
    | _ => ⟨r.first - 1, r.first, r.second⟩

/-! ## Codes -/

/-- One thing for each of the three numbers of a sequence. -/
structure Triple (α : Type) where
  literals : α
  offset : α
  length : α

/-- What is laid down for the code of a number: how many symbols there may be, the logarithm of the
greatest table, and the code that is used unless another one is given. -/
structure Rule where
  symbols : Nat
  greatest : Nat
  usual : StateCode

/-- The share of a symbol in a list that has zero for rare ones. -/
def shareOf (count : Nat) : Share :=
  if count = 0 then .rare else .states count

/-- What is laid down for the three codes. -/
def rules : Triple Rule where
  literals := ⟨36, 9, .ofShares 6 ([4, 3, 2, 2, 2, 2, 2, 2, 2, 2, 2, 2, 2, 1, 1, 1, 2, 2, 2, 2, 2, 2,
    2, 2, 2, 3, 2, 1, 1, 1, 1, 1, 0, 0, 0, 0].map shareOf)⟩
  offset := ⟨32, 8, .ofShares 5 ([1, 1, 1, 1, 1, 1, 2, 2, 2, 1, 1, 1, 1, 1, 1, 1, 1, 1, 1, 1, 1, 1,
    1, 1, 0, 0, 0, 0, 0].map shareOf)⟩
  length := ⟨53, 9, .ofShares 6 ([1, 4, 3, 2, 2, 2, 2, 2, 2, 1, 1, 1, 1, 1, 1, 1, 1, 1, 1, 1, 1, 1,
    1, 1, 1, 1, 1, 1, 1, 1, 1, 1, 1, 1, 1, 1, 1, 1, 1, 1, 1, 1, 1, 1, 1, 1, 0, 0, 0, 0, 0, 0,
    0].map shareOf)⟩

/-- A code in one of the four ways of giving it: the usual one, the only symbol, a description, or
the code of an earlier block. -/
def code (rule : Rule) (known : Option StateCode) (way : Nat) : Unpacker StateCode := do
  if way = 0 then return rule.usual
  else if way = 1 then
    let symbol ← lowNumber 8
    if symbol < rule.symbols then return .constant symbol else damaged
  else if way = 2 then StateCode.described rule.symbols rule.greatest
  else present known

/-- The three codes of a block. -/
def codes (known : Option (Triple StateCode)) : Unpacker (Triple StateCode) := do
  if (← lowNumber 2) ≠ 0 then damaged
  let lengthWay ← lowNumber 2
  let offsetWay ← lowNumber 2
  let literalsWay ← lowNumber 2
  let literals ← code rules.literals (known.map (·.literals)) literalsWay
  let offset ← code rules.offset (known.map (·.offset)) offsetWay
  let length ← code rules.length (known.map (·.length)) lengthWay
  return ⟨literals, offset, length⟩

/-! ## Execution -/

/-- How many sequences a block has. -/
def sequenceCount : Unpacker Nat := do
  let first ← lowNumber 8
  if first < 128 then return first
  else if first < 255 then return 256 * (first - 128) + (← lowNumber 8)
  else return 0x7F00 + (← lowNumber 16)

/-- Takes literals from a place on. -/
def takeLiterals (literals : Array UInt8) (place count : Nat) : Unpacker Unit := do
  if literals.size < place + count then damaged
  append (literals.extract place (place + count))

/-- Executes a sequence in a frame that starts at a place of the contents, and gives the offsets
after it and the place of the next literal. -/
def execute (start : Nat) (literals : Array UInt8) (states : Triple State) (recent : Recent)
    (place : Nat) : Unpacker (Recent × Nat) := do
  let number := 2 ^ states.offset.symbol + (← highNumber states.offset.symbol)
  let length ← based lengthBases states.length.symbol
  let count ← based literalBases states.literals.symbol
  let recent := recent.after number count
  takeLiterals literals place count
  repeatFrom start recent.first length
  return (recent, place + count)

/-- Executes sequences. -/
def executeAll (start : Nat) (codes : Triple StateCode) (literals : Array UInt8) :
    Nat → Triple State → Recent → Nat → Unpacker (Recent × Nat)
  | 0, _, recent, place => return (recent, place)
  | 1, states, recent, place => execute start literals states recent place
  | n + 2, states, recent, place => do
    let (recent, place) ← execute start literals states recent place
    let forLiterals ← codes.literals.after states.literals
    let forLength ← codes.length.after states.length
    let forOffset ← codes.offset.after states.offset
    executeAll start codes literals (n + 1) ⟨forLiterals, forOffset, forLength⟩ recent place

/-- What later blocks of a frame may refer to. -/
structure Memory where
  codes : Option (Triple StateCode)
  recent : Recent

/-- Executes the sequences of a block, which are all that is left of it, and takes the literals that
they leave over. -/
def sequences (start : Nat) (literals : Array UInt8) (m : Memory) : Unpacker Memory := do
  let count ← sequenceCount
  if count = 0 then
    append literals
    return m
  else
    let codes ← codes m.codes
    turn
    let forLiterals ← codes.literals.first
    let forOffset ← codes.offset.first
    let forLength ← codes.length.first
    let (recent, place) ←
      executeAll start codes literals count ⟨forLiterals, forOffset, forLength⟩ m.recent 0
    append (literals.extract place literals.size)
    return ⟨some codes, recent⟩

end ModuleRuntime.Archive.Zstandard
