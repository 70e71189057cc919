import ModuleRuntime.Archive.PrefixCode

/-!
# Inflating

The octets of a sequence that was compressed by deflating. The sequence is read bit by bit, the
lowest bit of an octet first. It consists of blocks: stored ones, and ones in which lengths and
distances of repetitions stand between literal octets, written in prefix codes.
-/

set_option autoImplicit false

namespace ModuleRuntime.Archive.Inflate

open Unpacker

/-- The least length of each symbol for a length, and how many bits are added to it. -/
def lengthBases : List (Nat × Nat) :=
  [(3, 0), (4, 0), (5, 0), (6, 0), (7, 0), (8, 0), (9, 0), (10, 0), (11, 1), (13, 1), (15, 1),
    (17, 1), (19, 2), (23, 2), (27, 2), (31, 2), (35, 3), (43, 3), (51, 3), (59, 3), (67, 4),
    (83, 4), (99, 4), (115, 4), (131, 5), (163, 5), (195, 5), (227, 5), (258, 0)]

/-- The least distance of each symbol for a distance, and how many bits are added to it. -/
def distanceBases : List (Nat × Nat) :=
  [(1, 0), (2, 0), (3, 0), (4, 0), (5, 1), (7, 1), (9, 2), (13, 2), (17, 3), (25, 3), (33, 4),
    (49, 4), (65, 5), (97, 5), (129, 6), (193, 6), (257, 7), (385, 7), (513, 8), (769, 8),
    (1025, 9), (1537, 9), (2049, 10), (3073, 10), (4097, 11), (6145, 11), (8193, 12), (12289, 12),
    (16385, 13), (24577, 13)]

/-- The number that a symbol and the bits after it stand for. -/
def based (bases : List (Nat × Nat)) (symbol : Nat) : Unpacker Nat := do
  let (base, extra) ← present bases[symbol]?
  return base + (← lowNumber extra)

/-- Unpacks the symbols of a block up to its end. -/
def symbols (literals distances : PrefixCode) : Nat → Unpacker Unit
  | 0 => damaged
  | fuel + 1 => do
    let symbol ← literals.symbol
    if symbol < 256 then
      write (UInt8.ofNat symbol)
      symbols literals distances fuel
    else if symbol = 256 then return
    else
      let length ← based lengthBases (symbol - 257)
      let distance ← based distanceBases (← distances.symbol)
      repeatFrom 0 distance length
      symbols literals distances fuel

/-- The lengths of the words of the fixed codes. -/
def fixedLengths : List Nat :=
  List.replicate 144 8 ++ List.replicate 112 9 ++ List.replicate 24 7 ++ List.replicate 8 8

/-- The code of literals and lengths that needs no description. -/
def fixedLiterals : PrefixCode :=
  .ofLengths fixedLengths

/-- The code of distances that needs no description. -/
def fixedDistances : PrefixCode :=
  .ofLengths (List.replicate 32 5)

/-- The order in which the lengths of the words for lengths are given. -/
def lengthOrder : List Nat :=
  [16, 17, 18, 0, 8, 7, 9, 6, 10, 5, 11, 4, 12, 3, 13, 2, 14, 1, 15]

/-- The lengths of words up to the given count, the latest first in `done`. -/
def wordLengths (code : PrefixCode) (count : Nat) : Nat → List Nat → Unpacker (List Nat)
  | 0, _ => damaged
  | fuel + 1, done => do
    if done.length = count then return done.reverse
    else if count < done.length then damaged
    else
      let symbol ← code.symbol
      if symbol < 16 then wordLengths code count fuel (symbol :: done)
      else if symbol = 16 then
        let last ← present done.head?
        let times ← lowNumber 2
        wordLengths code count fuel (List.replicate (3 + times) last ++ done)
      else
        let times ← if symbol = 17 then (3 + ·) <$> lowNumber 3 else (11 + ·) <$> lowNumber 7
        wordLengths code count fuel (List.replicate times 0 ++ done)

/-- The codes that a block describes. They fill the space of words or have at most a lone word, and
the end of a block has a word. -/
def describedCodes : Unpacker (PrefixCode × PrefixCode) := do
  let literals := 257 + (← lowNumber 5)
  let distances := 1 + (← lowNumber 5)
  let lengths := 4 + (← lowNumber 4)
  if 286 < literals || 30 < distances then damaged
  let given ← (List.replicate lengths 3).mapM lowNumber
  let code := PrefixCode.ofLengths ((List.range 19).map fun symbol =>
    (given[lengthOrder.idxOf symbol]?).getD 0)
  if !code.isFull then damaged
  let all ← wordLengths code (literals + distances) (literals + distances + 1) []
  let literalCode := PrefixCode.ofLengths (all.take literals)
  let distanceCode := PrefixCode.ofLengths (all.drop literals)
  if all[256]? == some 0 then damaged
  if (literalCode.isFull || literalCode.isLone) && (distanceCode.isFull || distanceCode.isLone) then
    return (literalCode, distanceCode)
  else damaged

/-- Unpacks the blocks up to the last one. -/
def blocks : Nat → Unpacker Unit
  | 0 => damaged
  | fuel + 1 => do
    let last ← flag
    match ← lowNumber 2 with
    | 0 => do
      align
      let length ← lowNumber 16
      let complement ← lowNumber 16
      if length + complement = 0xFFFF then copy length else damaged
    | 1 => do symbols fixedLiterals fixedDistances ((← left) + 1)
    | 2 => do
      let (literals, distances) ← describedCodes
      symbols literals distances ((← left) + 1)
    | _ => damaged
    if last then return else blocks fuel

end Inflate

/-- The octets of a compressed sequence; what follows it does not count. A sequence that ends early
stands for what was unpacked of it, and whoever knows a checksum finds out. -/
def inflate? (octets : List UInt8) : Option (List UInt8) :=
  match (Inflate.blocks (8 * octets.length + 1)).unpack (lowFirst octets) with
  | (.error .damaged, _) => none
  | (_, unpacking) => some unpacking.contents.toList

end ModuleRuntime.Archive
