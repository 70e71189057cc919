/-!
# xxHash of 64 bits

A digest of a sequence of octets in one word of 64 bits. Stripes of 32 octets are mixed into four
words; these and the octets behind the last whole stripe are mixed into one.
-/

set_option autoImplicit false

namespace ModuleRuntime.XxHash64

/-- The multipliers of the mixing steps. -/
def prime₁ : UInt64 := 0x9E3779B185EBCA87

@[inherit_doc prime₁]
def prime₂ : UInt64 := 0xC2B2AE3D27D4EB4F

@[inherit_doc prime₁]
def prime₃ : UInt64 := 0x165667B19E3779F9

@[inherit_doc prime₁]
def prime₄ : UInt64 := 0x85EBCA77C2B2AE63

@[inherit_doc prime₁]
def prime₅ : UInt64 := 0x27D4EB2F165667C5

/-- A word rotated to the left. -/
def rotateLeft (x n : UInt64) : UInt64 :=
  (x <<< n) ||| (x >>> (64 - n))

/-- The word of some octets, the lowest first. -/
def word (octets : List UInt8) : UInt64 :=
  octets.foldr (fun octet w => (w <<< (8 : UInt64)) ||| octet.toUInt64) 0

/-- Mixes a word of the input into a word of the state. -/
def round (state input : UInt64) : UInt64 :=
  rotateLeft (state + input * prime₂) 31 * prime₁

/-- Mixes a word of the state into the digest. -/
def merge (digest state : UInt64) : UInt64 :=
  (digest ^^^ round 0 state) * prime₁ + prime₄

/-- Four words, into which the stripes are mixed. -/
structure Lanes where
  a : UInt64
  b : UInt64
  c : UInt64
  d : UInt64

/-- The words before the first stripe. -/
def Lanes.initial : Lanes :=
  ⟨prime₁ + prime₂, prime₂, 0, 0 - prime₁⟩

/-- The words after one more stripe. -/
def Lanes.stripe (l : Lanes) (octets : List UInt8) : Lanes :=
  let input (i : Nat) := word ((octets.drop (8 * i)).take 8)
  ⟨round l.a (input 0), round l.b (input 1), round l.c (input 2), round l.d (input 3)⟩

/-- The words after a number of stripes, and the octets behind them. -/
def Lanes.stripes : Nat → Lanes → List UInt8 → Lanes × List UInt8
  | 0, l, octets => (l, octets)
  | n + 1, l, octets => Lanes.stripes n (l.stripe (octets.take 32)) (octets.drop 32)

/-- The digest of the four words. -/
def Lanes.digest (l : Lanes) : UInt64 :=
  let all := rotateLeft l.a 1 + rotateLeft l.b 7 + rotateLeft l.c 12 + rotateLeft l.d 18
  [l.a, l.b, l.c, l.d].foldl merge all

/-- The digest after the words of eight octets at the head of a list of fewer than 32. -/
def eights : Nat → UInt64 → List UInt8 → UInt64 × List UInt8
  | 0, digest, octets => (digest, octets)
  | n + 1, digest, octets =>
    let mixed := digest ^^^ round 0 (word (octets.take 8))
    eights n (rotateLeft mixed 27 * prime₁ + prime₄) (octets.drop 8)

/-- The digest after a word of four octets. -/
def four (digest : UInt64) (octets : List UInt8) : UInt64 :=
  rotateLeft (digest ^^^ (word octets * prime₁)) 23 * prime₂ + prime₃

/-- The digest after one octet. -/
def one (digest : UInt64) (octet : UInt8) : UInt64 :=
  rotateLeft (digest ^^^ (octet.toUInt64 * prime₅)) 11 * prime₁

/-- The digest after the octets behind the last whole stripe. -/
def remainder (digest : UInt64) (octets : List UInt8) : UInt64 :=
  let (digest, octets) := eights (octets.length / 8) digest octets
  if octets.length < 4 then octets.foldl one digest
  else (octets.drop 4).foldl one (four digest (octets.take 4))

/-- Spreads every bit of the digest. -/
def spread (digest : UInt64) : UInt64 :=
  let x := (digest ^^^ (digest >>> (33 : UInt64))) * prime₂
  let x := (x ^^^ (x >>> (29 : UInt64))) * prime₃
  x ^^^ (x >>> (32 : UInt64))

/-- The digest of a sequence of octets. -/
def digest (octets : List UInt8) : UInt64 :=
  let (lanes, rest) := Lanes.stripes (octets.length / 32) .initial octets
  let start := if octets.length < 32 then prime₅ else lanes.digest
  spread (remainder (start + UInt64.ofNat octets.length) rest)

end ModuleRuntime.XxHash64
