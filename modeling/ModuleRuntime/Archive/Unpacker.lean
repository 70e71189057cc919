import ModuleRuntime.Number.Instances

/-!
# Unpacking

Packed contents are a sequence of bits. An unpacker reads them one after another and appends the
octets that they stand for to the contents.
-/

set_option autoImplicit false

namespace ModuleRuntime.Archive

/-! ## Bits -/

/-- The bits of an octet, the lowest first. -/
def octetBits (octet : UInt8) : List Bool :=
  (List.range 8).map fun i => octet.toNat.testBit i

/-- The bits of a sequence of octets, the lowest of an octet first. -/
def lowFirst (octets : List UInt8) : List Bool :=
  octets.flatMap octetBits

/-- The bits of a sequence of octets, the highest of an octet first. -/
def highFirst (octets : List UInt8) : List Bool :=
  octets.flatMap fun octet => (octetBits octet).reverse

/-- The bits of a section that is read from its end, where the highest bit that is set in the last
octet marks the start. -/
def backward? (bits : List Bool) : Option (List Bool) :=
  let turned := bits.reverse
  let padding := (turned.take 8).takeWhile (! ·)
  if padding.length < min 8 turned.length then some (turned.drop (padding.length + 1)) else none

/-! ## Steps -/

/-- Why unpacking stops early: the bits end, or they make no sense. -/
inductive Fault where
  | ended
  | damaged
  deriving DecidableEq

/-- The bits that are left, and the contents so far. -/
structure Unpacking where
  rest : List Bool
  contents : Array UInt8

/-- A step of unpacking. What was unpacked before a fault stays. -/
abbrev Unpacker := ExceptT Fault (StateM Unpacking)

namespace Unpacker

/-- What unpacking bits from the start leads to. -/
def unpack {α : Type} (u : Unpacker α) (bits : List Bool) : Except Fault α × Unpacking :=
  (ExceptT.run u).run ⟨bits, #[]⟩

/-- The contents that bits stand for, if there is no fault. -/
def contents? {α : Type} (u : Unpacker α) (bits : List Bool) : Option (List UInt8) :=
  match u.unpack bits with
  | (.ok _, unpacking) => some unpacking.contents.toList
  | (.error _, _) => none

/-- A step that finds no sense in the bits. -/
def damaged {α : Type} : Unpacker α :=
  throw .damaged

/-- A value that has to be there. -/
def present {α : Type} : Option α → Unpacker α
  | some a => return a
  | none => damaged

/-- The next bit. -/
def flag : Unpacker Bool := do
  match (← get).rest with
  | [] => throw .ended
  | b :: rest =>
    modify fun s => { s with rest := rest }
    return b

/-- The next bits. -/
def flags : Nat → Unpacker (List Bool)
  | 0 => return []
  | n + 1 => do
    let first ← flag
    return first :: (← flags n)

/-- The number of the next bits, the lowest first. -/
def lowNumber : Nat → Unpacker Nat
  | 0 => return 0
  | n + 1 => do
    let low ← flag
    let high ← lowNumber n
    return low.toNat + 2 * high

/-- The number of the next bits, the highest first, behind a higher part. -/
def highNumberFrom (high : Nat) : Nat → Unpacker Nat
  | 0 => return high
  | n + 1 => do
    let low ← flag
    highNumberFrom (2 * high + low.toNat) n

/-- The number of the next bits, the highest first. -/
def highNumber (width : Nat) : Unpacker Nat :=
  highNumberFrom 0 width

/-- How many bits are left. -/
def left : Unpacker Nat :=
  return (← get).rest.length

/-- Skips the rest of an octet that was begun. -/
def align : Unpacker Unit :=
  modify fun s => { s with rest := s.rest.drop (s.rest.length % 8) }

/-- Reads what is left from its end. -/
def turn : Unpacker Unit := do
  let bits ← present (backward? (← get).rest)
  modify fun s => { s with rest := bits }

/-- The bits of the next octets. -/
def slice (octets : Nat) : Unpacker (List Bool) := do
  let rest := (← get).rest
  let bits := rest.take (8 * octets)
  if bits.length < 8 * octets then throw .ended
  modify fun s => { s with rest := rest.drop (8 * octets) }
  return bits

/-- All bits that are left. -/
def takeAll : Unpacker (List Bool) := do
  let rest := (← get).rest
  modify fun s => { s with rest := [] }
  return rest

/-- A step that is taken on other bits, all of which it has to use. -/
def within {α : Type} (bits : List Bool) (step : Unpacker α) : Unpacker α := do
  let after := (← get).rest
  modify fun s => { s with rest := bits }
  let a ← step
  if !(← get).rest.isEmpty then damaged
  modify fun s => { s with rest := after }
  return a

/-! ## Contents -/

/-- How many octets were unpacked. -/
def size : Unpacker Nat :=
  return (← get).contents.size

/-- Appends an octet to the contents. -/
def write (octet : UInt8) : Unpacker Unit :=
  modify fun s => { s with contents := s.contents.push octet }

/-- Appends octets to the contents. -/
def append (octets : Array UInt8) : Unpacker Unit :=
  modify fun s => { s with contents := s.contents ++ octets }

/-- Appends a number of octets as they stand in the bits. -/
def copy : Nat → Unpacker Unit
  | 0 => return
  | n + 1 => do
    write (UInt8.ofNat (← lowNumber 8))
    copy n

/-- The contents with octets repeated from a distance back. -/
def repeated (contents : Array UInt8) (distance : Nat) : Nat → Array UInt8
  | 0 => contents
  | n + 1 => repeated (contents.push (contents.getD (contents.size - distance) 0)) distance n

/-- Repeats octets from a distance back, which has to be within the contents from a place on. -/
def repeatFrom (start distance length : Nat) : Unpacker Unit := do
  if (← size) < start + distance || distance = 0 then damaged
  modify fun s => { s with contents := repeated s.contents distance length }

end Unpacker

end ModuleRuntime.Archive
