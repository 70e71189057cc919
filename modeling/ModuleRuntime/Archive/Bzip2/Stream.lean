import ModuleRuntime.Archive.Bzip2.Column
import ModuleRuntime.Archive.Bzip2.Flipping
import ModuleRuntime.Archive.Bzip2.Runs
import ModuleRuntime.Archive.Bzip2.Transform
import ModuleRuntime.Archive.Crc32

/-!
# Streams of sorted blocks

A stream consists of a header, blocks with a checksum each, and a checksum of all blocks. It is read
bit by bit, the highest bit of an octet first.
-/

set_option autoImplicit false

namespace ModuleRuntime.Archive.Bzip2

open Unpacker

/-- The mark of a block. -/
def blockMark : Nat := 0x314159265359

/-- The mark behind the last block. -/
def endMark : Nat := 0x177245385090

/-- The checksum of the blocks with one more block. -/
def combined (all block : UInt32) : UInt32 :=
  ((all <<< 1) ||| (all >>> 31)) ^^^ block

/-- Unpacks a block that has room for a number of octets, and gives its checksum. -/
def block (fuel room : Nat) : Unpacker UInt32 := do
  let checksum ← highNumber 32
  let flipped ← flag
  let origin ← highNumber 24
  let column ← column fuel room
  if column.size ≤ origin then damaged
  let octets := blockOf column origin
  let octets ← present (writtenOut? (if flipped then flippedBack octets else octets))
  let found := crc32High octets.toList
  if found.toNat ≠ checksum then damaged
  append octets
  return found

/-- Unpacks blocks up to the checksum of all of them. -/
def blocks (bits room : Nat) : Nat → UInt32 → Unpacker Unit
  | 0, _ => damaged
  | fuel + 1, checksum => do
    let mark ← highNumber 48
    if mark = blockMark then blocks bits room fuel (combined checksum (← block bits room))
    else if mark = endMark && (← highNumber 32) = checksum.toNat then return
    else damaged

/-- Unpacks a stream of a number of bits. Its header tells how many times 100000 octets a block has
room for. -/
def stream (bits : Nat) : Unpacker Unit := do
  if (← highNumber 24) ≠ 0x425A68 then damaged
  let digit ← highNumber 8
  if digit < 0x31 || 0x39 < digit then damaged
  blocks bits (100000 * (digit - 0x30)) bits 0

/-- The octets of a compressed sequence; what follows it does not count. -/
def unpack? (octets : List UInt8) : Option (List UInt8) :=
  (stream (8 * octets.length)).contents? (highFirst octets)

end ModuleRuntime.Archive.Bzip2
