import ModuleRuntime.Archive.Zstandard.Literals
import ModuleRuntime.Archive.Zstandard.Sequences
import ModuleRuntime.Digest.XxHash64

/-!
# Frames

Compressed contents are frames one after another. A frame consists of a header, blocks, and perhaps
a checksum of what they stand for. Frames of another kind hold other data and stand for nothing.
-/

set_option autoImplicit false

namespace ModuleRuntime.Archive.Zstandard

open Unpacker

/-! ## Headers -/

/-- What the header of a frame says: how far back repetitions may reach, how many octets the frame
stands for, if that is told, and whether a checksum follows. -/
structure Header where
  window : Nat
  size : Option Nat
  checked : Bool

/-- The octets of a frame that is known to fit into them are unpacked in one go. -/
def oneGo : Nat := 8192

/-- The greatest window. -/
def greatestWindow : Nat := 2 ^ 27 + 1

/-- The greatest block. -/
def greatestBlock : Nat := 2 ^ 17

/-- Whether the frame is unpacked in one go; then neither its window nor its blocks need a bound. -/
def Header.isShort (h : Header) : Bool :=
  match h.size with
  | some size => size ≤ oneGo
  | none => false

/-- The limit of what a block is made of. -/
def Header.limit (h : Header) : Nat :=
  min h.window greatestBlock

/-- The window that an octet describes: its exponent, and how many eighths are added. -/
def window : Unpacker Nat := do
  let eighths ← lowNumber 3
  let exponent ← lowNumber 5
  if 21 < exponent then damaged
  let base := 2 ^ (exponent + 10)
  return base + base / 8 * eighths

/-- The header of a frame. No dictionary is known. -/
def header : Unpacker Header := do
  let dictionaryForm ← lowNumber 2
  let checked ← flag
  let reserved ← flag
  let _ ← flag
  let whole ← flag
  let sizeForm ← lowNumber 2
  if reserved then damaged
  let described ← if whole then pure 0 else window
  let dictionary ← lowNumber (8 * (if dictionaryForm = 3 then 4 else dictionaryForm))
  let size ←
    match sizeForm with
    | 0 => if whole then some <$> lowNumber 8 else pure none
    | 1 => (some <| · + 256) <$> lowNumber 16
    | 2 => some <$> lowNumber 32
    | _ => some <$> lowNumber 64
  let h : Header := ⟨if whole then size.getD 0 else described, size, checked⟩
  if dictionary ≠ 0 || (greatestWindow < h.window && !h.isShort) then damaged
  return h

/-! ## Blocks -/

/-- What the blocks of a frame so far leave for the ones after them. -/
structure Blocks where
  tree : Option Tree
  memory : Memory

/-- Unpacks a compressed block of a frame that starts at a place of the contents. -/
def compressed (h : Header) (start : Nat) (b : Blocks) : Unpacker Blocks := do
  let (octets, tree) ← literals h.limit b.tree
  return ⟨tree, ← sequences start octets b.memory⟩

/-- Unpacks the contents of a block of a kind; `size` is the number in its header. -/
def block (h : Header) (start kind size : Nat) (b : Blocks) : Unpacker Blocks := do
  match kind with
  | 0 => do
    if h.limit < size && !h.isShort then damaged
    copy size
    return b
  | 1 => do
    if h.limit < size && !h.isShort then damaged
    append (Array.replicate size (UInt8.ofNat (← lowNumber 8)))
    return b
  | 2 => do
    if h.limit < size then damaged
    else if size = 0 && !h.isShort then return b
    else
      let before ← Unpacker.size
      let b ← within (← slice size) (compressed h start b)
      if before + h.limit < (← Unpacker.size) && !h.isShort then damaged
      return b
  | _ => damaged

/-- Unpacks blocks up to the last one. -/
def blocks (h : Header) (start : Nat) : Nat → Blocks → Unpacker Unit
  | 0, _ => damaged
  | fuel + 1, b => do
    let last ← flag
    let kind ← lowNumber 2
    let size ← lowNumber 21
    let b ← block h start kind size b
    if last then return else blocks h start fuel b

/-! ## Frames -/

/-- Unpacks a frame behind its mark; `bits` is a bound on the number of its blocks. -/
def frame (bits : Nat) : Unpacker Unit := do
  let h ← header
  let start ← size
  blocks h start bits ⟨none, none, .initial⟩
  let contents := (← get).contents
  if h.size.any (start + · ≠ contents.size) then damaged
  if h.checked then
    let digest := XxHash64.digest (contents.extract start contents.size).toList
    if (← lowNumber 32) ≠ digest.toNat % 2 ^ 32 then damaged

/-- Unpacks at least one frame, up to the end. -/
def frames (bits : Nat) : Nat → Unpacker Unit
  | 0 => damaged
  | fuel + 1 => do
    let mark ← lowNumber 32
    if mark = 0xFD2FB528 then frame bits
    else if mark / 16 = 0x184D2A5 then
      let _ ← slice (← lowNumber 32)
    else damaged
    if (← get).rest.isEmpty then return else frames bits fuel

/-- The octets of a compressed sequence. -/
def unpack? (octets : List UInt8) : Option (List UInt8) :=
  let bits := 8 * octets.length
  (frames bits bits).contents? (lowFirst octets)

end ModuleRuntime.Archive.Zstandard
