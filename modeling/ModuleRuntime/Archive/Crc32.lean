/-!
# CRC-32

The checksum of a sequence of octets: the remainder of a polynomial over two elements, with the
lowest or with the highest bit of an octet first.
-/

set_option autoImplicit false

namespace ModuleRuntime.Archive

/-- The remainder after one more bit. -/
def crcShift (r : UInt32) : UInt32 :=
  if r &&& 1 = 1 then (r >>> 1) ^^^ 0xEDB88320 else r >>> 1

/-- The remainder after a number of bits. -/
def crcShifts : Nat → UInt32 → UInt32
  | 0, r => r
  | n + 1, r => crcShifts n (crcShift r)

/-- The checksum of a sequence of octets. -/
def crc32 (octets : List UInt8) : UInt32 :=
  ~~~octets.foldl (fun r octet => crcShifts 8 (r ^^^ octet.toUInt32)) 0xFFFFFFFF

/-- The remainder after one more bit, when the highest bits come first. -/
def crcShiftHigh (r : UInt32) : UInt32 :=
  if r &&& 0x80000000 = 0 then r <<< 1 else (r <<< 1) ^^^ 0x04C11DB7

/-- The remainder after a number of bits, when the highest bits come first. -/
def crcShiftsHigh : Nat → UInt32 → UInt32
  | 0, r => r
  | n + 1, r => crcShiftsHigh n (crcShiftHigh r)

/-- The checksum of a sequence of octets, of each the highest bit first. -/
def crc32High (octets : List UInt8) : UInt32 :=
  ~~~octets.foldl (fun r octet => crcShiftsHigh 8 (r ^^^ (octet.toUInt32 <<< (24 : UInt32)))) 0xFFFFFFFF

end ModuleRuntime.Archive
