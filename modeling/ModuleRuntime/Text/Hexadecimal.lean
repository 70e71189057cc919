/-!
# Hexadecimal text

Octets and words written with lower-case hexadecimal digits, and octets read back.
-/

set_option autoImplicit false

namespace ModuleRuntime.Text

/-- The value of a hexadecimal digit of either case. -/
def hexValue? (c : Char) : Option Nat :=
  let n := c.toNat
  if 48 ≤ n && n ≤ 57 then some (n - 48)
  else if 97 ≤ n && n ≤ 102 then some (n - 87)
  else if 65 ≤ n && n ≤ 70 then some (n - 55)
  else none

/-- The last `width` hexadecimal digits of `n`. -/
def hexChars : Nat → Nat → List Char
  | 0, _ => []
  | width + 1, n => hexChars width (n / 16) ++ [Nat.digitChar (n % 16)]

/-- A number written with `width` hexadecimal digits. -/
def hexWord (width n : Nat) : String :=
  String.ofList (hexChars width n)

/-- Two hexadecimal digits for every octet. -/
def hexOctets (octets : List UInt8) : String :=
  String.ofList (octets.flatMap fun octet => hexChars 2 octet.toNat)

/-- The octets that a sequence of pairs of digits writes. -/
def octetsOfHex? : List Char → Option (List UInt8)
  | [] => some []
  | [_] => none
  | high :: low :: rest => do
    let h ← hexValue? high
    let l ← hexValue? low
    let octets ← octetsOfHex? rest
    some (UInt8.ofNat (16 * h + l) :: octets)

/-- The number that a sequence of hexadecimal digits writes. -/
def natOfHex? (digits : List Char) : Option Nat :=
  digits.foldlM (fun n c => (hexValue? c).map (16 * n + ·)) 0

end ModuleRuntime.Text
