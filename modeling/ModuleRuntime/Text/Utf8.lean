/-!
# UTF-8

A sequence of octets is read from the left in units: a unit is a character with its octets, or the
longest start of a character that the next octet rules out. Text is well formed when every unit is
a character; read leniently, every other unit is one replacement character.
-/

set_option autoImplicit false

namespace ModuleRuntime.Text.Utf8

/-- The octets of a text. -/
def encode (s : String) : List UInt8 :=
  s.toUTF8.data.toList

/-- How many octets follow a first octet, and the least and greatest value of the first of them. -/
def following? (lead : UInt8) : Option (Nat × UInt8 × UInt8) :=
  if lead < 0x80 then some (0, 0x80, 0xBF)
  else if lead < 0xC2 then none
  else if lead < 0xE0 then some (1, 0x80, 0xBF)
  else if lead == 0xE0 then some (2, 0xA0, 0xBF)
  else if lead == 0xED then some (2, 0x80, 0x9F)
  else if lead < 0xF0 then some (2, 0x80, 0xBF)
  else if lead == 0xF0 then some (3, 0x90, 0xBF)
  else if lead < 0xF4 then some (3, 0x80, 0xBF)
  else if lead == 0xF4 then some (3, 0x80, 0x8F)
  else none

/-- The octets of the current character that fit, at most `count` of them, when the first of them
has to lie between `low` and `high` and the others between `0x80` and `0xBF`. -/
def fitting : Nat → UInt8 → UInt8 → List UInt8 → List UInt8
  | count + 1, low, high, octet :: rest =>
    if low ≤ octet && octet ≤ high then octet :: fitting count 0x80 0xBF rest else []
  | _, _, _, _ => []

/-- The bits that a first octet gives to its character, when `count` octets follow. -/
def leadBits (lead : UInt8) (count : Nat) : Nat :=
  match count with
  | 0 => lead.toNat
  | 1 => lead.toNat % 32
  | 2 => lead.toNat % 16
  | _ => lead.toNat % 8

/-- The unit at the head of a sequence of octets: its character, if it is one, and the number of
octets after the first that belong to it. -/
def unit (lead : UInt8) (rest : List UInt8) : Option Char × Nat :=
  match following? lead with
  | none => (none, 0)
  | some (count, low, high) =>
    let more := fitting count low high rest
    if more.length = count then
      let code := more.foldl (fun n octet => 64 * n + octet.toNat % 64) (leadBits lead count)
      (some (Char.ofNat code), count)
    else (none, more.length)

/-- The units of a sequence of octets, where the first `skip` octets belong to a unit
already met. -/
def unitsFrom : Nat → List UInt8 → List (Option Char)
  | _, [] => []
  | skip + 1, _ :: rest => unitsFrom skip rest
  | 0, lead :: rest =>
    let (c, more) := unit lead rest
    c :: unitsFrom more rest

/-- The units of a sequence of octets, from the left. -/
def units (octets : List UInt8) : List (Option Char) :=
  unitsFrom 0 octets

/-- The text of a well-formed sequence of octets. -/
def decode? (octets : List UInt8) : Option String :=
  ((units octets).mapM id).map String.ofList

/-- The text of any sequence of octets, with U+FFFD for every unit that is no character. -/
def decodeLossy (octets : List UInt8) : String :=
  String.ofList ((units octets).map (·.getD (Char.ofNat 0xFFFD)))

end ModuleRuntime.Text.Utf8
