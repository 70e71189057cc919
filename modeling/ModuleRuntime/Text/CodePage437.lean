/-!
# Code page 437

The characters of the octets of code page 437. The lower half is ASCII.
-/

set_option autoImplicit false

namespace ModuleRuntime.Text.CodePage437

/-- The characters of the upper half. -/
def upperHalf : List Char :=
  ("ÇüéâäàåçêëèïîìÄÅ" ++ "ÉæÆôöòûùÿÖÜ¢£¥₧ƒ" ++ "áíóúñÑªº¿⌐¬½¼¡«»" ++ "░▒▓│┤╡╢╖╕╣║╗╝╜╛┐"
    ++ "└┴┬├─┼╞╟╚╔╩╦╠═╬╧" ++ "╨╤╥╙╘╒╓╫╪┘┌█▄▌▐▀" ++ "αßΓπΣσµτΦΘΩδ∞φε∩" ++ "≡±≥≤⌠⌡÷≈°∙·√ⁿ²■\u00a0").toList

/-- The character of an octet. -/
def charOf (octet : UInt8) : Char :=
  if octet < 128 then Char.ofNat octet.toNat else upperHalf.getD (octet.toNat - 128) ' '

/-- The text of a sequence of octets. -/
def decode (octets : List UInt8) : String :=
  String.ofList (octets.map charOf)

end ModuleRuntime.Text.CodePage437
