import ModuleRuntime.Text.Printable

/-!
# Quoted text

A text between double quotes, as messages show values. Quotes and backslashes are escaped, the
common controls have letters, and what cannot be printed is written with its code point.
-/

set_option autoImplicit false

namespace ModuleRuntime.Text

/-- The code point of a character between braces, without leading zeros. -/
def codePointEscape (c : Char) : List Char :=
  ['\\', 'u', Char.ofNat 0x7B] ++ Nat.toDigits 16 c.toNat ++ [Char.ofNat 0x7D]

/-- How one character is written between double quotes. -/
def quotedChar (c : Char) : List Char :=
  if c = Char.ofNat 0 then ['\\', '0']
  else if c = '\t' then ['\\', 't']
  else if c = '\r' then ['\\', 'r']
  else if c = '\n' then ['\\', 'n']
  else if c = '\\' then ['\\', '\\']
  else if c = '"' then ['\\', '"']
  else if isPrintable c then [c]
  else codePointEscape c

/-- A text between double quotes. -/
def quoted (s : String) : String :=
  String.ofList ('"' :: (s.toList.flatMap quotedChar ++ ['"']))

end ModuleRuntime.Text
