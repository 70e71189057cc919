/-!
# Characters of YAML texts

The classes of characters that the grammar knows, and line breaks. A carriage return with a line
feed is one break, and breaks are read as line feeds, except the two separators of Unicode.
-/

set_option autoImplicit false

namespace ModuleRuntime.Yaml

/-- The characters that a text may hold. -/
def isAllowed (c : Char) : Bool :=
  let n := c.toNat
  n == 9 || n == 10 || n == 13 || (0x20 ≤ n && n ≤ 0x7E) || n == 0x85 || (0xA0 ≤ n && n ≤ 0xFFFD)
    || 0x10000 ≤ n

/-- A space or a tab. -/
def isBlank (c : Char) : Bool :=
  c == ' ' || c == '\t'

/-- A character that breaks the line. -/
def isBreak (c : Char) : Bool :=
  let n := c.toNat
  n == 10 || n == 13 || n == 0x85 || n == 0x2028 || n == 0x2029

/-- The character as which a break is read. -/
def breakValue (c : Char) : Char :=
  if c.toNat == 0x2028 || c.toNat == 0x2029 then c else '\n'

/-- The character that marks the order of octets in other encodings, and stands for nothing here. -/
def byteOrderMark : Char :=
  Char.ofNat 0xFEFF

/-- A letter or digit of ASCII, an underscore or a hyphen. -/
def isWord (c : Char) : Bool :=
  c.isAlphanum || c == '_' || c == '-'

/-- Whether a text starts with a blank, a break, or its end. -/
def startsBlank : List Char → Bool
  | [] => true
  | c :: _ => isBlank c || isBreak c

/-- Whether a text starts with a break or its end. -/
def startsBreak : List Char → Bool
  | [] => true
  | c :: _ => isBreak c

/-- Whether a text starts with a marker between documents, three dashes or dots that stand alone. -/
def startsMarker : List Char → Bool
  | '-' :: '-' :: '-' :: rest => startsBlank rest
  | '.' :: '.' :: '.' :: rest => startsBlank rest
  | _ => false

/-- The text after a break at its head. -/
def dropBreak : List Char → List Char
  | '\r' :: '\n' :: rest => rest
  | c :: rest => if isBreak c then rest else c :: rest
  | [] => []

/-- The text after the blanks and the comment at its head. -/
def dropComment (text : List Char) : List Char :=
  match text.dropWhile isBlank with
  | '#' :: rest => rest.dropWhile fun c => !isBreak c
  | rest => rest

end ModuleRuntime.Yaml
