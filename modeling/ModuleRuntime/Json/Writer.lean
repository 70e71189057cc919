import ModuleRuntime.Json.Basic
import ModuleRuntime.Number.Shortest
import ModuleRuntime.Text.Hexadecimal

/-!
# Writing JSON

The text of a value, without blanks or with one member or item a line. A number that is no integer
has the fewest digits that read back.
-/

set_option autoImplicit false

namespace ModuleRuntime.Json

/-- The numbers of a JSON text are positional from `10 ^ -5` up to below `10 ^ 16`, a tie goes to
the even digit, and an exponent has its sign. -/
def numberFormat : NumberFormat := ⟨-5, 15, .even, true⟩

/-- How a character of a string is written. -/
def escape (c : Char) : List Char :=
  if c = '"' then ['\\', '"']
  else if c = '\\' then ['\\', '\\']
  else if c = '\n' then ['\\', 'n']
  else if c = '\r' then ['\\', 'r']
  else if c = '\t' then ['\\', 't']
  else if c = Char.ofNat 8 then ['\\', 'b']
  else if c = Char.ofNat 12 then ['\\', 'f']
  else if c.toNat < 32 then ['\\', 'u'] ++ Text.hexChars 4 c.toNat
  else [c]

/-- A string between its quotes. -/
def writeString (s : String) : String :=
  String.ofList ('"' :: (s.toList.flatMap escape ++ ['"']))

/-- A number. -/
def Number.write : Number → String
  | .integer n => toString n
  | .binary x => numberFormat.write x

/-- How the parts of arrays and objects are set: what stands before the parts at a depth, and what
stands behind a key. -/
structure Layout where
  newline : Nat → String
  afterKey : String

namespace Layout

/-- Everything on one line, without blanks. -/
def compact : Layout :=
  ⟨fun _ => "", ":"⟩

/-- One part a line, two blanks deeper than what it is a part of. -/
def indented : Layout :=
  ⟨fun depth => String.ofList ('\n' :: List.replicate (2 * depth) ' '), ": "⟩

/-- Parts between brackets. -/
def enclose (layout : Layout) (depth : Nat) (opening closing : String) (parts : List String) :
    String :=
  if parts.isEmpty then opening ++ closing
  else
    opening ++ layout.newline (depth + 1)
      ++ ("," ++ layout.newline (depth + 1)).intercalate parts
      ++ layout.newline depth ++ closing

end Layout

/-- The text of a value at a depth. -/
def writeAt (layout : Layout) (depth : Nat) : Json → String
  | null => "null"
  | bool b => if b then "true" else "false"
  | number n => n.write
  | string s => writeString s
  | array items =>
    layout.enclose depth "[" "]" (items.attach.map fun ⟨v, _⟩ => writeAt layout (depth + 1) v)
  | object members =>
    layout.enclose depth "\x7b" "\x7d" (members.attach.map fun ⟨(key, v), _⟩ =>
      writeString key ++ layout.afterKey ++ writeAt layout (depth + 1) v)
  | meaningless => "null"
  termination_by v => sizeOf v
  decreasing_by
    all_goals simp_wf
    · rename_i h; have := List.sizeOf_lt_of_mem h; omega
    · rename_i h; have := List.sizeOf_lt_of_mem h; simp only [Prod.mk.sizeOf_spec] at this; omega

/-- The text of a value without blanks. -/
def write (v : Json) : String :=
  v.writeAt .compact 0

/-- The text of a value with a line for every part. -/
def writeIndented (v : Json) : String :=
  v.writeAt .indented 0

end ModuleRuntime.Json
