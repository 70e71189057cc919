import ModuleRuntime.Number.Binary64

/-!
# JSON values

A value as its text gives it: the members of an object stand in the order of the text, and a key may
stand more than once. A text can also have the form of a value and denote none, as the number
`1e999` or a string with half of a surrogate pair. Such a part is kept as `meaningless`, since it
does no harm where nobody asks for it.
-/

set_option autoImplicit false

namespace ModuleRuntime

/-- A number of a JSON text: an integer of 64 bits, or a number of the format binary64. -/
inductive Json.Number where
  | integer (n : Int)
  | binary (x : Binary64)
  deriving DecidableEq

/-- A JSON value. -/
inductive Json where
  | null
  | bool (b : Bool)
  | number (n : Json.Number)
  | string (s : String)
  | array (items : List Json)
  | object (members : List (String × Json))
  | meaningless

namespace Json

instance : Inhabited Json :=
  ⟨null⟩

/-- An integer. -/
def integer (n : Int) : Json :=
  number (.integer n)

/-- A natural number. -/
def nat (n : Nat) : Json :=
  integer n

/-- A value, or null. -/
def ofOption {α : Type} (f : α → Json) : Option α → Json
  | none => null
  | some a => f a

/-- A list of strings. -/
def strings (items : List String) : Json :=
  array (items.map string)

/-- The first member with a key. -/
def member? (key : String) : Json → Option Json
  | object members => (members.find? fun m => m.1 == key).map Prod.snd
  | _ => none

end Json

end ModuleRuntime
