import ModuleRuntime.Log.Record

/-!
# Log entries

What the runtime itself logs: an event with its message and fields, written as the text from which a
record is read.
-/

set_option autoImplicit false

namespace ModuleRuntime.Log

/-- An event that is logged. -/
structure Entry where
  level : Level
  target : String
  event : String
  message : String
  fields : List (String × String)
  deriving DecidableEq

namespace Entry

/-- The text of an entry. -/
def text (e : Entry) : String :=
  e.event ++ ": " ++ e.message
    ++ if e.fields.isEmpty then ""
       else " - " ++ ", ".intercalate (e.fields.map fun (key, value) => key ++ "=" ++ value)

/-- The record that a reader makes of an entry. -/
def record (e : Entry) (timestamp : Nat) : Record :=
  .parse e.level e.target e.text timestamp

end Entry

end ModuleRuntime.Log
