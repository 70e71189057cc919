import ModuleRuntime.Dictionary
import ModuleRuntime.Json.Writer
import ModuleRuntime.Log.Level
import ModuleRuntime.Text.Blank
import ModuleRuntime.Text.Split

/-!
# Log records

A record is read from the text `event: message - key=value, key=value`. The first `": "` ends the
event and the last `" - "` starts the fields, so the message may hold both. A text without an event
takes the target as its event, and a text without fields is all message.
-/

set_option autoImplicit false

namespace ModuleRuntime.Log

/-- A log record. -/
structure Record where
  level : Level
  target : String
  event : String
  message : String
  fields : Dictionary String Json
  timestamp : Nat

namespace Record

/-- The event of a text and what follows it. An event is a word without blanks. -/
def splitEvent? (text : List Char) : Option (List Char × List Char) :=
  match Text.splitFirst [':', ' '] text with
  | some (event, rest) => if event.isEmpty || event.contains ' ' then none else some (event, rest)
  | none => none

/-- The field of a text `key=value`. -/
def readField? (text : List Char) : Option (String × Json) :=
  (Text.splitFirst ['='] text).map fun (key, value) =>
    (String.ofList (Text.trimChars key), .string (String.ofList (Text.trimChars value)))

/-- The message and the fields of what follows the event. Without `=` behind the last `" - "` there
are no fields. -/
def splitFields (text : List Char) : List Char × Dictionary String Json :=
  match Text.splitLast [' ', '-', ' '] text with
  | some (message, tail) =>
    if tail.contains '=' then
      (message, Dictionary.ofList ((Text.splitAll [',', ' '] tail).filterMap readField?))
    else (text, Dictionary.empty)
  | none => (text, Dictionary.empty)

/-- The record of a text, at a time. -/
def parse (level : Level) (target text : String) (timestamp : Nat) : Record :=
  let (event, rest) :=
    match splitEvent? text.toList with
    | some (event, rest) => (String.ofList event, rest)
    | none => (target, text.toList)
  let (message, fields) := splitFields rest
  ⟨level, target, event, String.ofList message, fields, timestamp⟩

/-- The fields in the order of their keys. -/
def sortedFields (r : Record) : List (String × Json) :=
  r.fields.entries.mergeSort fun a b => decide (a.1 ≤ b.1)

/-- The record as JSON. -/
def toJson (r : Record) : Json :=
  .object [
    ("level", .string r.level.name),
    ("target", .string r.target),
    ("event", .string r.event),
    ("message", .string r.message),
    ("timestamp_ms", .nat r.timestamp),
    ("fields", .object r.sortedFields)]

/-- A field as text; a value that is no string is written as JSON. -/
def fieldText : String × Json → String
  | (key, .string s) => key ++ "=" ++ s
  | (key, v) => key ++ "=" ++ v.write

/-- The event, the message and the fields as text, from which they are read back. -/
def body (r : Record) : String :=
  r.event ++ ": " ++ r.message
    ++ if r.fields.entries.isEmpty then ""
       else " - " ++ ", ".intercalate (r.sortedFields.map fieldText)

/-- The level in brackets, at least five characters wide, and the target in brackets. -/
def header (r : Record) : String :=
  let padding := String.ofList (List.replicate (5 - r.level.name.length) ' ')
  "[" ++ r.level.name ++ padding ++ "] [" ++ r.target ++ "] "

/-- The record on one line. -/
def toText (r : Record) : String :=
  r.header ++ r.body

end Record

end ModuleRuntime.Log
