import ModuleRuntime.Json.Token

/-!
# Reading JSON

The tokens of a text drive a machine with a stack of open arrays and objects. The text has a value
when the machine ends with one value and nothing open.
-/

set_option autoImplicit false

namespace ModuleRuntime.Json.Reader

/-- An open array or object with what has been read of it, the latest first. A key without a value
is one that denotes nothing. -/
inductive Frame where
  | items (done : List Json)
  | members (done : List (Option String × Json)) (key : Option String)

/-- What may come next, inside the open frames, the innermost first. -/
inductive State where
  | value (frames : List Frame)
  | itemOrClose (frames : List Frame)
  | key (done : List (Option String × Json)) (frames : List Frame)
  | keyOrClose (frames : List Frame)
  | colon (done : List (Option String × Json)) (key : Option String) (frames : List Frame)
  | after (value : Json) (frames : List Frame)

/-- The object of its members, the latest first. A key that denotes nothing leaves it without a
value. -/
def objectOf (done : List (Option String × Json)) : Json :=
  match done.reverse.mapM fun (key, value) => key.map (·, value) with
  | some members => .object members
  | none => .meaningless

/-- The value of a token where a value is due, or the frame that it opens. -/
def start (frames : List Frame) : Token → Option State
  | .openArray => some (.itemOrClose frames)
  | .openObject => some (.keyOrClose frames)
  | .string s => some (.after ((s.map Json.string).getD .meaningless) frames)
  | .scalar v => some (.after v frames)
  | _ => none

/-- One step of the machine; nothing when the token is out of place. -/
def step : State → Token → Option State
  | .value frames, token => start frames token
  | .itemOrClose frames, .closeArray => some (.after (.array []) frames)
  | .itemOrClose frames, token => start (.items [] :: frames) token
  | .key done frames, .string key => some (.colon done key frames)
  | .keyOrClose frames, .closeObject => some (.after (.object []) frames)
  | .keyOrClose frames, .string key => some (.colon [] key frames)
  | .colon done key frames, .colon => some (.value (.members done key :: frames))
  | .after value (.items done :: frames), .comma => some (.value (.items (value :: done) :: frames))
  | .after value (.items done :: frames), .closeArray =>
    some (.after (.array (value :: done).reverse) frames)
  | .after value (.members done key :: frames), .comma => some (.key ((key, value) :: done) frames)
  | .after value (.members done key :: frames), .closeObject =>
    some (.after (objectOf ((key, value) :: done)) frames)
  | _, _ => none

/-- The value of a text given by its units. -/
def readUnits? (text : List (Option Char)) : Option Json := do
  match ← (← Token.tokens? text).foldlM step (.value []) with
  | .after value [] => some value
  | _ => none

end Reader

/-- The value of a text. -/
def read? (text : String) : Option Json :=
  Reader.readUnits? (text.toList.map some)

/-- The value of a sequence of octets. -/
def readOctets? (octets : List UInt8) : Option Json :=
  Reader.readUnits? (Text.Utf8.units octets)

end ModuleRuntime.Json
