import ModuleRuntime.Json.Decode

/-!
# Reports of failures

What is told of a failure: its kind, whom it concerns, and a text. Reports are shown on one line and
exchanged as JSON, as an object whose only key is the kind.
-/

set_option autoImplicit false

namespace ModuleRuntime

/-- What is told of a failure. -/
inductive Report where
  | io (details : String)
  | badImage (path message : String)
  | conflict (moduleId resource : String)
  | sequence (message : String)
  | validation (message : String)
  | sandbox (moduleId message : String)
  | link (moduleId message : String)
  | serialization (details : String)
  | archive (details : String)
  | internal (details : String)
  deriving DecidableEq

namespace Report

/-- The name of the kind. -/
def kind : Report → String
  | io _ => "Io"
  | badImage .. => "BadImage"
  | conflict .. => "Conflict"
  | sequence _ => "Sequence"
  | validation _ => "Validation"
  | sandbox .. => "Sandbox"
  | link .. => "Link"
  | serialization _ => "Serde"
  | archive _ => "Zip"
  | internal _ => "Internal"

/-- The report on one line. -/
def text : Report → String
  | io details => s!"io error: {details}"
  | badImage path message => s!"bad module image '{path}': {message}"
  | conflict moduleId resource => s!"conflict on '{resource}' for '{moduleId}'"
  | sequence message => s!"sequence error: {message}"
  | validation message => s!"validation error: {message}"
  | sandbox moduleId message => s!"sandbox violation in '{moduleId}': {message}"
  | link moduleId message => s!"link error in '{moduleId}': {message}"
  | serialization details => s!"serialization error: {details}"
  | archive details => s!"zip error: {details}"
  | internal details => s!"internal error: {details}"

/-- Whether an identity was already taken. -/
def isConflict : Report → Bool
  | conflict .. => true
  | _ => false

/-- Whether a call came in the wrong phase. -/
def isSequence : Report → Bool
  | sequence _ => true
  | _ => false

/-- What stands under the kind: a text for a report that is only a text, else its parts. -/
def content : Report → Json
  | io details | serialization details | archive details | internal details => .string details
  | sequence message | validation message => .object [("message", .string message)]
  | badImage path message => .object [("path", .string path), ("message", .string message)]
  | conflict moduleId resource =>
    .object [("module_id", .string moduleId), ("resource", .string resource)]
  | sandbox moduleId message | link moduleId message =>
    .object [("module_id", .string moduleId), ("message", .string message)]

/-- The report as JSON. -/
def toJson (r : Report) : Json :=
  .object [(r.kind, r.content)]

/-- A report with one text, under the key `message`. -/
def ofMessage? (make : String → Report) (v : Json) : Option Report := do
  let r ← v.record? ["message"]
  some (make (← r.required? "message" Json.text?))

/-- A report with two texts under the given keys. -/
def ofPair? (make : String → String → Report) (first second : String) (v : Json) :
    Option Report := do
  let r ← v.record? [first, second]
  some (make (← r.required? first Json.text?) (← r.required? second Json.text?))

/-- The report of a kind and what stands under it. -/
def ofContent? (kind : String) (v : Json) : Option Report :=
  match kind with
  | "Io" => v.text?.map io
  | "BadImage" => ofPair? badImage "path" "message" v
  | "Conflict" => ofPair? conflict "module_id" "resource" v
  | "Sequence" => ofMessage? sequence v
  | "Validation" => ofMessage? validation v
  | "Sandbox" => ofPair? sandbox "module_id" "message" v
  | "Link" => ofPair? link "module_id" "message" v
  | "Serde" => v.text?.map serialization
  | "Zip" => v.text?.map archive
  | "Internal" => v.text?.map internal
  | _ => none

/-- The report of a JSON value: an object with one member, named for the kind. -/
def ofJson? : Json → Option Report
  | .object [(kind, v)] => ofContent? kind v
  | _ => none

end Report

end ModuleRuntime
