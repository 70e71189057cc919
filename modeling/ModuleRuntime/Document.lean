import ModuleRuntime.Dictionary

/-!
# Documents

What a decoder asks of a document, whatever format it was written in: texts, truth values, lists,
tables and records. A record names its fields. Some formats also accept a list for it, with the
fields in their order; then a field can be left out only where it has a value of its own.
-/

set_option autoImplicit false

namespace ModuleRuntime

/-- The fields of a record that are present, by name. -/
structure Record (ν : Type) where
  fields : List (String × ν)
  named : Bool

/-- A format of documents. Each reading fails on a document of another kind. -/
class Document (ν : Type) where
  /-- The value of a document that may be null; the outer failure is a document without a value. -/
  present? : ν → Option (Option ν)
  text? : ν → Option String
  flag? : ν → Option Bool
  items? : ν → Option (List ν)
  entries? : ν → Option (List (String × ν))
  record? : List String → ν → Option (Record ν)

namespace Record

variable {ν α : Type}

/-- The field of a name. -/
def field? (r : Record ν) (name : String) : Option ν :=
  (r.fields.find? fun f => f.1 == name).map Prod.snd

/-- A field that has to be present. -/
def required? (r : Record ν) (name : String) (decode : ν → Option α) : Option α :=
  (r.field? name).bind decode

/-- A field that has a value of its own when it is left out. -/
def default? (r : Record ν) (name : String) (value : α) (decode : ν → Option α) : Option α :=
  match r.field? name with
  | none => some value
  | some v => decode v

end Record

namespace Document

variable {ν α : Type} [Document ν]

/-- A document that may be null. -/
def nullable? (decode : ν → Option α) (v : ν) : Option (Option α) := do
  match ← present? v with
  | none => some none
  | some v => (decode v).map some

/-- A list of texts. -/
def texts? (v : ν) : Option (List String) := do
  (← items? v).mapM text?

/-- A table whose values are decoded alike; of several entries with one key the last one counts. -/
def table? (decode : ν → Option α) (v : ν) : Option (Dictionary String α) := do
  let entries ← (← entries? v).mapM fun (k, v) => (decode v).map (k, ·)
  some (Dictionary.ofList entries)

end Document

/-- A field that may be null, and that a record with named fields may leave out. -/
def Record.optional? {ν α : Type} [Document ν] (r : Record ν) (name : String)
    (decode : ν → Option α) : Option (Option α) :=
  match r.field? name with
  | none => if r.named then some none else none
  | some v => Document.nullable? decode v

end ModuleRuntime
