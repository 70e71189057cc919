import ModuleRuntime.Module.Attribute

/-!
# Metadata of modules

What the image of a module says of it: its assembly, the version, the modules it refers to, its
native library, and its attributes.
-/

set_option autoImplicit false

namespace ModuleRuntime.Module

/-- What the image of a module says of it. -/
structure Metadata where
  assembly : String
  version : String
  references : List String
  library : Option String
  attributes : List Attribute
  deriving DecidableEq

namespace Metadata

/-- The metadata of an assembly of version `1.0.0` that says nothing else. -/
def named (assembly : String) : Metadata :=
  ⟨assembly, "1.0.0", [], none, []⟩

/-- The attributes by type. -/
def attributeTable (m : Metadata) : Except Invalid (Dictionary String Properties) :=
  Attribute.table m.attributes

/-- The metadata of a JSON value. Only the assembly has to be given. -/
def ofJson? (v : Json) : Option Metadata := do
  let r ← v.record? ["assembly_name", "version", "references", "library", "attributes"]
  some {
    assembly := ← r.required? "assembly_name" Json.text?
    version := ← r.default? "version" "1.0.0" Json.text?
    references := ← r.default? "references" [] Document.texts?
    library := ← r.default? "library" none (Document.nullable? Json.text?)
    attributes := ← r.default? "attributes" [] fun v => do
      (← Json.items? v).mapM Attribute.ofJson? }

/-- The metadata as JSON. -/
def toJson (m : Metadata) : Json :=
  .object [
    ("assembly_name", .string m.assembly),
    ("version", .string m.version),
    ("references", Json.strings m.references),
    ("library", .ofOption .string m.library),
    ("attributes", .array (m.attributes.map Attribute.toJson))]

end Metadata

end ModuleRuntime.Module
