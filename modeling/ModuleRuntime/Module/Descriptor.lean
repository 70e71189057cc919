import ModuleRuntime.Module.Attribute
import ModuleRuntime.Module.Version

/-!
# Module descriptors

Everything the runtime knows of a module before it is linked.
-/

set_option autoImplicit false

namespace ModuleRuntime.Module

/-- Whether a module is content or part of the engine. -/
inductive Kind where
  | content
  | engine
  deriving DecidableEq

/-- The name of a kind. -/
def Kind.name : Kind → String
  | content => "Content"
  | engine => "Engine"

/-- What is known of a module before it is linked. -/
structure Descriptor where
  assembly : String
  id : String
  isContent : Bool
  supportsReload : Bool
  isSandboxed : Bool
  references : List String
  attributes : Dictionary String Properties
  version : Version
  library : Option String
  fingerprint : String
  path : Option String
  deriving DecidableEq

namespace Descriptor

/-- Whether the module is content or part of the engine. -/
def kind (d : Descriptor) : Kind :=
  if d.isContent then .content else .engine

/-- Whether the module carries an attribute of a type. -/
def hasAttribute (d : Descriptor) (type : String) : Bool :=
  d.attributes.contains type

/-- Whether the module refers to a name. -/
def refersTo (d : Descriptor) (name : String) : Bool :=
  d.references.contains name

/-- The names by which the module can be referred to. -/
def names (d : Descriptor) : List String :=
  [d.id, d.assembly]

/-- Whether a name is that of the module or of its assembly. -/
def isNamed (d : Descriptor) (name : String) : Bool :=
  d.id == name || d.assembly == name

/-- A module is called by its names. -/
theorem isNamed_iff (d : Descriptor) (name : String) : d.isNamed name = true ↔ name ∈ d.names := by
  unfold isNamed names
  rw [Bool.or_eq_true, beq_iff_eq, beq_iff_eq, List.mem_cons, List.mem_singleton]
  exact or_congr eq_comm eq_comm

/-- The descriptor as JSON. -/
def toJson (d : Descriptor) : Json :=
  .object [
    ("assembly_name", .string d.assembly),
    ("module_id", .string d.id),
    ("is_content_module", .bool d.isContent),
    ("supports_reload", .bool d.supportsReload),
    ("is_sandboxed", .bool d.isSandboxed),
    ("referenced_module_names", Json.strings d.references),
    ("declared_attributes", .object (d.attributes.mapValues fun _ p => p.toJson).entries),
    ("version", d.version.toJson),
    ("library", .ofOption .string d.library),
    ("fingerprint", .string d.fingerprint),
    ("path", .ofOption .string d.path)]

/-- The descriptor of a JSON value. -/
def ofJson? (v : Json) : Option Descriptor := do
  let r ← v.record? ["assembly_name", "module_id", "is_content_module", "supports_reload",
    "is_sandboxed", "referenced_module_names", "declared_attributes", "version", "library",
    "fingerprint", "path"]
  some {
    assembly := ← r.required? "assembly_name" Json.text?
    id := ← r.required? "module_id" Json.text?
    isContent := ← r.required? "is_content_module" Json.flag?
    supportsReload := ← r.required? "supports_reload" Json.flag?
    isSandboxed := ← r.required? "is_sandboxed" Json.flag?
    references := ← r.required? "referenced_module_names" Document.texts?
    attributes := ← r.required? "declared_attributes" (Document.table? Properties.ofJson?)
    version := ← r.required? "version" Version.ofJson?
    library := ← r.optional? "library" Json.text?
    fingerprint := ← r.required? "fingerprint" Json.text?
    path := ← r.optional? "path" Json.text? }

end Descriptor

end ModuleRuntime.Module
