import ModuleRuntime.Module.Descriptor
import ModuleRuntime.Module.Gauge
import ModuleRuntime.Module.Image

/-!
# Inspecting images

The descriptor of a module is read from its image alone. A module that declares nothing of itself
has the id of its assembly, is content when that starts with the content prefix, and is sandboxed.
-/

set_option autoImplicit false

namespace ModuleRuntime.Module

/-- How images are inspected: which assemblies are content, and whether every module
is sandboxed. -/
structure Inspector where
  contentPrefix : String
  forceSandbox : Bool
  deriving DecidableEq

namespace Inspector

/-- The inspector with the usual content prefix. -/
def default : Inspector :=
  ⟨"Content.", false⟩

/-- What a module of an assembly is that declares nothing. -/
def undeclared (i : Inspector) (assembly : String) : Declaration :=
  ⟨none, i.contentPrefix.toList.isPrefixOf assembly.toList, false, true⟩

/-- What a module declares by its attributes. -/
def declarationOf (i : Inspector) (assembly : String) (attributes : Dictionary String Properties) :
    Except Invalid Declaration :=
  match attributes.find? Declaration.type with
  | some p => Declaration.ofProperties p
  | none => .ok (i.undeclared assembly)

/-- The truth value as logs show it. -/
def shownFlag (b : Bool) : String :=
  if b then "true" else "false"

/-- The entry for a module that takes itself out of the sandbox. -/
def unsandboxed (assembly : String) (declared : Bool) : Log.Entry :=
  ⟨.warn, "rtx.mod.loader", "mod.inspect.legacy_sandbox_marker",
    "deprecated skip-if-sandboxed marker disables sandboxing",
    [("assembly", assembly), ("declared_sandboxed", shownFlag declared)]⟩

/-- The entry for an inspected module. -/
def inspected (d : Descriptor) : Log.Entry :=
  ⟨.debug, "rtx.mod.loader", "mod.inspect", "module inspected",
    [("assembly", d.assembly), ("module", d.id), ("version", d.version.text),
      ("content", shownFlag d.isContent), ("reload", shownFlag d.supportsReload),
      ("sandboxed", shownFlag d.isSandboxed), ("references", toString d.references.length)]⟩

/-- The identity that metadata give: the assembly, the version, the attributes and the declaration,
each checked in turn. -/
def identify (i : Inspector) (m : Metadata) :
    Except ImageFault (String × Version × Dictionary String Properties × Declaration) := do
  let assembly := Text.trim m.assembly
  if assembly = "" then throw .emptyAssemblyName
  let version ← (Version.parse m.version).mapError .invalid
  let attributes ← m.attributeTable.mapError .invalid
  if m.references.any fun r => Text.trim r == "" then throw .emptyReference
  let declaration ← (i.declarationOf assembly attributes).mapError .invalid
  return (assembly, version, attributes, declaration)

/-- The descriptor of an image with given metadata, and what is logged of it. -/
def resolve (i : Inspector) (image : Image) (m : Metadata) :
    Result (Descriptor × List Log.Entry) := do
  let (assembly, version, attributes, declaration) ← (i.identify m).mapError image.refusal
  let declared := declaration.isSandboxed || i.forceSandbox
  let isExempt := attributes.contains Declaration.unsandboxedType
  let d : Descriptor := {
    assembly := assembly
    id := declaration.id.getD assembly
    isContent := declaration.isContent
    supportsReload := declaration.supportsReload
    isSandboxed := declared && !isExempt
    references := m.references
    attributes := attributes
    version := version
    library := m.library
    fingerprint := image.fingerprint
    path := image.path }
  return (d, (if isExempt then [unsandboxed assembly declared] else []) ++ [inspected d])

/-- The descriptor of an image, and what is logged of it. -/
def describe (i : Inspector) (image : Image) : Result (Descriptor × List Log.Entry) := do
  i.resolve image (← image.metadata)

/-- Inspects an image in a session of its own, where reading the metadata does not panic. -/
def inspect (i : Inspector) (g : Gauge) (image : Image) :
    Journaled Log.Entry (Result Descriptor × Gauge) := do
  let result ←
    match i.describe image with
    | .ok (d, entries) => do
      Journaled.tellAll entries
      pure (.ok d)
    | .error e => pure (.error e)
  let g ← g.acquire.release
  return (result, g)

/-- Inspects an image in a session of its own. If reading the metadata panics there is no answer,
but the session is closed all the same. -/
def attempt (i : Inspector) (g : Gauge) (image : Image) :
    Journaled Log.Entry (Option (Result Descriptor) × Gauge) := do
  if image.overflows Image.metadataEntry then
    let g ← g.acquire.release
    return (none, g)
  else
    let (result, g) ← i.inspect g image
    return (some result, g)

end Inspector

end ModuleRuntime.Module
