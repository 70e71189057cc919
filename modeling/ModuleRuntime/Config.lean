import ModuleRuntime.Error
import ModuleRuntime.Json.Reader
import ModuleRuntime.Log.Config
import ModuleRuntime.Text.Split
import ModuleRuntime.Text.Utf8
import ModuleRuntime.Yaml.Decode

/-!
# Configuration

The configuration of a runtime is drafted field by field, from code or from a JSON or YAML document.
What a draft leaves open takes the default, and a configuration that the runtime cannot work with is
refused.
-/

set_option autoImplicit false

namespace ModuleRuntime

/-- What sandboxed modules may refer to besides the modules that the runtime knows. -/
structure SandboxPolicy where
  allowedReferences : List String
  deriving DecidableEq

namespace SandboxPolicy

/-- Whether a reference starts with one of the allowed texts. -/
def allows (p : SandboxPolicy) (reference : String) : Bool :=
  p.allowedReferences.any fun start => start.toList.isPrefixOf reference.toList

/-- The policy that allows nothing. -/
def none : SandboxPolicy :=
  ⟨[]⟩

/-- The policy as JSON. -/
def toJson (p : SandboxPolicy) : Json :=
  .object [("allowed_references", Json.strings p.allowedReferences)]

/-- The policy of a document. -/
def decode? {ν : Type} [Document ν] (v : ν) : Option SandboxPolicy := do
  let r ← Document.record? ["allowed_references"] v
  some ⟨← r.default? "allowed_references" [] Document.texts?⟩

end SandboxPolicy

/-- The configuration of a runtime. -/
structure Config where
  contentPrefix : String
  sandboxing : Bool
  liveReload : Bool
  isServer : Bool
  coreModules : List String
  sandbox : SandboxPolicy
  log : Log.Config

namespace Config

/-- Sandboxing without exceptions, no live reload, no core modules. -/
def default : Config where
  contentPrefix := "Content."
  sandboxing := true
  liveReload := false
  isServer := false
  coreModules := []
  sandbox := .none
  log := .default

/-- Whether a module is always present. -/
def isCoreModule (c : Config) (name : String) : Bool :=
  c.coreModules.contains name

/-- The configuration as JSON. -/
def toJson (c : Config) : Json :=
  .object [
    ("content_prefix", .string c.contentPrefix),
    ("sandboxing_enabled", .bool c.sandboxing),
    ("live_reload_enabled", .bool c.liveReload),
    ("is_server", .bool c.isServer),
    ("core_modules", Json.strings c.coreModules),
    ("sandbox", c.sandbox.toJson),
    ("log", c.log.toJson)]

/-- The configuration, unless the content prefix or a core module is the empty text. -/
def validated (c : Config) : Result Config :=
  if c.contentPrefix = "" then .error (.invalid .emptyContentPrefix)
  else
    match c.coreModules.findIdx? (· = "") with
    | some index => .error (.invalid (.emptyCoreModule index))
    | none => .ok c

/-- A configuration in the making. -/
structure Draft where
  contentPrefix : Option String
  sandboxing : Option Bool
  liveReload : Option Bool
  isServer : Option Bool
  coreModules : Option (List String)
  sandbox : Option SandboxPolicy
  log : Option Log.Config.Draft

namespace Draft

/-- The draft that leaves everything open. -/
def empty : Draft :=
  ⟨none, none, none, none, none, none, none⟩

/-- The draft with one more core module. -/
def coreModule (d : Draft) (name : String) : Draft :=
  { d with coreModules := some (d.coreModules.getD [] ++ [name]) }

/-- The draft with one more start of allowed references. -/
def allowReference (d : Draft) (start : String) : Draft :=
  let policy := d.sandbox.getD .none
  { d with sandbox := some ⟨policy.allowedReferences ++ [start]⟩ }

/-- The configuration of a draft. -/
def build (d : Draft) : Config where
  contentPrefix := d.contentPrefix.getD Config.default.contentPrefix
  sandboxing := d.sandboxing.getD Config.default.sandboxing
  liveReload := d.liveReload.getD Config.default.liveReload
  isServer := d.isServer.getD Config.default.isServer
  coreModules := d.coreModules.getD Config.default.coreModules
  sandbox := d.sandbox.getD Config.default.sandbox
  log := (d.log.map Log.Config.Draft.build).getD Config.default.log

/-- The configuration of a draft, if the runtime can work with it. -/
def validated (d : Draft) : Result Config :=
  d.build.validated

/-- The names of the fields. -/
def fieldNames : List String :=
  ["content_prefix", "sandboxing_enabled", "live_reload_enabled", "is_server", "core_modules",
    "sandbox", "log"]

/-- The draft of a document. -/
def decode? {ν : Type} [Document ν] (v : ν) : Option Draft := do
  let r ← Document.record? fieldNames v
  some {
    contentPrefix := ← r.optional? "content_prefix" Document.text?
    sandboxing := ← r.optional? "sandboxing_enabled" Document.flag?
    liveReload := ← r.optional? "live_reload_enabled" Document.flag?
    isServer := ← r.optional? "is_server" Document.flag?
    coreModules := ← r.optional? "core_modules" Document.texts?
    sandbox := ← r.optional? "sandbox" SandboxPolicy.decode?
    log := ← r.optional? "log" Log.Config.Draft.decode? }

end Draft

/-- The configuration of a draft that was decoded from a format. -/
def ofDraft (format : String) : Option Draft → Result Config
  | some d => d.validated
  | none => .error (.undecodable format)

/-- The configuration of a JSON value. -/
def ofJson (v : Json) : Result Config :=
  ofDraft "JSON" (Draft.decode? v)

/-- The configuration of a JSON text. -/
def ofJsonText (text : String) : Result Config :=
  ofDraft "JSON" ((Json.read? text).bind Draft.decode?)

/-- The configuration of a YAML text. -/
def ofYamlText (text : String) : Result Config :=
  ofDraft "YAML" ((Yaml.read? text).bind fun tree => Draft.decode? (Yaml.Value.ofTree tree))

/-- The last part of a path. -/
def fileName (path : String) : List Char :=
  match Text.splitLast ['/'] path.toList with
  | some (_, name) => name
  | none => path.toList

/-- What follows the last dot of a file name in lower case, unless that dot starts the name. -/
def extension (path : String) : String :=
  match Text.splitLast ['.'] (fileName path) with
  | some ([], _) => ""
  | some (['.'], []) => ""
  | some (_, ext) => String.ofList (ext.map Char.toLower)
  | none => ""

/-- The configuration in a file, whose extension tells the format. Without a content the file cannot
be read. -/
def ofFile (path : String) (content : Option (List UInt8)) : Result Config :=
  match content.bind Text.Utf8.decode? with
  | none => .error (.io "the file cannot be read as text")
  | some text =>
    match extension path with
    | "json" => ofJsonText text
    | "yaml" => ofYamlText text
    | "yml" => ofYamlText text
    | ext => .error (.invalid (.configExtension ext path))

end Config

end ModuleRuntime
