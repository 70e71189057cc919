import ModuleRuntime.Report

/-!
# Errors

The causes of failure, and the report of each. A cause keeps what it is about; the wording is in one
function for each kind of cause. Code outside the runtime (a linker, a controller) tells its own
failures as reports.
-/

set_option autoImplicit false

namespace ModuleRuntime

/-- Why an input is not valid. -/
inductive Invalid where
  | versionForm (text : String)
  | majorVersion
  | minorVersion
  | patchVersion
  | emptyPreRelease
  | emptyAttributeType
  | repeatedAttribute (type : String)
  | emptyDeclaredId
  | declaredIdNoText (value : String)
  | propertyNoFlag (key value : String)
  | reservedEntry (name : String)
  | emptyContentPrefix
  | emptyCoreModule (index : Nat)
  | configExtension (extension file : String)
  | eventOrigin (event : String)
  | emptyMask (event : String)
  | circularReference (moduleId : String)
  | notDynamic (moduleId : String)
  | reloadSupportLost
  deriving DecidableEq

/-- What is told of an invalid input. -/
def Invalid.message : Invalid → String
  | versionForm text => s!"invalid version '{text}', expected major.minor.patch"
  | majorVersion => "invalid major version"
  | minorVersion => "invalid minor version"
  | patchVersion => "invalid patch version"
  | emptyPreRelease => "empty pre-release tag"
  | emptyAttributeType => "attribute type must not be empty"
  | repeatedAttribute type => s!"attribute '{type}' declared more than once"
  | emptyDeclaredId => "declared module id is empty"
  | declaredIdNoText value => s!"property 'id' must be a string, got {value}"
  | propertyNoFlag key value => s!"property '{key}' must be a bool, got {value}"
  | reservedEntry name => s!"entry name '{name}' is reserved"
  | emptyContentPrefix => "content_prefix must not be empty"
  | emptyCoreModule index => s!"core_modules[{index}] is empty"
  | configExtension extension file => s!"unsupported config extension '{extension}' for {file}"
  | eventOrigin event => s!"event '{event}' has an invalid origin value"
  | emptyMask event => s!"subscription to '{event}' has an empty origin mask"
  | circularReference moduleId => s!"circular reference involving '{moduleId}'"
  | notDynamic moduleId => s!"module '{moduleId}' is not loaded in the dynamic context"
  | reloadSupportLost => "replacement image no longer supports live reload"

/-- Why a module image was refused. -/
inductive ImageFault where
  | unreadableArchive (details : String)
  | malformedMetadata (details : String)
  | missingEntry (name details : String)
  | emptyAssemblyName
  | emptyReference
  | invalid (cause : Invalid)
  deriving DecidableEq

/-- What is told of a refused image. -/
def ImageFault.message : ImageFault → String
  | unreadableArchive details => s!"unreadable archive: {details}"
  | malformedMetadata details => s!"malformed module.json: {details}"
  | missingEntry name details => s!"missing entry '{name}': {details}"
  | emptyAssemblyName => "assembly name is empty"
  | emptyReference => "empty module reference"
  | invalid cause => (Report.validation cause.message).text

/-- Which set of modules holds an identity. -/
inductive Holder where
  | core
  | staticPending
  | staticLoaded
  | dynamicPending
  | dynamicLoaded
  deriving DecidableEq

/-- The name of a set of modules. -/
def Holder.name : Holder → String
  | core => "core"
  | staticPending => "static-pending"
  | staticLoaded => "static-loaded"
  | dynamicPending => "dynamic-pending"
  | dynamicLoaded => "dynamic-loaded"

/-- What a conflict is about. -/
inductive Resource where
  | identity (name : String) (holder : Holder)
  | context (name : String)
  | subscription (token : String)
  deriving DecidableEq

/-- The name of what a conflict is about. -/
def Resource.name : Resource → String
  | identity name holder => s!"{name} ({holder.name})"
  | context name => s!"context '{name}'"
  | subscription token => s!"subscription {token}"

/-- Why a call came in the wrong phase. -/
inductive Misplaced where
  | registrationsLocked (action event : String)
  | unregisteredEvent (event payload : String)
  | originNotAllowed (origin event allowed : String)
  | notPending (moduleId : String)
  | unloading (context : String)
  | unsupported (operation context : String)
  | reloadDisabled
  | reloadInProgress
  deriving DecidableEq

/-- What is told of a call in the wrong phase. -/
def Misplaced.message : Misplaced → String
  | registrationsLocked action event =>
    s!"registrations locked, cannot {action} '{event}'; "
      ++ "register events from a controller during setup"
  | unregisteredEvent event payload =>
    s!"cannot subscribe to unregistered event '{event}' ({payload})"
  | originNotAllowed origin event allowed =>
    s!"subscription origin {origin} is not allowed for event '{event}' (allowed {allowed})"
  | notPending moduleId => s!"module '{moduleId}' is not pending"
  | unloading context => s!"context '{context}' does not support unloading"
  | unsupported operation context => s!"{operation} is not supported in context '{context}'"
  | reloadDisabled => "live reload is disabled"
  | reloadInProgress => "a live reload is already in progress"

/-- Why a module could not be linked. -/
inductive LinkFault where
  | noManifest (assembly : String)
  | noLibrary
  | libraryEntry (entry : String)
  | unopenable (details : String)
  | noLinker
  | dependencyNotLoaded (name : String)
  | dependencyNotReloaded (name : String)
  deriving DecidableEq

/-- What is told of a module that could not be linked. -/
def LinkFault.message : LinkFault → String
  | noManifest assembly => s!"no manifest registered for '{assembly}'"
  | noLibrary => "module declares no library"
  | libraryEntry entry => s!"bad library entry '{entry}'"
  | unopenable details => s!"failed to open library: {details}"
  | noLinker => "no linker accepts this module"
  | dependencyNotLoaded name => s!"dependency '{name}' was not loaded"
  | dependencyNotReloaded name => s!"dependency '{name}' was not reloaded"

/-- The cause of a failure. -/
inductive Error where
  | io (details : String)
  | image (path : String) (fault : ImageFault)
  | conflict (subject : String) (resource : Resource)
  | misplaced (cause : Misplaced)
  | invalid (cause : Invalid)
  | sandbox (moduleId reference : String)
  | link (moduleId : String) (fault : LinkFault)
  | undecodable (format : String)
  | loggerInstalled
  | told (report : Report)
  deriving DecidableEq

/-- What is told of a failure. -/
def Error.report : Error → Report
  | io details => .io details
  | image path fault => .badImage path fault.message
  | conflict subject resource => .conflict subject resource.name
  | misplaced cause => .sequence cause.message
  | invalid cause => .validation cause.message
  | sandbox moduleId reference => .sandbox moduleId s!"reference '{reference}' is not allowed"
  | link moduleId fault => .link moduleId fault.message
  | undecodable format => .serialization s!"the text is no {format} of the expected form"
  | loggerInstalled => .internal "logger already installed: only the first installation succeeds"
  | told report => report

/-- A failure on one line. -/
def Error.text (e : Error) : String :=
  e.report.text

/-- The result of an operation that can fail. -/
abbrev Result := Except Error

end ModuleRuntime
