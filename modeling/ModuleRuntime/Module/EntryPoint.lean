import ModuleRuntime.Dictionary

/-!
# Entry points

A module is reached through its entry points. Code outside the runtime implements them; the runtime
knows which of the optional hooks they have and calls hooks, which answer nothing.
-/

set_option autoImplicit false

namespace ModuleRuntime.Module

/-- Something that the host gives to entry points. -/
inductive Service where
  | integer (n : Int)
  | text (s : String)
  | flag (b : Bool)
  deriving DecidableEq

/-- The types of services. -/
inductive ServiceType where
  | integer
  | text
  | flag
  deriving DecidableEq

/-- The type of a service. -/
def Service.type : Service → ServiceType
  | integer _ => .integer
  | text _ => .text
  | flag _ => .flag

/-- The services of a host, at most one of each type. -/
structure Dependencies where
  services : Dictionary ServiceType Service
  deriving DecidableEq

namespace Dependencies

/-- No service. -/
def none : Dependencies :=
  ⟨.empty⟩

/-- The services with one more, in place of an earlier one of its type. -/
def insert (d : Dependencies) (s : Service) : Dependencies :=
  ⟨d.services.put s.type s⟩

/-- The service of a type. -/
def resolve? (d : Dependencies) (type : ServiceType) : Option Service :=
  d.services.find? type

/-- The number of services. -/
def size (d : Dependencies) : Nat :=
  d.services.size

/-- The services as diagnostics show them. -/
def debugText (d : Dependencies) : String :=
  "RtDependencies \x7b services: " ++ toString d.size ++ " \x7d"

end Dependencies

/-- The levels through which entry points start. A level that nobody understands is an error. -/
inductive RunLevel where
  | error
  | preInit
  | init
  | postInit
  deriving DecidableEq

/-- The name of a level. -/
def RunLevel.name : RunLevel → String
  | error => "Error"
  | preInit => "PreInit"
  | init => "Init"
  | postInit => "PostInit"

/-- The part of a frame to which an update belongs. -/
inductive UpdateLevel where
  | preEngine
  | postEngine
  | framePreEngine
  | framePostEngine
  | inputPreEngine
  | inputPostEngine
  | userInterface
  deriving DecidableEq

/-- The name of a part of a frame. -/
def UpdateLevel.name : UpdateLevel → String
  | preEngine => "PreEngine"
  | postEngine => "PostEngine"
  | framePreEngine => "FramePreEngine"
  | framePostEngine => "FramePostEngine"
  | inputPreEngine => "InputPreEngine"
  | inputPostEngine => "InputPostEngine"
  | userInterface => "UserInterface"

/-- The time since the last frame, as the bits of a number of the format binary32, and the number of
the frame. -/
structure Frame where
  delta : UInt32
  tick : UInt64
  deriving DecidableEq

/-- What an entry point is: its name, whether it has hooks of its own for starting again after a
reload, and whether it listens to reloads. -/
structure EntryPoint where
  name : String
  isReloadable : Bool
  isListener : Bool
  deriving DecidableEq

/-- A call of an entry point. -/
inductive Hook where
  | create
  | setDependencies (dependencies : Dependencies)
  | setTestingCallbacks (callbacks : List Service)
  | preInit
  | init
  | postInit
  | reloadedPreInit
  | reloadedInit
  | reloadedPostInit
  | update (level : UpdateLevel) (frame : Frame)
  | shutdown
  | dispose
  | reloadTriggered
  | reloadCompleted
  deriving DecidableEq

/-- The name of a hook. -/
def Hook.name : Hook → String
  | create => "New"
  | setDependencies _ => "SetDependencies"
  | setTestingCallbacks _ => "SetTestingCallbacks"
  | preInit => "PreInit"
  | init => "Init"
  | postInit => "PostInit"
  | reloadedPreInit => "ReloadedPreInit"
  | reloadedInit => "ReloadedInit"
  | reloadedPostInit => "ReloadedPostInit"
  | update _ _ => "Update"
  | shutdown => "Shutdown"
  | dispose => "Dispose"
  | reloadTriggered => "ReloadTriggered"
  | reloadCompleted => "ReloadCompleted"

end ModuleRuntime.Module
