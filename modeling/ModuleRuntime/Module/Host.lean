import ModuleRuntime.Journaled
import ModuleRuntime.Log.Entry
import ModuleRuntime.Module.EntryPoint
import ModuleRuntime.Module.Handle
import ModuleRuntime.Text.Quoted

/-!
# Hosts of entry points

A host calls the hooks of one entry point and keeps them in order: an entry point starts level by
level, then runs, shuts down and is disposed of, and never goes back. A call out of order is logged
and does nothing else.
-/

set_option autoImplicit false

namespace ModuleRuntime.Module

/-- How far an entry point has come. -/
inductive EntryState where
  | uninitialized
  | preInit
  | init
  | postInit
  | running
  | shuttingDown
  | disposed
  deriving DecidableEq

namespace EntryState

/-- The name of a state. -/
def name : EntryState → String
  | uninitialized => "Uninitialized"
  | preInit => "PreInit"
  | init => "Init"
  | postInit => "PostInit"
  | running => "Running"
  | shuttingDown => "ShuttingDown"
  | disposed => "Disposed"

/-- The place of a state in the life of an entry point. -/
def rank : EntryState → Nat
  | uninitialized => 0
  | preInit => 1
  | init => 2
  | postInit => 3
  | running => 4
  | shuttingDown => 5
  | disposed => 6

/-- Whether an entry point has not begun to shut down. -/
def isUp (s : EntryState) : Bool :=
  s.rank < shuttingDown.rank

end EntryState

/-- The call of a hook: the module and the index of the entry point in it, the entry point, and the
hook. -/
structure HookCall where
  handle : Handle
  index : Nat
  entry : EntryPoint
  hook : Hook
  deriving DecidableEq

/-- What can be seen of modules at work: entries of the log, and calls of hooks. -/
inductive Activity where
  | logged (entry : Log.Entry)
  | called (call : HookCall)
  deriving DecidableEq

/-- An entry point of a module, and how far it has come. -/
structure Host where
  handle : Handle
  moduleId : String
  index : Nat
  entry : EntryPoint
  state : EntryState
  deriving DecidableEq

namespace Host

/-- Calls a hook. -/
def call (h : Host) (hook : Hook) : Journaled Activity PUnit :=
  Journaled.tell (.called ⟨h.handle, h.index, h.entry, hook⟩)

/-- Logs what becomes of the entry point. -/
def log (h : Host) (level : Log.Level) (event message : String)
    (fields : List (String × String)) : Journaled Activity PUnit :=
  Journaled.tell (.logged ⟨level, "rtx.mod.context", event, message,
    [("module", h.moduleId), ("entry", toString h.index)] ++ fields⟩)

/-- Creates an entry point and gives it what the host has for it. -/
def new (handle : Handle) (moduleId : String) (index : Nat) (entry : EntryPoint)
    (dependencies : Dependencies) (callbacks : List Service) : Journaled Activity Host := do
  let h : Host := ⟨handle, moduleId, index, entry, .uninitialized⟩
  h.call .create
  h.call (.setDependencies dependencies)
  h.call (.setTestingCallbacks callbacks)
  return h

/-- The host as diagnostics show it. -/
def debugText (h : Host) : String :=
  "RtEntryPointHost \x7b module_id: " ++ Text.quoted h.moduleId
    ++ ", index: " ++ toString h.index ++ ", state: " ++ h.state.name ++ " \x7d"

/-- Logs a call out of order. -/
def refuse (h : Host) (requested : EntryState) : Journaled Activity PUnit :=
  h.log .error "mod.entry.bad_transition" "lifecycle call out of order, skipped"
    [("state", h.state.name), ("requested", requested.name)]

/-- A level as entry points go through it: the state that it needs, the state while its hook runs,
the state behind it, the hook, and the hook after a reload. -/
structure Stage where
  before : EntryState
  entered : EntryState
  after : EntryState
  hook : Hook
  reloadedHook : Hook

/-- What entry points go through at a level. -/
def stage? : RunLevel → Option Stage
  | .error => none
  | .preInit => some ⟨.uninitialized, .preInit, .preInit, .preInit, .reloadedPreInit⟩
  | .init => some ⟨.preInit, .init, .init, .init, .reloadedInit⟩
  | .postInit => some ⟨.init, .postInit, .running, .postInit, .reloadedPostInit⟩

/-- Enters a level. After a reload, entry points that have hooks of their own for it get those. -/
def enter (h : Host) (level : RunLevel) (isReloading : Bool) : Journaled Activity Host :=
  match stage? level with
  | none => do
    h.log .error "mod.entry.unknown_run_level" "Unknown RunLevel" [("level", level.name)]
    return h
  | some stage =>
    if h.state = stage.before then do
      h.call (if isReloading && h.entry.isReloadable then stage.reloadedHook else stage.hook)
      return { h with state := stage.after }
    else do
      h.refuse stage.entered
      return h

/-- Updates an entry point that runs. -/
def update (h : Host) (level : UpdateLevel) (frame : Frame) : Journaled Activity PUnit :=
  if h.state = .running then h.call (.update level frame) else pure ⟨⟩

/-- Shuts an entry point down, whether it has started or not. -/
def shutdown (h : Host) : Journaled Activity Host :=
  if h.state.isUp then do
    h.call .shutdown
    return { h with state := .shuttingDown }
  else do
    h.log .warn "mod.entry.double_shutdown" "shutdown requested twice, skipped" []
    return h

/-- Disposes of an entry point that has shut down. -/
def dispose (h : Host) : Journaled Activity Host :=
  if h.state = .shuttingDown then do
    h.call .dispose
    return { h with state := .disposed }
  else do
    h.refuse .disposed
    return h

/-- Tells an entry point that listens that a reload begins. -/
def announceReload (h : Host) : Journaled Activity PUnit :=
  if h.entry.isListener then h.call .reloadTriggered else pure ⟨⟩

/-- Tells an entry point that listens that a reload is over. -/
def announceReloadEnd (h : Host) : Journaled Activity PUnit :=
  if h.entry.isListener then h.call .reloadCompleted else pure ⟨⟩

end Host

end ModuleRuntime.Module
