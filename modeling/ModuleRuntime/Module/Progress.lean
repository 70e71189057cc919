import ModuleRuntime.Module.Loader

/-!
# Loading several modules

What has become of the modules of a batch or a reload so far. A module that refers to one that was
not loaded is not loaded either; but a name that somebody else holds is still good.
-/

set_option autoImplicit false

namespace ModuleRuntime.Module

/-- A module that was not loaded, and why. -/
structure Skipped where
  name : String
  error : Error
  deriving DecidableEq

/-- The loader so far, the modules that were loaded and that were not, each in turn, and the names
that modules cannot refer to any more. -/
structure Progress where
  loader : Loader
  loaded : List (String × Handle)
  skipped : List Skipped
  missing : List String

namespace Progress

/-- Nothing was loaded yet. -/
def start (l : Loader) : Progress :=
  ⟨l, [], [], []⟩

/-- The names of a module that nobody holds. -/
def unheldNames (l : Loader) (d : Descriptor) : List String :=
  d.names.filter fun name => !l.registry.knows name

/-- One more module that was loaded, under a name. -/
def addLoaded (p : Progress) (name : String) (h : Handle) : Progress :=
  { p with loaded := p.loaded ++ [(name, h)] }

/-- One more module that was not loaded, under a name. -/
def skip (p : Progress) (name : String) (d : Descriptor) (e : Error) : Progress :=
  { p with
    skipped := p.skipped ++ [⟨name, e⟩]
    missing := p.missing ++ unheldNames p.loader d }

/-- The first reference of a module to a missing name. -/
def missingReference? (p : Progress) (d : Descriptor) : Option String :=
  d.references.find? p.missing.contains

end Progress

end ModuleRuntime.Module
