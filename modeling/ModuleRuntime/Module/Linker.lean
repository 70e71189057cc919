import ModuleRuntime.Module.Descriptor
import ModuleRuntime.Module.EntryPoint
import ModuleRuntime.Module.Image
import ModuleRuntime.Text.Quoted
import ModuleRuntime.Text.Split

/-!
# Linkers

A linker finds the entry points of an inspected module. Those of modules that belong to the host are
listed by assembly; other modules bring a library, which is taken from the image and opened.
-/

set_option autoImplicit false

namespace ModuleRuntime.Module

/-- The code of a linked module, under a label. -/
structure Region where
  label : String
  isNative : Bool
  deriving DecidableEq

namespace Region

/-- The code of a module that belongs to the host. -/
def inProcess (label : String) : Region :=
  ⟨label, false⟩

/-- The region as diagnostics show it. -/
def debugText (r : Region) : String :=
  "RtLoadRegion \x7b label: " ++ Text.quoted r.label
    ++ ", native: " ++ (if r.isNative then "true" else "false") ++ " \x7d"

end Region

/-- What linking a module gives: its entry points in the order in which they are created, and its
code. -/
structure Linked where
  entryPoints : List EntryPoint
  region : Region
  deriving DecidableEq

/-- The linked module as diagnostics show it. -/
def Linked.debugText (l : Linked) : String :=
  "RtLinkedModule \x7b manifest: RtModuleManifest \x7b entry_points: "
    ++ toString l.entryPoints.length ++ " \x7d, region: " ++ l.region.debugText ++ " \x7d"

/-- Which modules a linker takes, and how it links a module with its image. -/
structure Linker where
  accepts : Descriptor → Bool
  link : Descriptor → Image → Result Linked

/-- A linker over time. It may answer every call in another way, so it is given by the linkers that
answer the calls from now on, one for each call. -/
structure LinkerSequence where
  nth : Nat → Linker

namespace LinkerSequence

/-- The linker that answers the next call. -/
def head (s : LinkerSequence) : Linker :=
  s.nth 0

/-- The linkers for the calls behind the next one. -/
def tail (s : LinkerSequence) : LinkerSequence :=
  ⟨fun n => s.nth (n + 1)⟩

/-- A linker that answers every call alike. -/
def constant (l : Linker) : LinkerSequence :=
  ⟨fun _ => l⟩

instance : Coe Linker LinkerSequence :=
  ⟨constant⟩

/-- The linker that answers the first call. -/
@[simp]
theorem head_constant (l : Linker) : (constant l).head = l := rfl

/-- The linkers that answer the calls behind the first one. -/
@[simp]
theorem tail_constant (l : Linker) : (constant l).tail = constant l := rfl

end LinkerSequence

namespace Linker

/-- Links the modules of the host, whose entry points are listed by assembly. -/
def ofTable (table : Dictionary String (List EntryPoint)) : Linker where
  accepts d := table.contains d.assembly
  link d _ :=
    match table.find? d.assembly with
    | some entryPoints => .ok ⟨entryPoints, .inProcess d.id⟩
    | none => .error (.link d.id (.noManifest d.assembly))

/-- The name of the file that a path leads to, if it leads to one. -/
def fileName? (path : String) : Option String :=
  let parts := (Text.splitAll ['/'] path.toList).filter fun part => part ≠ [] && part ≠ ['.']
  match parts.getLast? with
  | none => none
  | some part => if part = ['.', '.'] then none else some (String.ofList part)

/-- Whether a file can have a name: it has at most 255 octets, and none is zero. -/
def isFileName (name : String) : Bool :=
  name.utf8ByteSize ≤ 255 && !name.toList.contains '\x00'

/-- Links modules that bring a library. It is written to a file of its own name; here no such file
can be opened, so every module is refused in the end. -/
def native : Linker where
  accepts d := d.library.isSome
  link d image := do
    match d.library with
    | none => throw (.link d.id .noLibrary)
    | some library =>
      match fileName? library with
      | none => throw (.link d.id (.libraryEntry library))
      | some name =>
        let _ ← image.readEntry library
        if !isFileName name then throw (.io "the file cannot have that name")
        throw (.link d.id (.unopenable "the file is no library of this process"))

/-- Links each module by the first of several linkers that takes it. -/
def chain (linkers : List Linker) : Linker where
  accepts d := linkers.any fun l => l.accepts d
  link d image :=
    match linkers.find? fun l => l.accepts d with
    | some l => l.link d image
    | none => .error (.link d.id .noLinker)

end Linker

end ModuleRuntime.Module
