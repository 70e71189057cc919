import ModuleRuntime.Archive.Zip
import ModuleRuntime.Digest.Blake3
import ModuleRuntime.Json.Reader
import ModuleRuntime.Module.Metadata
import ModuleRuntime.Text.Hexadecimal

/-!
# Module images

The image of a module is an archive. One entry of it holds the metadata; a native library may be
another. Reading an image links and runs nothing.
-/

set_option autoImplicit false

namespace ModuleRuntime.Module

/-- The octets of a module, and where they were found. -/
structure Image where
  octets : List UInt8
  path : Option String
  deriving DecidableEq

/-- A sequence of octets that is read from a position on. -/
structure Stream where
  octets : List UInt8
  position : Nat

namespace Image

/-- The name of the entry that holds the metadata. -/
def metadataEntry : String := "module.json"

/-- The image in what is left of a stream, which is then back where it was. -/
def ofStream (s : Stream) (path : Option String) : Image × Stream :=
  (⟨s.octets.drop s.position, path⟩, s)

/-- The image in a file, which has no content if it cannot be read. -/
def ofFile (path : String) (content : Option (List UInt8)) : Result Image :=
  match content with
  | some octets => .ok ⟨octets, some path⟩
  | none => .error (.io "the file cannot be read")

/-- What a file holds after the image was written to it. -/
def writeTo (image : Image) (directoryExists : Bool) : Result (List UInt8) :=
  if directoryExists then .ok image.octets else .error (.io "the file cannot be written")

/-- The path as messages show it. -/
def shownPath (image : Image) : String :=
  image.path.getD "<memory>"

/-- The digest of the octets in hexadecimal digits. -/
def fingerprint (image : Image) : String :=
  Text.hexOctets (Blake3.digest image.octets)

/-- The error for an image that is refused. -/
def refusal (image : Image) (fault : ImageFault) : Error :=
  .image image.shownPath fault

/-- The archive. -/
def archive (image : Image) : Result Archive.Zip :=
  match Archive.Zip.read? image.octets with
  | some z => .ok z
  | none => .error (image.refusal (.unreadableArchive "the directory cannot be read"))

/-- The names of the entries. -/
def entryNames (image : Image) : Result (List String) := do
  return (← image.archive).names

/-- An entry with its packed contents, if it is there and can be opened. -/
def openEntry (image : Image) (name : String) : Result (Archive.Entry × List UInt8) := do
  let z ← image.archive
  match z.entry? name with
  | none => .error (image.refusal (.missingEntry name "there is no such entry"))
  | some e =>
    match z.packed? e with
    | none => .error (image.refusal (.missingEntry name "the entry cannot be read"))
    | some packed => .ok (e, packed)

/-- The number of octets from which on no room can be asked for, however much memory there is. -/
def roomLimit : Nat := 2 ^ 63

/-- Whether reading an entry panics. As soon as the entry is open, room is asked for at once for as
many octets as the directory declares, whatever is there in truth. Asking for more than any room can
hold is a panic. -/
def overflows (image : Image) (name : String) : Bool :=
  match image.openEntry name with
  | .ok (e, _) => roomLimit ≤ e.size
  | .error _ => false

/-- The contents of an entry, where there is room for as many as the directory declares. -/
def readEntry (image : Image) (name : String) : Result (List UInt8) := do
  let (e, packed) ← image.openEntry name
  match Archive.Zip.unpacked? e packed with
  | none => .error (.io "the contents of the entry are damaged")
  | some contents => .ok contents

/-- Reads the contents of an entry, or panics, and then there is no answer. -/
def attemptEntry (image : Image) (name : String) : Option (Result (List UInt8)) :=
  if image.overflows name then none else some (image.readEntry name)

/-- The metadata. -/
def metadata (image : Image) : Result Metadata := do
  let contents ← image.readEntry metadataEntry
  match (Json.readOctets? contents).bind Metadata.ofJson? with
  | some m => .ok m
  | none => .error (image.refusal (.malformedMetadata "the text is no metadata"))

/-- The image with given metadata and other entries. -/
def pack (m : Metadata) (entries : List (String × List UInt8)) : Result Image :=
  if entries.any fun e => e.1 == metadataEntry then
    .error (.invalid (.reservedEntry metadataEntry))
  else
    let contents := Text.Utf8.encode m.toJson.writeIndented
    .ok ⟨Archive.Zip.write ((metadataEntry, contents) :: entries), none⟩

end Image

end ModuleRuntime.Module
