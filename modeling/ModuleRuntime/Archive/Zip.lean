import ModuleRuntime.Archive.Bzip2.Stream
import ModuleRuntime.Archive.Crc32
import ModuleRuntime.Archive.Inflate
import ModuleRuntime.Archive.Octets
import ModuleRuntime.Archive.Zstandard.Frame
import ModuleRuntime.Text.CodePage437
import ModuleRuntime.Text.Utf8

/-!
# ZIP archives

An archive is read from its end: the end record tells where the directory is, and the directory
tells the name, the place and the checksum of every entry. Other data may stand before the archive;
then all places are shifted. Sizes and places that do not fit in 32 bits stand in extra fields. The
contents of an entry are stored as they are or compressed by one of three methods.
-/

set_option autoImplicit false

namespace ModuleRuntime.Archive

/-- How the contents of an entry are written. -/
inductive Method where
  | stored
  | deflated
  | bzip2
  | zstandard
  | sealed
  | unsupported
  deriving DecidableEq

/-- The method of a number. -/
def Method.ofNumber (n : Nat) : Method :=
  if n = 0 then stored
  else if n = 8 then deflated
  else if n = 12 then bzip2
  else if n = 93 then zstandard
  else if n = 99 then sealed
  else unsupported

/-- An entry of the directory. -/
structure Entry where
  name : String
  encrypted : Bool
  method : Nat
  checksum : Nat
  size : Nat
  packedSize : Nat
  position : Nat
  sealed : Bool

/-- An archive: its octets and its directory. -/
structure Zip where
  octets : List UInt8
  entries : List Entry

namespace Zip

/-- What stands for a number of 32 bits that is given elsewhere. -/
def deferred : Nat := 0xFFFFFFFF

/-! ## The end record -/

/-- The end record: its place, and what it says of the directory. -/
structure EndRecord where
  position : Nat
  disk : Nat
  directoryDisk : Nat
  entriesHere : Nat
  entries : Nat
  directorySize : Nat
  directory : Nat
  commentLength : Nat

/-- The end record at a place. -/
def endRecordAt? (octets : List UInt8) (position : Nat) : Option EndRecord := do
  let n (offset length : Nat) := numberAt? octets (position + offset) length
  let commentLength ← n 20 2
  let _ ← piece? octets (position + 22) commentLength
  some ⟨position, ← n 4 2, ← n 6 2, ← n 8 2, ← n 10 2, ← n 12 4, ← n 16 4, commentLength⟩

/-- The mark of an end record. -/
def endMark : List UInt8 := [0x50, 0x4B, 0x05, 0x06]

/-- The mark of a large end record. -/
def largeMark : List UInt8 := [0x50, 0x4B, 0x06, 0x06]

/-- The last place of a mark in a sequence of octets that starts at `position`. -/
def lastMark? (mark : List UInt8) : Nat → Option Nat → List UInt8 → Option Nat
  | _, found, [] => found
  | position, found, octet :: rest =>
    let found := if mark.isPrefixOf (octet :: rest) then some position else found
    lastMark? mark (position + 1) found rest

/-- The first place of a mark in a sequence of octets that starts at `position`. -/
def firstMark? (mark : List UInt8) : Nat → List UInt8 → Option Nat
  | _, [] => none
  | position, octet :: rest =>
    if mark.isPrefixOf (octet :: rest) then some position else firstMark? mark (position + 1) rest

/-- The end record of an archive. Only a comment may follow it, of at most 65535 octets. -/
def endRecord? (octets : List UInt8) : Option EndRecord :=
  if octets.length < 22 then none
  else
    let last := octets.length - 22
    let first := last - 0xFFFF
    do endRecordAt? octets (← lastMark? endMark first none ((octets.take (last + 4)).drop first))

/-- Whether a number of the end record is given elsewhere. -/
def EndRecord.isDeferred (r : EndRecord) : Bool :=
  r.disk == 0xFFFF || r.directoryDisk == 0xFFFF || r.entriesHere == 0xFFFF || r.entries == 0xFFFF
    || r.directorySize == deferred || r.directory == deferred

/-- Where the directory is: by how much places are shifted, where it starts, and how many entries it
has. -/
structure Extent where
  shift : Nat
  start : Nat
  count : Nat

/-- The extent that the end record gives. What stands between the directory and the record tells the
shift. -/
def EndRecord.extent? (r : EndRecord) : Option Extent :=
  if r.directorySize + r.directory ≤ r.position then
    let shift := r.position - r.directorySize - r.directory
    some ⟨shift, r.directory + shift, r.entriesHere⟩
  else none

/-- The extent that the large end record at a place gives, when the record should be
at `nominal`. -/
def largeExtentAt? (octets : List UInt8) (nominal position : Nat) : Option Extent := do
  let n (offset length : Nat) := numberAt? octets (position + offset) length
  let disk ← n 16 4
  let directoryDisk ← n 20 4
  let count ← n 32 8
  let start ← n 48 8
  let shift := position - nominal
  if disk = directoryDisk ∧ start + shift < 2 ^ 64 then some ⟨shift, start + shift, count⟩ else none

/-- The place of the locator of a large end record, right before the end record. -/
def locator? (octets : List UInt8) (r : EndRecord) : Option Nat :=
  let behind := 42 + r.commentLength
  if octets.length < behind then none
  else
    let position := octets.length - behind
    if numberAt? octets position 4 == some 0x07064B50 then some position else none

/-- Where the directory of an archive is. -/
def extent? (octets : List UInt8) : Option Extent := do
  let r ← endRecord? octets
  if !r.isDeferred && r.disk ≠ r.directoryDisk then none
  else
    match locator? octets r with
    | none => r.extent?
    | some locator => do
      let disk ← numberAt? octets (locator + 4) 4
      let nominal ← numberAt? octets (locator + 8) 8
      if (!r.isDeferred && r.disk ≠ disk) || r.position < 60 || r.position - 60 < nominal then none
      else
        let searched := (octets.take (r.position - 60 + 4)).drop nominal
        let position ← firstMark? largeMark nominal searched
        largeExtentAt? octets nominal position

/-! ## The directory -/

/-- The entry after the field of large entries, how much of the field was read, and whether nothing
was missing. The sizes and the place are taken from the field as far as they are deferred. -/
def largeField (e : Entry) (field : List UInt8) : Entry × Nat × Bool :=
  let step (state : Entry × Nat × Bool) (deferredHere : Bool) (set : Entry → Nat → Entry) :
      Entry × Nat × Bool :=
    let (e, read, complete) := state
    if complete && deferredHere then
      match numberAt? field read 8 with
      | some n => (set e n, read + 8, true)
      | none => (e, read, false)
    else (e, read, complete)
  let s := step (e, 0, true) (e.size == deferred) fun e n => { e with size := n }
  let s := step s (e.packedSize == deferred) fun e n => { e with packedSize := n }
  step s (e.position == deferred) fun e n => { e with position := n }

/-- The entry after the field of sealed entries, or nothing when the field is not as it has
to be. -/
def sealedField? (e : Entry) (field : List UInt8) (length : Nat) : Option (Option Entry) :=
  if length ≠ 7 then none
  else
    match numberAt? field 0 2, numberAt? field 2 2, numberAt? field 4 1, numberAt? field 5 2 with
    | some version, some vendor, some strength, some method =>
      if vendor = 0x4541 ∧ (version = 1 ∨ version = 2) ∧ 1 ≤ strength ∧ strength ≤ 3 then
        some (some { e with method := method, sealed := true })
      else none
    | _, _, _, _ => some none

/-- The entry after its extra fields. Fields that end early are left out; the outer failure is a
directory that cannot be read. -/
def extraFields? : Nat → Entry → List UInt8 → Option Entry
  | 0, e, _ => some e
  | fuel + 1, e, fields =>
    match numberAt? fields 0 2, numberAt? fields 2 2 with
    | some kind, some length =>
      let field := fields.drop 4
      if kind = 0x0001 then
        let (e, read, complete) := largeField e field
        if complete then extraFields? fuel e (field.drop (max read length)) else some e
      else if kind = 0x9901 then
        match sealedField? e field length with
        | none => none
        | some none => some e
        | some (some e) => extraFields? fuel e (field.drop 14)
      else extraFields? fuel e (field.drop length)
    | _, _ => some e

/-- The entry at a place of the directory, and the place after it. -/
def entryAt? (octets : List UInt8) (shift position : Nat) : Option (Entry × Nat) := do
  let n (offset length : Nat) := numberAt? octets (position + offset) length
  if (← n 0 4) ≠ 0x02014B50 then none
  else
    let flags ← n 8 2
    let nameLength ← n 28 2
    let extraLength ← n 30 2
    let commentLength ← n 32 2
    let start ← n 42 4
    let name ← piece? octets (position + 46) nameLength
    let extra ← piece? octets (position + 46 + nameLength) extraLength
    let _ ← piece? octets (position + 46 + nameLength + extraLength) commentLength
    let e : Entry := {
      name := if flags.testBit 11 then Text.Utf8.decodeLossy name else Text.CodePage437.decode name
      encrypted := flags.testBit 0
      method := ← n 10 2
      checksum := ← n 16 4
      size := ← n 24 4
      packedSize := ← n 20 4
      position := start
      sealed := false }
    let e ← extraFields? extra.length e extra
    if (e.method = 99 ∧ e.sealed = false) ∨ 2 ^ 64 ≤ e.position + shift then none
    else
      some ({ e with position := e.position + shift },
        position + 46 + nameLength + extraLength + commentLength)

/-- A number of entries from a place on. -/
def entriesFrom? (octets : List UInt8) (shift : Nat) : Nat → Nat → Option (List Entry)
  | 0, _ => some []
  | count + 1, position => do
    let (e, next) ← entryAt? octets shift position
    let rest ← entriesFrom? octets shift count next
    some (e :: rest)

/-- The archive of a sequence of octets. -/
def read? (octets : List UInt8) : Option Zip := do
  let extent ← extent? octets
  let entries ← entriesFrom? octets extent.shift extent.count extent.start
  some ⟨octets, entries⟩

/-- The names of the entries, each once. -/
def names (z : Zip) : List String :=
  (z.entries.map Entry.name).eraseDups

/-- The entry of a name; of several the last one in the directory. -/
def entry? (z : Zip) (name : String) : Option Entry :=
  z.entries.reverse.find? fun e => e.name == name

/-! ## Contents -/

/-- The packed contents of an entry, as far as they are there, if it has its header and can be read
without a password. -/
def packed? (z : Zip) (e : Entry) : Option (List UInt8) := do
  let n (offset length : Nat) := numberAt? z.octets (e.position + offset) length
  if e.encrypted || e.sealed || Method.ofNumber e.method == .unsupported then none
  else if (← n 0 4) ≠ 0x04034B50 then none
  else
    let nameLength ← n 26 2
    let extraLength ← n 28 2
    some ((z.octets.drop (e.position + 30 + nameLength + extraLength)).take e.packedSize)

/-- The contents that packed ones stand for. -/
def unpacked? (e : Entry) (packed : List UInt8) : Option (List UInt8) := do
  let contents ←
    match Method.ofNumber e.method with
    | .stored => some packed
    | .deflated => inflate? packed
    | .bzip2 => Bzip2.unpack? packed
    | .zstandard => Zstandard.unpack? packed
    | .sealed | .unsupported => none
  if (crc32 contents).toNat = e.checksum then some contents else none

/-! ## Writing -/

/-- The fields that the header of an entry and its line in the directory have in common. Entries are
stored, and names beyond ASCII are marked. -/
def commonFields (name contents : List UInt8) : List UInt8 :=
  let flags := if name.all (· < 128) then 0 else 0x800
  octetsOf 2 20 ++ octetsOf 2 flags ++ octetsOf 2 0 ++ octetsOf 2 0 ++ octetsOf 2 0x21
    ++ octetsOf 4 (crc32 contents).toNat ++ octetsOf 4 contents.length
    ++ octetsOf 4 contents.length ++ octetsOf 2 name.length ++ octetsOf 2 0

/-- The header, the name and the contents of an entry. -/
def localRecord (name contents : List UInt8) : List UInt8 :=
  octetsOf 4 0x04034B50 ++ commonFields name contents ++ name ++ contents

/-- The line of the directory for an entry at a place. -/
def directoryLine (name contents : List UInt8) (position : Nat) : List UInt8 :=
  octetsOf 4 0x02014B50 ++ octetsOf 2 20 ++ commonFields name contents ++ octetsOf 2 0
    ++ octetsOf 2 0 ++ octetsOf 2 0 ++ octetsOf 4 0 ++ octetsOf 4 position ++ name

/-- The records of the entries and the directory, from a place on. -/
def recordsFrom (position : Nat) : List (String × List UInt8) → List UInt8 × List UInt8
  | [] => ([], [])
  | (name, contents) :: rest =>
    let record := localRecord (Text.Utf8.encode name) contents
    let (records, directory) := recordsFrom (position + record.length) rest
    (record ++ records, directoryLine (Text.Utf8.encode name) contents position ++ directory)

/-- An archive of stored entries. -/
def write (entries : List (String × List UInt8)) : List UInt8 :=
  let (records, directory) := recordsFrom 0 entries
  records ++ directory ++ octetsOf 4 0x06054B50 ++ octetsOf 2 0 ++ octetsOf 2 0
    ++ octetsOf 2 entries.length ++ octetsOf 2 entries.length ++ octetsOf 4 directory.length
    ++ octetsOf 4 records.length ++ octetsOf 2 0

end Zip

end ModuleRuntime.Archive
