import ModuleRuntime.Module.Inspector
import ModuleRuntime.Proofs.Failable

/-!
# Packed images are read back

The archive that is written for the metadata of a module has one entry. Reading it finds the end
record behind the directory, the line of the entry in the directory, and the contents behind the
header, which fit the checksum. So the entry is read back as it was written, and the metadata of a
packed image are what its text says.
-/

set_option autoImplicit false

namespace ModuleRuntime

namespace Archive

/-! ## Fields -/

/-- Of a number, as much is read back as there is room for. -/
theorem number_octetsOf (count n : Nat) : number (octetsOf count n) = n % 256 ^ count := by
  induction count generalizing n with
  | zero => simp [octetsOf, number, Nat.mod_one]
  | succ count ih =>
    have hlow : (UInt8.ofNat n).toNat = n % 256 := UInt8.toNat_ofNat'
    show 256 * number (octetsOf count (n / 256)) + (UInt8.ofNat n).toNat = _
    rw [ih, hlow, Nat.pow_succ, Nat.mul_comm (256 ^ count) 256, Nat.mod_mul]
    omega

/-- A piece that starts behind the first octets is one of the others. -/
theorem piece?_of_le {front octets : List UInt8} {position length : Nat}
    (h : front.length ≤ position) :
    piece? (front ++ octets) position length = piece? octets (position - front.length) length := by
  unfold piece?
  rw [List.drop_append, List.drop_of_length_le h, List.nil_append]

/-- The first octets are the piece of their length. -/
theorem piece?_front (front octets : List UInt8) :
    piece? (front ++ octets) 0 front.length = some front := by
  simp [piece?]

/-- Behind the first octets everything is read as if they were not there. -/
theorem piece?_append (front octets : List UInt8) (offset length : Nat) :
    piece? (front ++ octets) (front.length + offset) length = piece? octets offset length := by
  rw [piece?_of_le (Nat.le_add_right ..), Nat.add_sub_cancel_left]

/-- Behind the first octets all numbers are read as if they were not there. -/
theorem numberAt?_append (front octets : List UInt8) (offset length : Nat) :
    numberAt? (front ++ octets) (front.length + offset) length =
      numberAt? octets offset length := by
  unfold numberAt?
  rw [piece?_append]

/-- A field that ends before a number does not matter for it. -/
theorem numberAt?_of_le {count n : Nat} {octets : List UInt8} {position length : Nat}
    (h : count ≤ position) :
    numberAt? (octetsOf count n ++ octets) position length =
      numberAt? octets (position - count) length := by
  unfold numberAt?
  rw [piece?_of_le (by simpa using h), length_octetsOf]

/-- The number of the first field is the one that was written. -/
theorem numberAt?_front (count n : Nat) (octets : List UInt8) :
    numberAt? (octetsOf count n ++ octets) 0 count = some (n % 256 ^ count) := by
  have h := piece?_front (octetsOf count n) octets
  rw [length_octetsOf] at h
  unfold numberAt?
  rw [h, Option.map_some, number_octetsOf]

/-- A piece behind a field does not hang on it. -/
theorem piece?_field_of_le {count n : Nat} {octets : List UInt8} {position length : Nat}
    (h : count ≤ position) :
    piece? (octetsOf count n ++ octets) position length =
      piece? octets (position - count) length := by
  rw [piece?_of_le (by simpa using h), length_octetsOf]

namespace Zip

/-! ## Records -/

variable {name contents front post : List UInt8} {position : Nat}

/-- An entry that is stored under a name, as the directory tells of it. -/
def storedEntry (name contents : List UInt8) (position : Nat) : Entry where
  name := Text.CodePage437.decode name
  encrypted := false
  method := 0
  checksum := (crc32 contents).toNat
  size := contents.length
  packedSize := contents.length
  position := position
  sealed := false

/-- The fields of a line of the directory, each at its place. -/
theorem fields_directoryLine (post : List UInt8) (hname : name.length < 2 ^ 16)
    (hascii : name.all (· < 128) = true) (hcontents : contents.length < 2 ^ 32)
    (hposition : position < 2 ^ 32) :
    let line := directoryLine name contents position ++ post
    numberAt? line 0 4 = some 0x02014B50 ∧ numberAt? line 8 2 = some 0 ∧
      numberAt? line 10 2 = some 0 ∧ numberAt? line 16 4 = some (crc32 contents).toNat ∧
      numberAt? line 20 4 = some contents.length ∧ numberAt? line 24 4 = some contents.length ∧
      numberAt? line 28 2 = some name.length ∧ numberAt? line 30 2 = some 0 ∧
      numberAt? line 32 2 = some 0 ∧ numberAt? line 42 4 = some position ∧
      piece? line 46 name.length = some name := by
  have hcrc : (crc32 contents).toNat < 2 ^ 32 := UInt32.toNat_lt _
  simp only [directoryLine, commonFields, hascii, if_true, List.append_assoc]
  simp only [numberAt?_of_le, numberAt?_front, piece?_field_of_le, piece?_front, Nat.reduceLeDiff,
    Nat.reduceSub, Nat.reducePow, Nat.reduceMod, Nat.mod_eq_of_lt hname, Nat.mod_eq_of_lt hcontents,
    Nat.mod_eq_of_lt hposition, Nat.mod_eq_of_lt hcrc, and_self]

/-- The line of an entry is read back, wherever it stands in the directory. -/
theorem entryAt?_directoryLine (front post : List UInt8) (hname : name.length < 2 ^ 16)
    (hascii : name.all (· < 128) = true) (hcontents : contents.length < 2 ^ 32)
    (hposition : position < 2 ^ 32) :
    entryAt? (front ++ (directoryLine name contents position ++ post)) 0 front.length =
      some (storedEntry name contents position, front.length + (46 + name.length)) := by
  obtain ⟨hmark, hflags, hmethod, hcrc, hpacked, hsize, hlength, hextra, hcomment, hstart,
      hnamed⟩ :=
    fields_directoryLine post hname hascii hcontents hposition
  have hempty (octets : List UInt8) (place : Nat) : piece? octets place 0 = some [] := by
    simp [piece?]
  have hbound : ¬2 ^ 64 ≤ position := by omega
  unfold entryAt?
  simp only [Nat.add_assoc, numberAt?_append, piece?_append, hmark, hflags, hmethod, hcrc, hpacked,
    hsize, hlength, hextra, hcomment, hstart, hnamed, hempty, Option.bind_eq_bind, Option.bind_some]
  simp [extraFields?, storedEntry, hbound]

/-- The contents of a stored entry stand behind its header. -/
theorem packed?_localRecord (front contents post : List UInt8) (entries : List Entry)
    (hname : name.length < 2 ^ 16) (hascii : name.all (· < 128) = true) :
    (⟨front ++ (localRecord name contents ++ post), entries⟩ : Zip).packed?
      (storedEntry name contents front.length) = some contents := by
  have hmark : numberAt? (localRecord name contents ++ post) 0 4 = some 0x04034B50 := by
    simp [localRecord, numberAt?_front]
  have hlength : numberAt? (localRecord name contents ++ post) 26 2 = some name.length := by
    simp [localRecord, commonFields, hascii, numberAt?_of_le, numberAt?_front,
      Nat.mod_eq_of_lt hname]
  have hextra : numberAt? (localRecord name contents ++ post) 28 2 = some 0 := by
    simp [localRecord, commonFields, hascii, numberAt?_of_le, numberAt?_front]
  have hfields : (octetsOf 4 0x04034B50 ++ commonFields name contents).length = 30 := by
    simp [commonFields]
  have hbehind : (front ++ (localRecord name contents ++ post)).drop
      (front.length + (30 + (name.length + 0))) = contents ++ post := by
    rw [List.drop_length_add_append, Nat.add_zero, ← hfields, localRecord]
    simp only [List.append_assoc]
    rw [← List.append_assoc, List.drop_length_add_append, List.drop_left]
  unfold packed?
  simp only [storedEntry, Nat.add_assoc, numberAt?_append, hmark, hlength, hextra, hbehind,
    Option.bind_eq_bind, Option.bind_some, List.take_left]
  simp [Method.ofNumber]

/-- Contents that are stored as they are fit their checksum. -/
theorem unpacked?_storedEntry :
    unpacked? (storedEntry name contents position) contents = some contents := by
  unfold unpacked?
  simp [storedEntry, Method.ofNumber]

/-! ## The end of an archive -/

/-- The end record of an archive with one entry. -/
def endOfOne (directorySize directory : Nat) : List UInt8 :=
  endMark ++ octetsOf 2 0 ++ octetsOf 2 0 ++ octetsOf 2 1 ++ octetsOf 2 1 ++
    octetsOf 4 directorySize ++ octetsOf 4 directory ++ octetsOf 2 0

/-- An archive with one entry is its header with the contents, its line, and the end record. -/
theorem write_one (name : String) (contents : List UInt8) :
    write [(name, contents)] =
      localRecord (Text.Utf8.encode name) contents ++
        (directoryLine (Text.Utf8.encode name) contents 0 ++
          endOfOne (directoryLine (Text.Utf8.encode name) contents 0).length
            (localRecord (Text.Utf8.encode name) contents).length) := by
  have hmark : octetsOf 4 0x06054B50 = endMark := by decide
  unfold write endOfOne
  simp [recordsFrom, hmark]

/-- The mark at the end of some octets is the last one. -/
theorem lastMark?_append (found : Option Nat) (octets : List UInt8) :
    lastMark? endMark position found (octets ++ endMark) = some (position + octets.length) := by
  induction octets generalizing position found with
  | nil => simp [lastMark?, endMark]
  | cons octet rest ih =>
    rw [List.cons_append, lastMark?, ih, List.length_cons, Nat.add_right_comm, Nat.add_assoc]

/-- The end record behind an archive is found and read. -/
theorem endRecord?_append (octets : List UInt8) {size directory : Nat} (hsize : size < 2 ^ 32)
    (hdirectory : directory < 2 ^ 32) :
    endRecord? (octets ++ endOfOne size directory) =
      some ⟨octets.length, 0, 0, 1, 1, size, directory, 0⟩ := by
  have hmark : endMark = octetsOf 4 0x06054B50 := by decide
  have hlength : (endOfOne size directory).length = 22 := by
    simp [endOfOne, endMark]
  have htake : (octets ++ endOfOne size directory).take (octets.length + 4) =
      octets ++ endMark := by
    rw [List.take_length_add_append]
    rfl
  have hdrop : (octets ++ endMark).drop (octets.length - 0xFFFF) =
      octets.drop (octets.length - 0xFFFF) ++ endMark := by
    rw [List.drop_append_of_le_length (Nat.sub_le ..)]
  have hempty (octets : List UInt8) (place : Nat) : piece? octets place 0 = some [] := by
    simp [piece?]
  have hcomment : numberAt? (octetsOf 2 0) 0 2 = some 0 := by decide
  have hplace : octets.length - 0xFFFF + (octets.length - (octets.length - 0xFFFF)) =
      octets.length := by
    omega
  have hread : endRecordAt? (octets ++ endOfOne size directory) octets.length =
      some ⟨octets.length, 0, 0, 1, 1, size, directory, 0⟩ := by
    unfold endRecordAt?
    simp only [numberAt?_append, piece?_append]
    simp [endOfOne, hmark, numberAt?_of_le, numberAt?_front, hcomment, hempty,
      Nat.mod_eq_of_lt hsize, Nat.mod_eq_of_lt hdirectory]
  have hlast : (octets ++ endOfOne size directory).length - 22 = octets.length := by
    rw [List.length_append, hlength, Nat.add_sub_cancel]
  unfold endRecord?
  rw [if_neg (by rw [List.length_append, hlength]; omega)]
  simp only [hlast, htake, hdrop, lastMark?_append, List.length_drop, hplace, Option.bind_eq_bind,
    Option.bind_some, hread]

/-- The length of the line of an entry. -/
theorem length_directoryLine (name contents : List UInt8) (position : Nat) :
    (directoryLine name contents position).length = 46 + name.length := by
  simp only [directoryLine, commonFields, List.length_append, length_octetsOf]

/-- The length of an end record. -/
theorem length_endOfOne (size directory : Nat) : (endOfOne size directory).length = 22 := by
  simp [endOfOne, endMark]

/-- The directory of an archive starts behind the headers and the contents. There is no large end
record: where its locator would be, the line of a short name has fields that are zero. -/
theorem extent?_one (contents : List UInt8) (hname : name.length = 11) {record : List UInt8}
    (hrecord : record.length < 2 ^ 32 - 1) :
    extent? (record ++ (directoryLine name contents 0 ++
      endOfOne (directoryLine name contents 0).length record.length)) =
        some ⟨0, record.length, 1⟩ := by
  have hline : (directoryLine name contents 0).length = 57 := by
    rw [length_directoryLine, hname]
  have hend : endRecord? (record ++ (directoryLine name contents 0 ++
      endOfOne (directoryLine name contents 0).length record.length)) =
        some ⟨record.length + 57, 0, 0, 1, 1, 57, record.length, 0⟩ := by
    rw [← List.append_assoc, hline, endRecord?_append _ (by decide) (by omega), List.length_append,
      hline]
  have hzero (post : List UInt8) :
      numberAt? (directoryLine name contents 0 ++ post) 37 4 = some 0 := by
    have hbehind : numberAt? (directoryLine name contents 0 ++ post) 37 4 = numberAt?
        (octetsOf 2 0 ++ (octetsOf 4 0 ++ (octetsOf 4 0 ++ (name ++ post)))) 1 4 := by
      simp [directoryLine, commonFields, numberAt?_of_le]
    rw [hbehind]
    rfl
  have hlocator (r : EndRecord) (hr : r.commentLength = 0) : locator? (record ++
      (directoryLine name contents 0 ++
        endOfOne (directoryLine name contents 0).length record.length)) r = none := by
    have hplace : (record ++ (directoryLine name contents 0 ++
        endOfOne (directoryLine name contents 0).length record.length)).length - 42 =
          record.length + 37 := by
      rw [List.length_append, List.length_append, hline, length_endOfOne]
      omega
    unfold locator?
    simp only [hr, Nat.add_zero, hplace, numberAt?_append, hzero]
    simp
  unfold extent?
  simp only [hend, hlocator, Option.bind_eq_bind, Option.bind_some]
  simp [EndRecord.extent?, Nat.add_comm]

/-! ## The archive -/

/-- An archive with one entry of a short name is read back. -/
theorem read?_write_one {name : String} {contents : List UInt8}
    (hname : (Text.Utf8.encode name).length = 11)
    (hascii : (Text.Utf8.encode name).all (· < 128) = true)
    (hcontents : contents.length < 2 ^ 32 - 42) :
    read? (write [(name, contents)]) =
      some ⟨write [(name, contents)], [storedEntry (Text.Utf8.encode name) contents 0]⟩ := by
  have hrecord : (localRecord (Text.Utf8.encode name) contents).length = 41 + contents.length := by
    simp only [localRecord, commonFields, List.length_append, length_octetsOf, hname]
  have hshort : (localRecord (Text.Utf8.encode name) contents).length < 2 ^ 32 - 1 := by omega
  have hextent := extent?_one contents hname hshort
  have hfits : contents.length < 2 ^ 32 := by omega
  have hentry := entryAt?_directoryLine (localRecord (Text.Utf8.encode name) contents)
    (endOfOne (directoryLine (Text.Utf8.encode name) contents 0).length
      (localRecord (Text.Utf8.encode name) contents).length)
    (by omega) hascii hfits (by decide : 0 < 2 ^ 32)
  unfold read?
  rw [write_one]
  simp only [hextent, entriesFrom?, hentry, Option.bind_eq_bind, Option.bind_some]

end Zip

end Archive

namespace Module.Image

open Archive (Zip)
open Archive.Zip (storedEntry)

variable {image : Image} {name : String} {z : Zip} {e : Archive.Entry} {packed : List UInt8}
  {m : Metadata}

/-- An archive is there if its directory can be read. -/
theorem archive_eq_ok_iff : image.archive = .ok z ↔ Archive.Zip.read? image.octets = some z := by
  unfold archive
  cases Archive.Zip.read? image.octets <;> simp

/-- An entry is opened if the directory has it and its header is where the directory says. -/
theorem openEntry_eq_ok_iff : image.openEntry name = .ok (e, packed) ↔
    ∃ z, Archive.Zip.read? image.octets = some z ∧ z.entry? name = some e ∧
      z.packed? e = some packed := by
  unfold openEntry
  simp only [bind_eq_ok_iff, archive_eq_ok_iff]
  refine exists_congr fun z => and_congr_right fun _ => ⟨fun h => ?_, ?_⟩
  · split at h
    · cases h
    · next e' hentry =>
      split at h
      · cases h
      · next packed' hpacked =>
        cases h
        exact ⟨hentry, hpacked⟩
  · rintro ⟨hentry, hpacked⟩
    simp only [hentry, hpacked]

/-- The image of a module of which nothing is known but its metadata. -/
def ofMetadata (m : Metadata) : Image :=
  match Image.pack m [] with
  | .ok image => image
  | .error _ => ⟨[], none⟩

/-- The text of the metadata as it is packed. -/
def packedText (m : Metadata) : List UInt8 :=
  Text.Utf8.encode m.toJson.writeIndented

/-- The archive of a packed image has one entry. -/
theorem ofMetadata_eq (m : Metadata) :
    ofMetadata m = ⟨Zip.write [(metadataEntry, packedText m)], none⟩ := rfl

/-- The entry with the metadata is opened as it was packed. -/
theorem openEntry_ofMetadata (hfits : (packedText m).length < 2 ^ 32 - 42) :
    (ofMetadata m).openEntry metadataEntry =
      .ok (storedEntry (Text.Utf8.encode metadataEntry) (packedText m) 0, packedText m) := by
  have hname : (Text.Utf8.encode metadataEntry).length = 11 := by decide
  have hascii : (Text.Utf8.encode metadataEntry).all (· < 128) = true := by decide
  have hdecoded : Text.CodePage437.decode (Text.Utf8.encode metadataEntry) = metadataEntry := by
    decide
  have hshort : (Text.Utf8.encode metadataEntry).length < 2 ^ 16 := by omega
  have hpacked := Zip.packed?_localRecord [] (packedText m)
    (Zip.directoryLine (Text.Utf8.encode metadataEntry) (packedText m) 0 ++
      Zip.endOfOne (Zip.directoryLine (Text.Utf8.encode metadataEntry) (packedText m) 0).length
        (Zip.localRecord (Text.Utf8.encode metadataEntry) (packedText m)).length)
    [storedEntry (Text.Utf8.encode metadataEntry) (packedText m) 0] hshort hascii
  rw [List.nil_append, ← Zip.write_one] at hpacked
  rw [ofMetadata_eq, openEntry_eq_ok_iff]
  refine ⟨_, Zip.read?_write_one hname hascii hfits, ?_, hpacked⟩
  simp [Zip.entry?, storedEntry, hdecoded]

/-- The entry with the metadata is read back as it was packed. -/
theorem readEntry_ofMetadata (hfits : (packedText m).length < 2 ^ 32 - 42) :
    (ofMetadata m).readEntry metadataEntry = .ok (packedText m) := by
  unfold readEntry
  rw [openEntry_ofMetadata hfits]
  simp only [bind, Except.bind, Zip.unpacked?_storedEntry]

/-- Whether the text of metadata is short enough to be packed, and says what they are. -/
def IsLegible (m : Metadata) : Prop :=
  (packedText m).length < 2 ^ 32 - 42 ∧
    (Json.readOctets? (packedText m)).bind Metadata.ofJson? = some m

instance (m : Metadata) : Decidable (IsLegible m) :=
  inferInstanceAs (Decidable (_ ∧ _))

/-- The metadata of a packed image are those that it was packed from. -/
theorem metadata_ofMetadata (hm : IsLegible m) : (ofMetadata m).metadata = .ok m := by
  unfold metadata
  rw [readEntry_ofMetadata hm.1]
  simp only [bind, Except.bind, hm.2]

end Module.Image

namespace Module.Inspector

/-- What an inspection answers. -/
def verdict (i : Inspector) (image : Image) : Result Descriptor :=
  (i.describe image).map Prod.fst

/-- A packed image is judged by the metadata that it was packed from. -/
theorem verdict_ofMetadata {m : Metadata} (hm : Image.IsLegible m) (i : Inspector) :
    i.verdict (.ofMetadata m) = (i.resolve (.ofMetadata m) m).map Prod.fst := by
  unfold verdict describe
  rw [Image.metadata_ofMetadata hm]
  rfl

end Module.Inspector

end ModuleRuntime
