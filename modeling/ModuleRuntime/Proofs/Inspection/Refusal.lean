import Mathlib.Control.Monad.Basic
import ModuleRuntime.Module.Inspector
import ModuleRuntime.Proofs.Inspection.Packing
import ModuleRuntime.Proofs.Reload.Clock

/-!
# Refused images

An image that is inspected is described or refused, and every refusal shows the path of the image.
There is one exception. An entry can be listed in the directory of an archive and have its header,
while its contents do not unpack or do not fit the checksum. If that is so for the entry with the
metadata, the inspection fails with the error of reading it, which does not tell the path.
-/

set_option autoImplicit false

namespace ModuleRuntime.Module

variable {α β : Type} {P : Error → Prop}

/-! ## Kinds of failure -/

/-- If a result is a failure, its error is of a kind. -/
def FailsWith (P : Error → Prop) (r : Result α) : Prop :=
  ∀ e, r = .error e → P e

namespace FailsWith

/-- A success is no failure of any kind. -/
theorem ok (a : α) : FailsWith P (.ok a) :=
  fun _ h => nomatch h

/-- A failure of the kind in question. -/
theorem error {e : Error} (h : P e) : FailsWith P (.error e : Result α) := by
  rintro _ ⟨⟩
  exact h

/-- What is done in sequence fails in one of two ways. -/
theorem bind {r : Result α} {f : α → Result β} (hr : FailsWith P r)
    (hf : ∀ a, r = .ok a → FailsWith P (f a)) : FailsWith P (r >>= f) := by
  cases r with
  | ok a => exact hf a rfl
  | error e => exact error (hr e rfl)

/-- A failure that is put into other words. -/
theorem mapError {ε : Type} {g : ε → Error} (h : ∀ e, P (g e)) (r : Except ε α) :
    FailsWith P (r.mapError g) := by
  cases r with
  | ok a => exact ok a
  | error e => exact error (h e)

end FailsWith

namespace Image

variable {image : Image} {name : String} {z : Archive.Zip} {e : Archive.Entry}
  {packed : List UInt8}

/-! ## Entries that cannot be read -/

/-- Whether an entry is there and has its header, but not the contents that the
directory promises. -/
def IsDamaged (image : Image) (name : String) : Prop :=
  ∃ z e packed, Archive.Zip.read? image.octets = some z ∧ z.entry? name = some e ∧
    z.packed? e = some packed ∧ Archive.Zip.unpacked? e packed = none

/-- Whether an entry is there and has its header, and the directory declares so many octets that no
room for them can be asked for. -/
def IsOversized (image : Image) (name : String) : Prop :=
  ∃ z e packed, Archive.Zip.read? image.octets = some z ∧ z.entry? name = some e ∧
    z.packed? e = some packed ∧ 2 ^ 63 ≤ e.size

/-- The error of reading a damaged entry. -/
def damage : Error :=
  .io "the contents of the entry are damaged"

/-- The errors of an inspection: refusals that show the path, and the damage of the metadata. -/
def IsFault (image : Image) (e : Error) : Prop :=
  (∃ fault, e = .image image.shownPath fault) ∨ e = damage ∧ image.IsDamaged metadataEntry

/-- A refusal of the image is one of its faults. -/
theorem isFault_refusal (image : Image) (fault : ImageFault) :
    image.IsFault (image.refusal fault) :=
  .inl ⟨fault, rfl⟩

/-- Reading an entry panics exactly if it is oversized. -/
theorem overflows_iff (image : Image) (name : String) :
    image.overflows name = true ↔ image.IsOversized name := by
  unfold overflows
  constructor
  · cases hopened : image.openEntry name with
    | error e => exact nofun
    | ok opened =>
      obtain ⟨e, packed⟩ := opened
      obtain ⟨z, hz, he, hpacked⟩ := openEntry_eq_ok_iff.mp hopened
      exact fun h => ⟨z, e, packed, hz, he, hpacked, of_decide_eq_true h⟩
  · rintro ⟨z, e, packed, hz, he, hpacked, hsize⟩
    rw [openEntry_eq_ok_iff.mpr ⟨z, hz, he, hpacked⟩]
    exact decide_eq_true hsize

/-- Damaged contents are not read. -/
theorem readEntry_of_isDamaged (h : image.IsDamaged name) :
    image.readEntry name = .error damage := by
  obtain ⟨z, e, packed, hz, he, hpacked, hunpacked⟩ := h
  unfold readEntry
  rw [openEntry_eq_ok_iff.mpr ⟨z, hz, he, hpacked⟩]
  simp only [bind, Except.bind, hunpacked]
  rfl

/-- An archive that cannot be read is a fault of the image. -/
theorem failsWith_archive (image : Image) : FailsWith image.IsFault image.archive := by
  unfold archive
  split
  · exact .ok _
  · exact .error (image.isFault_refusal _)

/-- An entry that cannot be opened is refused. -/
theorem failsWith_openEntry (image : Image) (name : String) :
    FailsWith image.IsFault (image.openEntry name) := by
  refine image.failsWith_archive.bind fun z _ => ?_
  split
  · exact .error (image.isFault_refusal _)
  · split
    · exact .error (image.isFault_refusal _)
    · exact .ok _

/-- Reading the entry with the metadata fails by a refusal or because the entry is damaged. -/
theorem failsWith_readEntry (image : Image) :
    FailsWith image.IsFault (image.readEntry metadataEntry) := by
  refine (image.failsWith_openEntry metadataEntry).bind ?_
  rintro ⟨e, packed⟩ hopened
  dsimp only
  split
  · next hunpacked =>
    -- The only way out that is not turned into a refusal.
    obtain ⟨z, hz, he, hpacked⟩ := openEntry_eq_ok_iff.mp hopened
    exact .error (.inr ⟨rfl, z, e, packed, hz, he, hpacked, hunpacked⟩)
  · exact .ok _

/-- Metadata that cannot be read are a fault of the image. -/
theorem failsWith_metadata (image : Image) : FailsWith image.IsFault image.metadata := by
  refine image.failsWith_readEntry.bind fun contents _ => ?_
  split
  · exact .ok _
  · exact .error (image.isFault_refusal _)

/-- Where the contents of the entry are damaged, there are no metadata. -/
theorem metadata_of_isDamaged (h : image.IsDamaged metadataEntry) :
    image.metadata = .error damage := by
  unfold metadata
  rw [readEntry_of_isDamaged h]
  rfl

end Image

namespace Inspector

open Image (damage)

variable {image : Image}

/-- What follows the metadata can be refused only. -/
theorem failsWith_describe (i : Inspector) (image : Image) :
    FailsWith image.IsFault (i.describe image) := by
  refine image.failsWith_metadata.bind fun m _ => ?_
  refine (FailsWith.mapError image.isFault_refusal (i.identify m)).bind fun identity _ => ?_
  exact .ok _

/-- Where the contents of the entry are damaged, the module is not described. -/
theorem describe_of_isDamaged (i : Inspector) (h : image.IsDamaged Image.metadataEntry) :
    i.describe image = .error damage := by
  unfold describe
  rw [Image.metadata_of_isDamaged h]
  rfl

/-- An inspection answers with the description, and closes the session that it opened. -/
theorem value_inspect_eq (i : Inspector) (g : Gauge) (image : Image) :
    (i.inspect g image).value = ((i.describe image).map Prod.fst, g.acquire.release.value) := by
  unfold inspect
  cases i.describe image <;> rfl

/-- An inspection fails iff the module cannot be described. -/
theorem inspect_eq_error_iff (i : Inspector) (g : Gauge) (image : Image) (e : Error) :
    (i.inspect g image).value.1 = .error e ↔ i.describe image = .error e := by
  rw [value_inspect_eq]
  cases i.describe image <;> simp [Except.map]

/-- The session of an inspection counts as open no longer than the inspection takes. -/
theorem openCount_release_acquire (g : Gauge) :
    g.acquire.release.value.openCount = g.openCount := by
  rw [Clock.value_release]
  split
  case isTrue hlast => exact (Nat.succ.inj hlast.2).symm
  case isFalse => rfl

/-- An attempt answers what the inspection does, unless reading the metadata panics. -/
theorem value_attempt_eq (i : Inspector) (g : Gauge) (image : Image) :
    (i.attempt g image).value =
      (if image.overflows Image.metadataEntry then none else some (i.inspect g image).value.1,
        g.acquire.release.value) := by
  have hgauge : (i.inspect g image).value.2 = g.acquire.release.value := by
    rw [value_inspect_eq]
  unfold attempt
  split
  case isTrue => rfl
  case isFalse =>
    rw [← hgauge]
    rfl

/-- Whatever its octets are, an image is described or refused by an error that shows its path, and
there are two exceptions. If the directory declares more octets for the metadata than there can be
room for, the inspection panics. If not, but their contents are damaged, the error is that of
reading them. In each case as many inspections are open afterwards as before. -/
theorem describes_or_refuses (i : Inspector) (g : Gauge) (image : Image) :
    ((∃ d, (i.attempt g image).value.1 = some (.ok d)) ∨
        (∃ fault, (i.attempt g image).value.1 = some (.error (.image image.shownPath fault))) ∨
        (i.attempt g image).value.1 = some (.error damage) ∨
        (i.attempt g image).value.1 = none) ∧
      ((i.attempt g image).value.1 = some (.error damage) ↔
        image.IsDamaged Image.metadataEntry ∧ ¬image.IsOversized Image.metadataEntry) ∧
      ((i.attempt g image).value.1 = none ↔ image.IsOversized Image.metadataEntry) ∧
      (i.attempt g image).value.2.openCount = g.openCount := by
  have hopen : g.acquire.release.value.openCount = g.openCount := openCount_release_acquire g
  rw [value_attempt_eq, ← Image.overflows_iff]
  cases image.overflows Image.metadataEntry with
  | true =>
    refine ⟨.inr (.inr (.inr rfl)), ?_, by simp, hopen⟩
    simp
  | false =>
    have hfails (e : Error) (h : (i.inspect g image).value.1 = .error e) : image.IsFault e :=
      i.failsWith_describe image e ((i.inspect_eq_error_iff g image e).mp h)
    have hdamage : (i.inspect g image).value.1 = .error damage ↔
        image.IsDamaged Image.metadataEntry := by
      constructor
      · intro h
        rcases hfails damage h with ⟨fault, hfault⟩ | ⟨-, hdamaged⟩
        · cases hfault
        · exact hdamaged
      · intro h
        exact (i.inspect_eq_error_iff g image damage).mpr (i.describe_of_isDamaged h)
    refine ⟨?_, by simp [hdamage], by simp, hopen⟩
    cases hr : (i.inspect g image).value.1 with
    | ok d => exact .inl ⟨d, rfl⟩
    | error e =>
      rcases hfails e hr with ⟨fault, rfl⟩ | ⟨rfl, -⟩
      · exact .inr (.inl ⟨fault, rfl⟩)
      · exact .inr (.inr (.inl rfl))

/-- The image of an archive whose only entry is the one with the metadata. It is stored, and the
first of its two octets was overwritten. -/
def overwritten : Image :=
  ⟨(Archive.Zip.write [(Image.metadataEntry, [0x7B, 0x7D])]).set 41 0, none⟩

/-- The image of an archive whose only entry is the one with the metadata. It has two octets, but
the directory declares `2 ^ 64 - 1` of them in a field for large entries. -/
def oversized : Image :=
  let name := Text.Utf8.encode Image.metadataEntry
  let header := Archive.Zip.localRecord name [0x7B, 0x7D]
  let line := Archive.Zip.directoryLine name [0x7B, 0x7D] 0
  let largeField := Archive.octetsOf 2 1 ++ Archive.octetsOf 2 8 ++ Archive.octetsOf 8 (2 ^ 64 - 1)
  let large := line.take 24 ++ Archive.octetsOf 4 Archive.Zip.deferred ++
    Archive.octetsOf 2 name.length ++ Archive.octetsOf 2 largeField.length ++ line.drop 32 ++
    largeField
  ⟨header ++ large ++ Archive.Zip.endMark ++ Archive.octetsOf 4 0 ++ Archive.octetsOf 2 1 ++
    Archive.octetsOf 2 1 ++ Archive.octetsOf 4 large.length ++ Archive.octetsOf 4 header.length ++
    Archive.octetsOf 2 0, none⟩

/-- The metadata of the overwritten image do not fit their checksum any more, and there is no room
for those of the oversized one. -/
theorem describes_or_refuses_overwritten :
    (overwritten.IsDamaged Image.metadataEntry ∧ ¬overwritten.IsOversized Image.metadataEntry ∧
        (default.attempt .idle overwritten).value.1 = some (.error damage)) ∧
      oversized.IsOversized Image.metadataEntry ∧
      (default.attempt .idle oversized).value.1 = none := by
  have hread : overwritten.readEntry Image.metadataEntry = .error damage := by
    decide +kernel
  have hdamaged : overwritten.IsDamaged Image.metadataEntry := by
    rcases overwritten.failsWith_readEntry damage hread with ⟨fault, hfault⟩ | ⟨-, hdamaged⟩
    · cases hfault
    · exact hdamaged
  have hfits : ¬overwritten.IsOversized Image.metadataEntry := by
    rw [← Image.overflows_iff]
    decide +kernel
  have hoversized : oversized.IsOversized Image.metadataEntry := by
    rw [← Image.overflows_iff]
    decide +kernel
  obtain ⟨-, hdamage, -⟩ := default.describes_or_refuses .idle overwritten
  obtain ⟨-, -, hpanic, -⟩ := default.describes_or_refuses .idle oversized
  exact ⟨⟨hdamaged, hfits, hdamage.mpr ⟨hdamaged, hfits⟩⟩, hoversized, hpanic.mpr hoversized⟩

end Inspector

end ModuleRuntime.Module
