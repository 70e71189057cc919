import ModuleRuntime.Error
import ModuleRuntime.Text.Blank
import ModuleRuntime.Text.Split

/-!
# Module versions

A version is written `major.minor.patch` or `major.minor.patch-pre`. The three numbers have 32 bits
and may carry a plus sign; the tag after the first hyphen is any text that is not empty.
-/

set_option autoImplicit false

namespace ModuleRuntime.Module

/-- The version of a module. -/
structure Version where
  major : UInt32
  minor : UInt32
  patch : UInt32
  preRelease : Option String
  deriving DecidableEq

namespace Version

/-- A version without a tag. -/
def release (major minor patch : UInt32) : Version :=
  ⟨major, minor, patch, none⟩

/-- The number of decimal digits, of which there is at least one. -/
def natOfDigits? (digits : List Char) : Option Nat :=
  if digits.isEmpty || !digits.all Char.isDigit then none
  else some (digits.foldl (fun n c => 10 * n + (c.toNat - 48)) 0)

/-- The digits of a numeral after its plus sign, if it has one. -/
def unsigned : List Char → List Char
  | '+' :: digits => digits
  | digits => digits

/-- The number of 32 bits that a text writes. -/
def number? (text : List Char) : Option UInt32 := do
  let n ← natOfDigits? (unsigned text)
  if n < 2 ^ 32 then some (UInt32.ofNat n) else none

/-- The number, or the error for a text that is none. -/
def number (cause : Invalid) (text : List Char) : Except Invalid UInt32 :=
  match number? text with
  | some n => .ok n
  | none => .error cause

/-- The patch number and the tag, which starts after the first hyphen. -/
def splitTag (text : List Char) : Except Invalid (List Char × Option String) :=
  match Text.splitFirst ['-'] text with
  | none => .ok (text, none)
  | some (_, []) => .error .emptyPreRelease
  | some (patch, tag) => .ok (patch, some (String.ofList tag))

/-- The three parts of a version, the blanks around it and the first two dots left out. -/
def splitParts? (text : List Char) : Option (List Char × List Char × List Char) := do
  let (major, rest) ← Text.splitFirst ['.'] (Text.trimChars text)
  let (minor, rest) ← Text.splitFirst ['.'] rest
  some (major, minor, rest)

/-- The version that a text writes. -/
def parse (text : String) : Except Invalid Version :=
  match splitParts? text.toList with
  | none => .error (.versionForm text)
  | some (major, minor, rest) => do
    let major ← number .majorVersion major
    let minor ← number .minorVersion minor
    let (patch, tag) ← splitTag rest
    let patch ← number .patchVersion patch
    return ⟨major, minor, patch, tag⟩

/-- The text of a version. -/
def text (v : Version) : String :=
  toString v.major.toNat ++ "." ++ toString v.minor.toNat ++ "." ++ toString v.patch.toNat
    ++ match v.preRelease with
       | some tag => "-" ++ tag
       | none => ""

/-- The order of versions: by the numbers, then without a tag before the tags. -/
def le (v w : Version) : Bool :=
  if v.major ≠ w.major then decide (v.major < w.major)
  else if v.minor ≠ w.minor then decide (v.minor < w.minor)
  else if v.patch ≠ w.patch then decide (v.patch < w.patch)
  else
    match v.preRelease, w.preRelease with
    | none, _ => true
    | some _, none => false
    | some s, some t => decide (s ≤ t)

/-- The version as JSON. -/
def toJson (v : Version) : Json :=
  .object [
    ("major", .nat v.major.toNat),
    ("minor", .nat v.minor.toNat),
    ("patch", .nat v.patch.toNat),
    ("pre_release", .ofOption .string v.preRelease)]

/-- The version of a JSON value. -/
def ofJson? (v : Json) : Option Version := do
  let r ← v.record? ["major", "minor", "patch", "pre_release"]
  some {
    major := ← r.required? "major" Json.word32?
    minor := ← r.required? "minor" Json.word32?
    patch := ← r.required? "patch" Json.word32?
    preRelease := ← r.optional? "pre_release" Json.text? }

end Version

end ModuleRuntime.Module
