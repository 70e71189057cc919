import Mathlib.Data.List.Basic
import ModuleRuntime.Proofs.Version.Grammar

/-!
# Reading versions back

The text of a version spells it, and so the version is read back unless its tag is empty or ends
with a blank. What is read of any text has no tag with such a fault.
-/

set_option autoImplicit false

namespace ModuleRuntime.Module.Version

open Text (IsTrimmed Surrounds isBlank)

variable {text : List Char} {n : UInt32} {v : Version}

/-- A version whose tag, if it has one, is not empty and does not end with a blank. -/
def IsWritable (v : Version) : Prop :=
  ∀ tag, v.preRelease = some tag → tag ≠ "" ∧ ∀ c ∈ tag.toList.getLast?, isBlank c = false

/-! ## Where texts of versions start and end -/

/-- No digit is blank. -/
theorem isBlank_of_isDigit {c : Char} (h : c.isDigit = true) : isBlank c = false := by
  have hdigit : 48 ≤ c.toNat ∧ c.toNat ≤ 57 := Char.isDigit_iff_toNat.mp h
  simp only [isBlank, Bool.or_eq_false_iff, Bool.and_eq_false_iff, decide_eq_false_iff_not,
    beq_eq_false_iff_ne]
  omega

/-- No character of a numeral is blank. -/
theorem IsNumeral.isBlank_eq_false (h : IsNumeral text n) {c : Char} (hc : c ∈ text) :
    isBlank c = false := by
  rcases h.mem_cases hc with rfl | hdigit
  · decide
  · exact isBlank_of_isDigit hdigit

/-- A numeral is not empty. -/
theorem IsNumeral.ne_nil (h : IsNumeral text n) : text ≠ [] := by
  rcases h with hbare | hsigned
  · exact hbare.ne_nil
  · exact List.cons_ne_nil _ _

/-- A text for a version starts with a digit or a plus sign. -/
theorem Spells.head (h : Spells text v) : ∀ c ∈ text.head?, isBlank c = false := by
  have hnumeral {a rest : List Char} {major : UInt32} (ha : IsNumeral a major) :
      ∀ c ∈ (a ++ rest).head?, isBlank c = false := by
    intro c hc
    rw [List.head?_append_of_ne_nil _ ha.ne_nil] at hc
    exact ha.isBlank_eq_false (List.mem_of_mem_head? hc)
  cases h with
  | release ha =>
    rw [List.append_assoc]
    exact hnumeral ha
  | tagged ha =>
    rw [List.append_assoc, List.append_assoc]
    exact hnumeral ha

/-- A text for a version ends with a digit or with its tag. -/
theorem Spells.isTrimmed_iff (h : Spells text v) : IsTrimmed text ↔ v.IsWritable := by
  have hhead := h.head
  cases h with
  | @release a b c _ _ _ ha hb hc =>
    refine iff_of_true ⟨hhead, fun d hd => ?_⟩ fun _ htag => nomatch htag
    rw [List.getLast?_append_cons, List.getLast?_cons_of_ne_nil hc.ne_nil] at hd
    exact hc.isBlank_eq_false (List.mem_of_mem_getLast? hd)
  | @tagged a b c tag _ _ _ ha hb hc htag =>
    have hlast : (a ++ '.' :: b ++ '.' :: c ++ '-' :: tag).getLast? = tag.getLast? := by
      rw [List.getLast?_append_cons, List.getLast?_cons_of_ne_nil htag]
    constructor
    · rintro htrimmed _ ⟨⟩
      refine ⟨fun hempty => htag (String.ofList_eq_empty_iff.mp hempty), fun d hd => ?_⟩
      rw [String.toList_ofList, ← hlast] at hd
      exact htrimmed.last d hd
    · intro hwritable
      refine ⟨hhead, fun d hd => (hwritable _ rfl).2 d ?_⟩
      rwa [String.toList_ofList, ← hlast]

/-! ## The text of a version -/

/-- The digits of a number spell it. -/
theorem isNumeral_toString (n : UInt32) : IsNumeral (toString n.toNat).toList n := by
  rw [Nat.toString_eq_repr, Nat.toList_repr]
  refine .bare ⟨Nat.toDigits_ne_nil, fun c hc => ?_, ?_⟩
  · exact Nat.isDigit_of_mem_toDigits (by decide) (by decide) hc
  · exact Nat.ofDigitChars_toDigits (by decide) (by decide)

/-- The text of a version is one for it, if the tag is not empty. -/
theorem spells_text (h : ∀ tag, v.preRelease = some tag → tag ≠ "") : Spells v.text.toList v := by
  obtain ⟨major, minor, patch, preRelease⟩ := v
  have ha := isNumeral_toString major
  have hb := isNumeral_toString minor
  have hc := isNumeral_toString patch
  cases preRelease with
  | none =>
    have hspells := Spells.release ha hb hc
    simpa [text] using hspells
  | some tag =>
    have hne : tag.toList ≠ [] := fun hempty => h tag rfl (String.toList_eq_nil_iff.mp hempty)
    have hspells := Spells.tagged ha hb hc hne
    simpa [text] using hspells

/-- The text of a version is read as that version exactly if the tag allows it. -/
theorem parse_text_eq_ok_iff : parse v.text = .ok v ↔ v.IsWritable := by
  rw [parse_eq_ok_iff]
  constructor
  · rintro ⟨s, hsurrounds, hspells⟩
    exact hspells.isTrimmed_iff.mp hsurrounds.isTrimmed
  · intro hwritable
    have hspells : Spells v.text.toList v := spells_text fun tag htag => (hwritable tag htag).1
    have htrimmed := hspells.isTrimmed_iff.mpr hwritable
    exact ⟨v.text.toList, Text.trimChars_eq_iff.mp (Text.trimChars_eq_self htrimmed), hspells⟩

/-- Whatever is read can be written and read back. -/
theorem isWritable_of_parse {s : String} (h : parse s = .ok v) : v.IsWritable := by
  obtain ⟨text, hsurrounds, hspells⟩ := parse_eq_ok_iff.mp h
  exact hspells.isTrimmed_iff.mp hsurrounds.isTrimmed

/-- A version is read back from its text exactly if its tag, where it has one, is not empty and does
not end with a blank. What is read of any text is such a version, so it makes no difference to read
what was read, written out, once more. -/
theorem reads_written (v : Version) (s : String) :
    (parse v.text = .ok v ↔ v.IsWritable) ∧ (parse s = .ok v → v.IsWritable) ∧
      (parse s >>= fun w => parse w.text) = parse s := by
  refine ⟨parse_text_eq_ok_iff, fun h => isWritable_of_parse h, ?_⟩
  cases hparse : parse s with
  | ok w =>
    have hwritable : w.IsWritable := isWritable_of_parse hparse
    exact bind_eq_ok_iff.mpr ⟨w, rfl, parse_text_eq_ok_iff.mpr hwritable⟩
  | error cause => rfl

/-- A text with blanks around it, a sign, a leading zero, and a tag in which there are a dot, a
hyphen and a blank. -/
def untidy : String :=
  "\t+1.02.3-beta.1 x-y "

/-- The untidy text is read as a version that can be written, and what is written is read as the
same version. -/
theorem reads_written_untidy :
    parse untidy = .ok ⟨1, 2, 3, some "beta.1 x-y"⟩ ∧
      IsWritable ⟨1, 2, 3, some "beta.1 x-y"⟩ ∧
      parse (Version.text ⟨1, 2, 3, some "beta.1 x-y"⟩) = .ok ⟨1, 2, 3, some "beta.1 x-y"⟩ := by
  have hparse : parse untidy = .ok ⟨1, 2, 3, some "beta.1 x-y"⟩ := by
    decide +kernel
  obtain ⟨hback, hread, -⟩ := reads_written ⟨1, 2, 3, some "beta.1 x-y"⟩ untidy
  exact ⟨hparse, hread hparse, hback.mpr (hread hparse)⟩

end ModuleRuntime.Module.Version
