import ModuleRuntime.Module.Version
import ModuleRuntime.Proofs.Failable
import ModuleRuntime.Proofs.Text.Pieces

/-!
# The grammar of versions

A version is spelled by three numerals with dots between them, and by a tag behind a hyphen if it
has one. A numeral is digits for a number of 32 bits, perhaps behind a plus sign; so it has neither
dots nor hyphens, and the first two dots and the first hyphen behind them are where a text is split.
What is read is exactly what is spelled, with any blanks around it, and every other text is invalid.
-/

set_option autoImplicit false

namespace ModuleRuntime.Module.Version

open Text (Surrounds splitFirst splitFirst_singleton_eq_some_iff splitFirst_singleton_eq_none_iff)

variable {s text digits : List Char}

/-! ## The grammar -/

/-- Digits, of which there is at least one, for a number. -/
structure IsDecimal (digits : List Char) (n : Nat) : Prop where
  ne_nil : digits ≠ []
  isDigit : ∀ c ∈ digits, c.isDigit = true
  value : Nat.ofDigitChars 10 digits 0 = n

/-- Digits for a number of 32 bits, with a plus sign before them or without. -/
inductive IsNumeral : List Char → UInt32 → Prop where
  | bare {digits : List Char} {n : UInt32} (h : IsDecimal digits n.toNat) : IsNumeral digits n
  | signed {digits : List Char} {n : UInt32} (h : IsDecimal digits n.toNat) :
    IsNumeral ('+' :: digits) n

/-- The texts for a version. -/
inductive Spells : List Char → Version → Prop where
  | release {a b c : List Char} {major minor patch : UInt32} (ha : IsNumeral a major)
    (hb : IsNumeral b minor) (hc : IsNumeral c patch) :
    Spells (a ++ '.' :: b ++ '.' :: c) ⟨major, minor, patch, none⟩
  | tagged {a b c tag : List Char} {major minor patch : UInt32} (ha : IsNumeral a major)
    (hb : IsNumeral b minor) (hc : IsNumeral c patch) (htag : tag ≠ []) :
    Spells (a ++ '.' :: b ++ '.' :: c ++ '-' :: tag)
      ⟨major, minor, patch, some (String.ofList tag)⟩

/-! ## Numerals -/

/-- Digits are read as the number that they spell. -/
theorem natOfDigits?_eq_some_iff {n : Nat} : natOfDigits? digits = some n ↔ IsDecimal digits n := by
  unfold natOfDigits?
  constructor
  · intro h
    split at h
    · cases h
    · next hdigits =>
      simp only [Bool.or_eq_true, List.isEmpty_iff, Bool.not_eq_true', not_or, Bool.not_eq_false,
        List.all_eq_true] at hdigits
      exact ⟨hdigits.1, hdigits.2, Option.some.inj h⟩
  · rintro ⟨hne, hdigits, rfl⟩
    have hempty : digits.isEmpty = false := by
      rw [List.isEmpty_eq_false_iff]
      exact hne
    rw [hempty, List.all_eq_true.mpr hdigits]
    rfl

/-- Digits do not start with a plus sign. -/
theorem IsDecimal.unsigned_eq {n : Nat} (h : IsDecimal digits n) : unsigned digits = digits := by
  unfold unsigned
  split
  · exact absurd (h.isDigit '+' List.mem_cons_self) (by decide)
  · rfl

/-- A numeral is read by the digits behind its sign. -/
theorem isNumeral_iff {n : UInt32} : IsNumeral text n ↔ IsDecimal (unsigned text) n.toNat := by
  constructor
  · rintro (hbare | hsigned)
    · rwa [hbare.unsigned_eq]
    · exact hsigned
  · intro h
    unfold unsigned at h
    split at h
    · exact .signed h
    · exact .bare h

/-- Numerals are read as the numbers for which they stand, and nothing else is. -/
theorem number?_eq_some_iff {n : UInt32} : number? text = some n ↔ IsNumeral text n := by
  rw [isNumeral_iff, ← natOfDigits?_eq_some_iff]
  unfold number?
  rw [Option.bind_eq_bind, Option.bind_eq_some_iff]
  constructor
  · rintro ⟨value, hvalue, hn⟩
    split at hn
    · next hsmall =>
      obtain rfl := Option.some.inj hn
      rw [UInt32.toNat_ofNat_of_lt' hsmall]
      exact hvalue
    · cases hn
  · intro hn
    refine ⟨n.toNat, hn, ?_⟩
    rw [if_pos n.toNat_lt, UInt32.ofNat_toNat]

/-- A numeral is read as the number that it spells, and nothing else is read. -/
theorem number_eq_ok_iff {cause : Invalid} {n : UInt32} :
    number cause text = .ok n ↔ IsNumeral text n := by
  rw [← number?_eq_some_iff]
  unfold number
  cases number? text <;> simp

/-- A numeral is made of digits and a plus sign. -/
theorem IsNumeral.mem_cases {n : UInt32} (h : IsNumeral text n) {c : Char} (hc : c ∈ text) :
    c = '+' ∨ c.isDigit = true := by
  rcases h with hbare | hsigned
  · exact .inr (hbare.isDigit c hc)
  · rcases List.mem_cons.mp hc with rfl | hc
    · exact .inl rfl
    · exact .inr (hsigned.isDigit c hc)

/-- Apart from the sign a numeral has digits only. -/
theorem IsNumeral.notMem {n : UInt32} (h : IsNumeral text n) {c : Char} (hplus : c ≠ '+')
    (hdigit : c.isDigit = false) : c ∉ text := by
  intro hc
  rcases h.mem_cases hc with heq | hdigit'
  · exact hplus heq
  · exact Bool.false_ne_true (hdigit.symm.trans hdigit')

/-- No numeral has a dot. -/
theorem IsNumeral.dot_notMem {n : UInt32} (h : IsNumeral text n) : '.' ∉ text :=
  h.notMem (by decide) (by decide)

/-- No numeral has a hyphen. -/
theorem IsNumeral.hyphen_notMem {n : UInt32} (h : IsNumeral text n) : '-' ∉ text :=
  h.notMem (by decide) (by decide)

/-! ## The parts of a version -/

/-- The first two dots of what is left without the blanks divide it into three parts. -/
theorem splitParts?_eq_some_iff {a b rest : List Char} :
    splitParts? s = some (a, b, rest) ↔
      Surrounds s (a ++ '.' :: b ++ '.' :: rest) ∧ '.' ∉ a ∧ '.' ∉ b := by
  unfold splitParts?
  simp only [Option.bind_eq_bind, Option.bind_eq_some_iff, Prod.exists, Option.some.injEq,
    Prod.mk.injEq, splitFirst_singleton_eq_some_iff, ← Text.trimChars_eq_iff]
  constructor
  · rintro ⟨_, _, ⟨hs, ha⟩, _, _, ⟨rfl, hb⟩, rfl, rfl, rfl⟩
    refine ⟨?_, ha, hb⟩
    rw [hs]
    simp
  · rintro ⟨hs, ha, hb⟩
    refine ⟨a, b ++ '.' :: rest, ⟨?_, ha⟩, b, rest, ⟨rfl, hb⟩, rfl, rfl, rfl⟩
    rw [hs]
    simp

/-- The first hyphen divides the patch number from the tag, which may not be empty. -/
theorem splitTag_eq_ok_iff {c : List Char} {tag : Option String} :
    splitTag text = .ok (c, tag) ↔
      (c = text ∧ tag = none ∧ '-' ∉ text) ∨
        ∃ t, t ≠ [] ∧ tag = some (String.ofList t) ∧ text = c ++ '-' :: t ∧ '-' ∉ c := by
  unfold splitTag
  cases hsplit : splitFirst ['-'] text with
  | none =>
    have hfree := splitFirst_singleton_eq_none_iff.mp hsplit
    constructor
    · rintro ⟨⟩
      exact .inl ⟨rfl, rfl, hfree⟩
    · rintro (⟨rfl, rfl, -⟩ | ⟨t, -, -, rfl, -⟩)
      · rfl
      · exact absurd (List.mem_append_right _ List.mem_cons_self) hfree
  | some p =>
    obtain ⟨patch, t⟩ := p
    obtain ⟨rfl, hpatch⟩ := splitFirst_singleton_eq_some_iff.mp hsplit
    have hhyphen : '-' ∈ patch ++ '-' :: t := List.mem_append_right _ List.mem_cons_self
    have hunique {c' t' : List Char} (hc' : '-' ∉ c') (h : patch ++ '-' :: t = c' ++ '-' :: t') :
        c' = patch ∧ t' = t := by
      have hsame := splitFirst_singleton_eq_some_iff.mpr ⟨h, hc'⟩
      rw [hsplit] at hsame
      simpa using (Option.some.inj hsame).symm
    cases t with
    | nil =>
      constructor
      · rintro ⟨⟩
      · rintro (⟨-, -, hfree⟩ | ⟨t', ht', -, h, hc'⟩)
        · exact absurd hhyphen hfree
        · exact absurd (hunique hc' h).2 ht'
    | cons d rest =>
      constructor
      · rintro ⟨⟩
        exact .inr ⟨d :: rest, List.cons_ne_nil d rest, rfl, rfl, hpatch⟩
      · rintro (⟨-, -, hfree⟩ | ⟨t', -, rfl, h, hc'⟩)
        · exact absurd hhyphen hfree
        · obtain ⟨rfl, rfl⟩ := hunique hc' h
          rfl

/-! ## Versions -/

/-- A text is read part by part. -/
theorem parse_eq_ok_iff_parts {s : String} {v : Version} :
    parse s = .ok v ↔ ∃ a b c rest, splitParts? s.toList = some (a, b, rest) ∧
      IsNumeral a v.major ∧ IsNumeral b v.minor ∧ splitTag rest = .ok (c, v.preRelease) ∧
      IsNumeral c v.patch := by
  unfold parse
  cases hparts : splitParts? s.toList with
  | none =>
    constructor
    · rintro ⟨⟩
    · rintro ⟨_, _, _, _, ⟨⟩, -⟩
  | some parts =>
    obtain ⟨a, b, rest⟩ := parts
    simp only [bind_eq_ok_iff, number_eq_ok_iff]
    constructor
    · rintro ⟨major, ha, minor, hb, ⟨c, tag⟩, htag, patch, hc, ⟨⟩⟩
      exact ⟨a, b, c, rest, rfl, ha, hb, htag, hc⟩
    · rintro ⟨_, _, c, _, ⟨⟩, ha, hb, htag, hc⟩
      exact ⟨v.major, ha, v.minor, hb, (c, v.preRelease), htag, v.patch, hc, rfl⟩

/-- The version that is read is the one that is spelled between the blanks around the text. -/
theorem parse_eq_ok_iff {s : String} {v : Version} :
    parse s = .ok v ↔ ∃ text, Surrounds s.toList text ∧ Spells text v := by
  rw [parse_eq_ok_iff_parts]
  constructor
  · rintro ⟨a, b, c, rest, hparts, ha, hb, htag, hc⟩
    obtain ⟨hs, -, -⟩ := splitParts?_eq_some_iff.mp hparts
    refine ⟨_, hs, ?_⟩
    obtain ⟨major, minor, patch, tag⟩ := v
    rcases splitTag_eq_ok_iff.mp htag with ⟨rfl, rfl, -⟩ | ⟨t, ht, rfl, rfl, -⟩
    · exact .release ha hb hc
    · have hspells := Spells.tagged ha hb hc ht
      rwa [List.append_assoc _ ('.' :: c)] at hspells
  · rintro ⟨text, hs, hspells⟩
    cases hspells with
    | @release a b c _ _ _ ha hb hc =>
      exact ⟨a, b, c, c, splitParts?_eq_some_iff.mpr ⟨hs, ha.dot_notMem, hb.dot_notMem⟩, ha, hb,
        splitTag_eq_ok_iff.mpr (.inl ⟨rfl, rfl, hc.hyphen_notMem⟩), hc⟩
    | @tagged a b c tag _ _ _ ha hb hc htag =>
      rw [List.append_assoc _ ('.' :: c)] at hs
      exact ⟨a, b, c, c ++ '-' :: tag,
        splitParts?_eq_some_iff.mpr ⟨hs, ha.dot_notMem, hb.dot_notMem⟩, ha, hb,
        splitTag_eq_ok_iff.mpr (.inr ⟨tag, htag, rfl, rfl, hc.hyphen_notMem⟩), hc⟩

/-- A text is read exactly if a version is spelled between the blanks around it, and as that
version. Every other text is reported as invalid. -/
theorem reads_spelled (s : String) :
    (∀ v, parse s = .ok v ↔ ∃ text, Surrounds s.toList text ∧ Spells text v) ∧
      ((∃ cause, parse s = .error cause ∧ (Error.invalid cause).report.kind = "Validation") ↔
        ∀ v text, Surrounds s.toList text → ¬Spells text v) := by
  refine ⟨fun v => parse_eq_ok_iff, ?_⟩
  constructor
  · rintro ⟨cause, herror, -⟩ v text hs hspells
    rw [parse_eq_ok_iff.mpr ⟨text, hs, hspells⟩] at herror
    cases herror
  · intro hnone
    cases hparse : parse s with
    | ok v =>
      obtain ⟨text, hs, hspells⟩ := parse_eq_ok_iff.mp hparse
      exact absurd hspells (hnone v text hs)
    | error cause => exact ⟨cause, rfl, rfl⟩

end ModuleRuntime.Module.Version
