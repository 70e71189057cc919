import Mathlib.Data.List.DropRight
import ModuleRuntime.Text.Blank
import ModuleRuntime.Text.Split

/-!
# Pieces of texts

A text is split at the first occurrence of a character into a piece that is free of the character
and all that follows. What is left of a text without the blanks around it is the one piece that
neither starts nor ends with a blank and has nothing but blanks before and behind it.
-/

set_option autoImplicit false

namespace ModuleRuntime.Text

variable {c : Char} {s text before after : List Char}

/-! ## Splitting at a character -/

/-- Splitting at the first of a single character, by the first character of the text. -/
theorem splitFirst_singleton_cons (c d : Char) (s : List Char) :
    splitFirst [c] (d :: s) =
      if d = c then some ([], s) else (splitFirst [c] s).map fun p => (d :: p.1, p.2) := by
  by_cases hd : d = c
  · subst hd
    simp [splitFirst]
  · have hcd : (c == d) = false := beq_eq_false_iff_ne.mpr (Ne.symm hd)
    simp [splitFirst, List.isPrefixOf, hcd, hd]

/-- A text is split where the character stands for the first time. -/
theorem splitFirst_singleton_eq_some_iff :
    splitFirst [c] s = some (before, after) ↔ s = before ++ c :: after ∧ c ∉ before := by
  induction s generalizing before with
  | nil => simp [splitFirst]
  | cons d rest ih =>
    rw [splitFirst_singleton_cons]
    by_cases hd : d = c
    · subst hd
      rw [if_pos rfl, Option.some.injEq, Prod.mk.injEq]
      constructor
      · rintro ⟨rfl, rfl⟩
        exact ⟨rfl, List.not_mem_nil⟩
      · rintro ⟨happend, hfree⟩
        -- A piece that is not empty would start with the character.
        cases before with
        | nil => exact ⟨rfl, (List.cons.inj happend).2⟩
        | cons e piece =>
          obtain ⟨rfl, -⟩ := List.cons.inj happend
          exact absurd List.mem_cons_self hfree
    · rw [if_neg hd, Option.map_eq_some_iff]
      constructor
      · rintro ⟨⟨piece, others⟩, hpiece, hpair⟩
        obtain ⟨rfl, rfl⟩ := Prod.mk.inj hpair
        obtain ⟨rfl, hfree⟩ := ih.mp hpiece
        refine ⟨rfl, fun hc => ?_⟩
        rcases List.mem_cons.mp hc with rfl | hc
        · exact hd rfl
        · exact hfree hc
      · rintro ⟨happend, hfree⟩
        cases before with
        | nil => exact absurd (List.cons.inj happend).1 hd
        | cons e piece =>
          obtain ⟨rfl, hrest⟩ := List.cons.inj happend
          have hpiece := ih.mpr ⟨hrest, fun hc => hfree (List.mem_cons_of_mem _ hc)⟩
          exact ⟨(piece, after), hpiece, rfl⟩

/-- A text is not split at a character of which it is free. -/
theorem splitFirst_singleton_eq_none_iff : splitFirst [c] s = none ↔ c ∉ s := by
  constructor
  · intro hnone hc
    obtain ⟨before, after, rfl, hfree⟩ := List.eq_append_cons_of_mem hc
    rw [splitFirst_singleton_eq_some_iff.mpr ⟨rfl, hfree⟩] at hnone
    cases hnone
  · intro hc
    cases hsplit : splitFirst [c] s with
    | none => rfl
    | some p =>
      obtain ⟨hs, -⟩ := splitFirst_singleton_eq_some_iff.mp hsplit
      rw [hs] at hc
      exact absurd (List.mem_append_right _ List.mem_cons_self) hc

/-! ## Blanks around a text -/

/-- A text that neither starts nor ends with a blank. -/
structure IsTrimmed (s : List Char) : Prop where
  head : ∀ c ∈ s.head?, isBlank c = false
  last : ∀ c ∈ s.getLast?, isBlank c = false

/-- A text with blanks before and behind a trimmed piece of it, and nothing else there. -/
structure Surrounds (s text : List Char) : Prop where
  blanks : ∃ before after, s = before ++ text ++ after ∧ (∀ c ∈ before, isBlank c = true) ∧
    ∀ c ∈ after, isBlank c = true
  isTrimmed : IsTrimmed text

/-- Nothing is dropped if the first character is to stay. -/
theorem dropWhile_eq_self_of_head {p : Char → Bool} (h : ∀ c ∈ s.head?, p c = false) :
    s.dropWhile p = s := by
  cases s with
  | nil => rfl
  | cons c rest => simp [List.dropWhile, h c rfl]

/-- What is left begins with a character that is to stay. -/
theorem head_of_dropWhile (p : Char → Bool) (s : List Char) :
    ∀ c ∈ (s.dropWhile p).head?, p c = false := by
  intro c hc
  have hnot := List.head?_dropWhile_not p s
  rw [Option.mem_def.mp hc] at hnot
  simpa using hnot

/-- A trimmed text has no blank at either end. -/
theorem isTrimmed_trimChars (s : List Char) : IsTrimmed (trimChars s) := by
  constructor
  · -- What is left starts like the text without the blanks before it, unless nothing is left.
    intro c hc
    obtain ⟨after, hafter⟩ := List.rdropWhile_prefix isBlank (s.dropWhile isBlank)
    refine head_of_dropWhile isBlank s c ?_
    rw [← hafter]
    exact List.mem_head?_append_of_mem_head? hc
  · intro c hc
    refine head_of_dropWhile isBlank (s.dropWhile isBlank).reverse c ?_
    rwa [trimChars, List.getLast?_reverse] at hc

/-- A text is its trimmed text with blanks around it. -/
theorem surrounds_trimChars (s : List Char) : Surrounds s (trimChars s) := by
  refine ⟨⟨s.takeWhile isBlank, (s.dropWhile isBlank).rtakeWhile isBlank, ?_, ?_, ?_⟩,
    isTrimmed_trimChars s⟩
  · calc s = s.takeWhile isBlank ++ s.dropWhile isBlank := List.takeWhile_append_dropWhile.symm
      _ = s.takeWhile isBlank ++ (trimChars s ++ (s.dropWhile isBlank).rtakeWhile isBlank) := by
        rw [show trimChars s = (s.dropWhile isBlank).rdropWhile isBlank from rfl,
          List.rdropWhile_append_rtakeWhile]
      _ = s.takeWhile isBlank ++ trimChars s ++ (s.dropWhile isBlank).rtakeWhile isBlank :=
        (List.append_assoc ..).symm
  · exact fun c hc => List.mem_takeWhile_imp hc
  · exact fun c hc => List.mem_rtakeWhile_imp hc

/-- What is left of a text without the blanks around it is the trimmed piece between them. -/
theorem trimChars_eq_iff : trimChars s = text ↔ Surrounds s text := by
  constructor
  · rintro rfl
    exact surrounds_trimChars s
  · rintro ⟨⟨before, after, rfl, hbefore, hafter⟩, htrimmed⟩
    have hlast : ∀ c ∈ text.reverse.head?, isBlank c = false := by
      rw [List.head?_reverse]
      exact htrimmed.last
    have hend : ((text ++ after).reverse.dropWhile isBlank).reverse = text := by
      rw [List.reverse_append, List.dropWhile_append_of_pos fun c hc =>
        hafter c (List.mem_reverse.mp hc), dropWhile_eq_self_of_head hlast, List.reverse_reverse]
    rw [trimChars, List.append_assoc, List.dropWhile_append_of_pos hbefore]
    cases text with
    | nil =>
      rw [List.nil_append, List.dropWhile_eq_nil_iff.mpr hafter]
      rfl
    | cons c rest =>
      have hstart : (c :: rest ++ after).dropWhile isBlank = c :: rest ++ after :=
        dropWhile_eq_self_of_head fun d hd => htrimmed.head d hd
      rw [hstart, hend]

/-- A text without blanks at its ends is trimmed already. -/
theorem trimChars_eq_self (h : IsTrimmed s) : trimChars s = s :=
  trimChars_eq_iff.mpr ⟨⟨[], [], by simp, by simp, by simp⟩, h⟩

end ModuleRuntime.Text
