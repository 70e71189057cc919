import Mathlib.Data.List.Infix
import ModuleRuntime.Text.Split

/-!
# Separators

A text is split where a separator stands for the first or for the last time. A separator can also
stand where one piece ends and the next begins, so pieces that are free of it are not always split
apart again as they were joined. They are where the separator is two different characters: such a
separator cannot overlap with itself.
-/

set_option autoImplicit false

namespace ModuleRuntime.Text

variable {sep s before after before' after' : List Char} {x y : Char}

/-- A text is divided where a separator stands for the first time. -/
structure DividesFirst (sep s before after : List Char) : Prop where
  eq_append : s = before ++ sep ++ after
  length_le : ∀ before' after', s = before' ++ sep ++ after' → before.length ≤ before'.length

/-- A text is divided where a separator stands for the last time. -/
structure DividesLast (sep s before after : List Char) : Prop where
  eq_append : s = before ++ sep ++ after
  length_le : ∀ before' after', s = before' ++ sep ++ after' → before'.length ≤ before.length

/-! ## The first separator -/

/-- Two divisions of a text at places of one distance from its beginning are the same. -/
theorem eq_of_append_eq (h : before ++ sep ++ after = before' ++ sep ++ after')
    (hlength : before.length = before'.length) : before = before' ∧ after = after' := by
  rw [List.append_assoc, List.append_assoc] at h
  obtain ⟨hbefore, hrest⟩ := List.append_inj h hlength
  exact ⟨hbefore, List.append_cancel_left hrest⟩

/-- There is one first division only. -/
theorem DividesFirst.unique (h : DividesFirst sep s before after)
    (h' : DividesFirst sep s before' after') : before = before' ∧ after = after' :=
  eq_of_append_eq (h.eq_append.symm.trans h'.eq_append)
    (Nat.le_antisymm (h.length_le _ _ h'.eq_append) (h'.length_le _ _ h.eq_append))

/-- There is one last division only. -/
theorem DividesLast.unique (h : DividesLast sep s before after)
    (h' : DividesLast sep s before' after') : before = before' ∧ after = after' :=
  eq_of_append_eq (h.eq_append.symm.trans h'.eq_append)
    (Nat.le_antisymm (h'.length_le _ _ h.eq_append) (h.length_le _ _ h'.eq_append))

/-- A text begins with what stands in front of it. -/
theorem isPrefixOf_append (sep rest : List Char) : sep.isPrefixOf (sep ++ rest) = true :=
  List.isPrefixOf_iff_prefix.mpr (List.prefix_append sep rest)

/-- Where a separator does not stand at once, there is a first character before it. -/
theorem eq_cons_of_append {c : Char} {rest : List Char} (hnot : ¬sep.isPrefixOf (c :: rest) = true)
    (h : c :: rest = before ++ sep ++ after) :
    ∃ piece, before = c :: piece ∧ rest = piece ++ sep ++ after := by
  cases before with
  | nil =>
    rw [h, List.nil_append] at hnot
    exact absurd (isPrefixOf_append sep after) hnot
  | cons d piece =>
    obtain ⟨rfl, hrest⟩ := List.cons.inj h
    exact ⟨piece, rfl, hrest⟩

/-- A text is split at the first separator. -/
theorem dividesFirst_of_splitFirst (h : splitFirst sep s = some (before, after)) :
    DividesFirst sep s before after := by
  refine ⟨eq_append_of_splitFirst h, fun before' after' happend => ?_⟩
  induction s generalizing before before' with
  | nil => simp [splitFirst] at h
  | cons c rest ih =>
    rw [splitFirst] at h
    split at h
    · obtain ⟨rfl, -⟩ := Prod.mk.inj (Option.some.inj h)
      exact Nat.zero_le _
    · next hnot =>
      obtain ⟨⟨piece, others⟩, hsplit, hpair⟩ := Option.map_eq_some_iff.mp h
      obtain ⟨rfl, rfl⟩ := Prod.mk.inj hpair
      obtain ⟨piece', rfl, hrest⟩ := eq_cons_of_append hnot happend
      exact Nat.succ_le_succ (ih hsplit piece' hrest)

/-- There is no first division iff the separator is not there. -/
theorem splitFirst_eq_none_iff (hsep : sep ≠ []) : splitFirst sep s = none ↔ ¬sep <:+: s := by
  induction s with
  | nil => simp [splitFirst, hsep]
  | cons c rest ih =>
    rw [splitFirst, List.infix_cons_iff, ← List.isPrefixOf_iff_prefix]
    split
    · next hstands => simp [hstands]
    · next hnot => simp [hnot, ih]

/-- Splitting at the first separator gives the first division. -/
theorem splitFirst_eq_some_iff (hsep : sep ≠ []) :
    splitFirst sep s = some (before, after) ↔ DividesFirst sep s before after := by
  refine ⟨dividesFirst_of_splitFirst, fun hdivides => ?_⟩
  cases hsplit : splitFirst sep s with
  | none =>
    refine absurd ?_ ((splitFirst_eq_none_iff hsep).mp hsplit)
    exact ⟨before, after, hdivides.eq_append.symm⟩
  | some parts =>
    obtain ⟨rfl, rfl⟩ := (dividesFirst_of_splitFirst hsplit).unique hdivides
    rfl

/-! ## The last separator -/

/-- There is no last division iff the separator is not there. -/
theorem splitLast_eq_none_iff (hsep : sep ≠ []) : splitLast sep s = none ↔ ¬sep <:+: s := by
  induction s with
  | nil => simp [splitLast, hsep]
  | cons c rest ih =>
    rw [splitLast, List.infix_cons_iff, ← List.isPrefixOf_iff_prefix]
    split
    · next piece others hsplit =>
      have hstands : sep <:+: rest := by
        by_contra hnot
        rw [ih.mpr hnot] at hsplit
        cases hsplit
      simp [hstands]
    · next hnone => simp [ih.mp hnone]

/-- A text is split at the last separator. -/
theorem dividesLast_of_splitLast (hsep : sep ≠ []) (h : splitLast sep s = some (before, after)) :
    DividesLast sep s before after := by
  refine ⟨eq_append_of_splitLast h, fun before' after' happend => ?_⟩
  induction s generalizing before before' with
  | nil => simp [splitLast] at h
  | cons c rest ih =>
    cases before' with
    | nil => exact Nat.zero_le _
    | cons d piece' =>
      obtain ⟨rfl, hrest⟩ := List.cons.inj happend
      rw [splitLast] at h
      split at h
      · next piece others hsplit =>
        obtain ⟨rfl, rfl⟩ := Prod.mk.inj (Option.some.inj h)
        exact Nat.succ_le_succ (ih hsplit piece' hrest)
      · next hnone =>
        -- A separator further on would have been found.
        exact absurd ⟨piece', after', hrest.symm⟩ ((splitLast_eq_none_iff hsep).mp hnone)

/-- Splitting at the last separator gives the last division. -/
theorem splitLast_eq_some_iff (hsep : sep ≠ []) :
    splitLast sep s = some (before, after) ↔ DividesLast sep s before after := by
  refine ⟨dividesLast_of_splitLast hsep, fun hdivides => ?_⟩
  cases hsplit : splitLast sep s with
  | none =>
    refine absurd ?_ ((splitLast_eq_none_iff hsep).mp hsplit)
    exact ⟨before, after, hdivides.eq_append.symm⟩
  | some parts =>
    obtain ⟨rfl, rfl⟩ := (dividesLast_of_splitLast hsep hsplit).unique hdivides
    rfl

/-- A separator is the last one if none stands in what follows its first character. -/
theorem dividesLast_append {c : Char} {rest : List Char}
    (h : ¬c :: rest <:+: rest ++ after) (before : List Char) :
    DividesLast (c :: rest) (before ++ c :: rest ++ after) before after := by
  refine ⟨rfl, fun before' after' happend => ?_⟩
  rw [List.append_assoc, List.append_assoc] at happend
  rcases List.append_eq_append_iff.mp happend with ⟨between, rfl, hrest⟩ | ⟨between, rfl, -⟩
  · cases between with
    | nil => rw [List.append_nil]
    | cons d between =>
      obtain ⟨rfl, -⟩ := List.cons.inj hrest
      have hlater : rest ++ after = between ++ (c :: rest ++ after') := (List.cons.inj hrest).2
      refine absurd ⟨between, after', ?_⟩ h
      rw [hlater, List.append_assoc]
  · simp

/-- A character that is not in a separator keeps what stands before it apart from what follows. -/
theorem infix_append_cons_iff {c : Char} (hc : c ∉ sep) :
    sep <:+: before ++ c :: after ↔ sep <:+: before ∨ sep <:+: after := by
  have hnil {start : List Char} (hstart : start ⊆ sep) (h : start <+: c :: after) :
      start = [] := by
    cases start with
    | nil => rfl
    | cons d start =>
      obtain ⟨rfl, -⟩ := List.cons_prefix_cons.mp h
      exact absurd (hstart List.mem_cons_self) hc
  constructor
  · intro h
    rcases List.infix_append_iff.mp h with hbefore | hafter | ⟨one, other, rfl, hone, hother⟩
    · exact .inl hbefore
    · rcases List.infix_cons_iff.mp hafter with hstarts | hafter
      · rw [hnil (List.Subset.refl _) hstarts]
        exact .inl List.nil_infix
      · exact .inr hafter
    · rw [hnil (List.subset_append_right one other) hother, List.append_nil]
      exact .inl hone.isInfix
  · rintro (h | h)
    · exact h.trans (List.prefix_append _ _).isInfix
    · exact h.trans ((List.suffix_cons c after).trans (List.suffix_append _ _)).isInfix

/-! ## All separators -/

/-- Characters of a separator that has been met are left out. -/
theorem splitAllFrom_eq_drop (skip : Nat) (piece s : List Char) :
    splitAllFrom sep skip piece s = splitAllFrom sep 0 piece (s.drop skip) := by
  induction skip generalizing s with
  | zero => rw [List.drop_zero]
  | succ skip ih =>
    cases s with
    | nil => rfl
    | cons c rest => rw [splitAllFrom, ih, List.drop_succ_cons]

/-- The pieces of a text are what stands before the first separator and the pieces of the rest. -/
theorem splitAllFrom_eq (hsep : sep ≠ []) (piece s : List Char) : splitAllFrom sep 0 piece s =
    match splitFirst sep s with
    | none => [piece.reverse ++ s]
    | some (before, after) => (piece.reverse ++ before) :: splitAll sep after := by
  induction s generalizing piece with
  | nil => simp [splitAllFrom, splitFirst]
  | cons c rest ih =>
    rw [splitAllFrom, splitFirst]
    split
    · have hlength : sep.length = sep.length - 1 + 1 :=
        (Nat.sub_add_cancel (List.length_pos_iff.mpr hsep)).symm
      rw [splitAllFrom_eq_drop, hlength]
      simp [splitAll]
    · rw [ih]
      cases splitFirst sep rest with
      | none => simp
      | some parts => simp

/-- Splitting at all separators comes to splitting at the first one, again and again. -/
theorem splitAll_eq (hsep : sep ≠ []) (s : List Char) : splitAll sep s =
    match splitFirst sep s with
    | none => [s]
    | some (before, after) => before :: splitAll sep after :=
  splitAllFrom_eq hsep [] s

/-! ## Separators of two characters -/

/-- Behind a piece that is free of it, a separator of two different characters is the first one. -/
theorem dividesFirst_pair (hne : x ≠ y) (hfree : ¬[x, y] <:+: before) (after : List Char) :
    DividesFirst [x, y] (before ++ [x, y] ++ after) before after := by
  refine ⟨rfl, fun before' after' happend => ?_⟩
  rw [List.append_assoc, List.append_assoc] at happend
  rcases List.append_eq_append_iff.mp happend with ⟨between, rfl, -⟩ | ⟨between, rfl, hrest⟩
  · simp
  · -- An earlier one would overlap with this one or stand in the piece.
    cases between with
    | nil => simp
    | cons c between =>
      obtain ⟨hc, hrest⟩ : x = c ∧ y :: after' = between ++ x :: y :: after := by
        simpa using hrest
      cases between with
      | nil => exact absurd (List.cons.inj hrest).1.symm hne
      | cons d between =>
        have hd : y = d := (List.cons.inj hrest).1
        exact absurd ⟨before', between, by simp [hc, hd]⟩ hfree

/-- Pieces that are free of a separator of two different characters are split apart as they were
joined. -/
theorem splitAll_intercalate {pieces : List (List Char)} (hne : x ≠ y) (hpieces : pieces ≠ [])
    (hfree : ∀ piece ∈ pieces, ¬[x, y] <:+: piece) :
    splitAll [x, y] ([x, y].intercalate pieces) = pieces := by
  have hsep : [x, y] ≠ [] := List.cons_ne_nil x [y]
  induction pieces with
  | nil => exact absurd rfl hpieces
  | cons piece rest ih =>
    obtain ⟨hpiece, hrest⟩ := List.forall_mem_cons.mp hfree
    cases rest with
    | nil =>
      rw [List.intercalate_singleton, splitAll_eq hsep, (splitFirst_eq_none_iff hsep).mpr hpiece]
    | cons next others =>
      have hfirst := (splitFirst_eq_some_iff hsep).mpr
        (dividesFirst_pair hne hpiece ([x, y].intercalate (next :: others)))
      rw [List.intercalate_cons_cons, splitAll_eq hsep, hfirst]
      exact congrArg (piece :: ·) (ih (List.cons_ne_nil next others) hrest)

end ModuleRuntime.Text
