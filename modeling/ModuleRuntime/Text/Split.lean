/-!
# Splitting at separators

A text is split at the first, the last or every occurrence of a separator. The pieces and the
separators between them give the text back.
-/

set_option autoImplicit false

namespace ModuleRuntime.Text

/-- The parts before and after the first occurrence of `sep`. -/
def splitFirst (sep : List Char) : List Char → Option (List Char × List Char)
  | [] => none
  | c :: cs =>
    if sep.isPrefixOf (c :: cs) then some ([], (c :: cs).drop sep.length)
    else (splitFirst sep cs).map fun (before, after) => (c :: before, after)

/-- The parts before and after the last occurrence of `sep`. -/
def splitLast (sep : List Char) : List Char → Option (List Char × List Char)
  | [] => none
  | c :: cs =>
    match splitLast sep cs with
    | some (before, after) => some (c :: before, after)
    | none => if sep.isPrefixOf (c :: cs) then some ([], (c :: cs).drop sep.length) else none

/-- The pieces still to come, where `skip` characters belong to a separator already met and
`piece` holds the current piece backwards. -/
def splitAllFrom (sep : List Char) : Nat → List Char → List Char → List (List Char)
  | _, piece, [] => [piece.reverse]
  | skip + 1, piece, _ :: cs => splitAllFrom sep skip piece cs
  | 0, piece, c :: cs =>
    if sep.isPrefixOf (c :: cs) then piece.reverse :: splitAllFrom sep (sep.length - 1) [] cs
    else splitAllFrom sep 0 (c :: piece) cs

/-- The pieces between the occurrences of `sep`, found from the left without overlap. -/
def splitAll (sep s : List Char) : List (List Char) :=
  splitAllFrom sep 0 [] s

/-- A text that begins with a separator is the separator and what is behind it. -/
theorem append_drop_of_isPrefixOf {sep s : List Char} (h : sep.isPrefixOf s = true) :
    sep ++ s.drop sep.length = s := by
  obtain ⟨t, rfl⟩ := List.isPrefixOf_iff_prefix.mp h
  simp

/-- The two parts of a split at the first separator give the text back. -/
theorem eq_append_of_splitFirst {sep s before after : List Char}
    (h : splitFirst sep s = some (before, after)) : s = before ++ sep ++ after := by
  induction s generalizing before with
  | nil => simp [splitFirst] at h
  | cons c cs ih =>
    rw [splitFirst] at h
    split at h
    · next hp =>
      simp only [Option.some.injEq, Prod.mk.injEq] at h
      obtain ⟨rfl, rfl⟩ := h
      simpa using (append_drop_of_isPrefixOf hp).symm
    · simp only [Option.map_eq_some_iff, Prod.mk.injEq, Prod.exists] at h
      obtain ⟨b, a, hs, rfl, rfl⟩ := h
      simp [ih hs]

/-- The two parts of a split at the last separator give the text back. -/
theorem eq_append_of_splitLast {sep s before after : List Char}
    (h : splitLast sep s = some (before, after)) : s = before ++ sep ++ after := by
  induction s generalizing before with
  | nil => simp [splitLast] at h
  | cons c cs ih =>
    rw [splitLast] at h
    split at h
    · next b a hs =>
      simp only [Option.some.injEq, Prod.mk.injEq] at h
      obtain ⟨rfl, rfl⟩ := h
      simp [ih hs]
    · split at h
      · next hp =>
        simp only [Option.some.injEq, Prod.mk.injEq] at h
        obtain ⟨rfl, rfl⟩ := h
        simpa using (append_drop_of_isPrefixOf hp).symm
      · simp at h

end ModuleRuntime.Text
