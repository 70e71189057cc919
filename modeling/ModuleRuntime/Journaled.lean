/-!
# Values with a journal

A value together with what happened on the way to it, the earliest first. Operations in sequence
join their journals.
-/

set_option autoImplicit false

namespace ModuleRuntime

/-- A value, and what happened on the way to it. -/
structure Journaled (ω α : Type) where
  value : α
  journal : List ω

namespace Journaled

variable {ω α β : Type}

instance : Monad (Journaled ω) where
  pure a := ⟨a, []⟩
  bind x f := ⟨(f x.value).value, x.journal ++ (f x.value).journal⟩

/-- One thing that happened. -/
def tell (w : ω) : Journaled ω PUnit :=
  ⟨⟨⟩, [w]⟩

/-- Several things that happened. -/
def tellAll (ws : List ω) : Journaled ω PUnit :=
  ⟨⟨⟩, ws⟩

/-- The same with what happened seen through a function. -/
def mapJournal {υ : Type} (f : ω → υ) (x : Journaled ω α) : Journaled υ α :=
  ⟨x.value, x.journal.map f⟩

/-- A value on its own. -/
@[simp]
theorem value_pure (a : α) : (pure a : Journaled ω α).value = a := rfl

/-- Nothing happens on the way to a value on its own. -/
@[simp]
theorem journal_pure (a : α) : (pure a : Journaled ω α).journal = [] := rfl

/-- The value of operations in sequence. -/
@[simp]
theorem value_bind (x : Journaled ω α) (f : α → Journaled ω β) :
    (x >>= f).value = (f x.value).value := rfl

/-- What happens in operations in sequence. -/
@[simp]
theorem journal_bind (x : Journaled ω α) (f : α → Journaled ω β) :
    (x >>= f).journal = x.journal ++ (f x.value).journal := rfl

/-- The value after a function was applied to it. -/
@[simp]
theorem value_map (f : α → β) (x : Journaled ω α) : (f <$> x).value = f x.value := rfl

/-- Applying a function to the value changes nothing that happens. -/
@[simp]
theorem journal_map (f : α → β) (x : Journaled ω α) : (f <$> x).journal = x.journal := by
  show x.journal ++ [] = x.journal
  simp

/-- Seeing the journal through a function leaves the value alone. -/
@[simp]
theorem value_mapJournal {υ : Type} (f : ω → υ) (x : Journaled ω α) :
    (x.mapJournal f).value = x.value := rfl

/-- The journal, seen through a function. -/
@[simp]
theorem journal_mapJournal {υ : Type} (f : ω → υ) (x : Journaled ω α) :
    (x.mapJournal f).journal = x.journal.map f := rfl

/-- Telling something is all that happens. -/
@[simp]
theorem journal_tell (w : ω) : (tell w).journal = [w] := rfl

/-- Two operations with the same value and the same journal are equal. -/
@[ext]
theorem ext {x y : Journaled ω α} (hv : x.value = y.value) (hj : x.journal = y.journal) :
    x = y := by
  cases x; cases y; simp_all

instance : LawfulMonad (Journaled ω) :=
  LawfulMonad.mk' (Journaled ω)
    (fun x => by
      refine ext rfl ?_
      show x.journal ++ [] = x.journal
      simp)
    (fun x f => by
      refine ext rfl ?_
      show [] ++ (f x).journal = (f x).journal
      simp)
    (fun x f g => by
      refine ext rfl ?_
      show (x.journal ++ (f x.value).journal) ++ (g (f x.value).value).journal
        = x.journal ++ ((f x.value).journal ++ (g (f x.value).value).journal)
      simp)

/-! ## Operations on the members of a list -/

/-- The values of an operation at every member of a list. -/
@[simp]
theorem value_mapM (f : α → Journaled ω β) (l : List α) :
    (l.mapM f).value = l.map fun a => (f a).value := by
  induction l with
  | nil => rfl
  | cons a rest ih => rw [List.mapM_cons, value_bind, value_bind, ih]; rfl

/-- The value of an operation that is carried along a list. -/
@[simp]
theorem value_foldlM (f : β → α → Journaled ω β) (b : β) (l : List α) :
    (l.foldlM f b).value = l.foldl (fun b a => (f b a).value) b := by
  induction l generalizing b with
  | nil => rfl
  | cons a rest ih => rw [List.foldlM_cons, value_bind, ih]; rfl

end Journaled

end ModuleRuntime
