import ModuleRuntime.Journaled

/-!
# What values and their journals meet

An operation meets a condition if all that happens on the way is of one kind and its value satisfies
a postcondition. What operations in sequence meet follows from what each of them meets, so nothing
has to be known of how an operation that is called comes to its journal. Where the order matters in
which things happen, an operation takes a chain of steps, and operations in sequence join theirs.
-/

set_option autoImplicit false

namespace ModuleRuntime.Journaled

variable {ω υ α β : Type} {K : ω → Prop} {Q Q' : α → Prop} {R : β → Prop}
  {x : Journaled ω α} {f : α → Journaled ω β}

/-- All that happens on the way to the value is of one kind, and the value satisfies a
postcondition. -/
structure Meets (x : Journaled ω α) (K : ω → Prop) (Q : α → Prop) : Prop where
  journal : ∀ w ∈ x.journal, K w
  value : Q x.value

namespace Meets

/-- A value meets what it satisfies. -/
theorem pure {a : α} (h : Q a) : (Pure.pure a : Journaled ω α).Meets K Q :=
  ⟨fun _ hw => absurd hw List.not_mem_nil, h⟩

/-- Operations in sequence meet what the second one meets after everything that the first one may
answer. -/
theorem bind (hx : x.Meets K Q) (hf : ∀ a, Q a → (f a).Meets K R) : (x >>= f).Meets K R := by
  obtain ⟨hjournal, hvalue⟩ := hf x.value hx.value
  refine ⟨fun w hw => ?_, hvalue⟩
  rw [journal_bind, List.mem_append] at hw
  rcases hw with hw | hw
  · exact hx.journal w hw
  · exact hjournal w hw

/-- A function of the value meets what the function satisfies there. -/
theorem map {g : α → β} (hx : x.Meets K fun a => R (g a)) : (g <$> x).Meets K R :=
  ⟨by rw [journal_map]; exact hx.journal, hx.value⟩

/-- What implies a postcondition is met with it. -/
theorem mono (hx : x.Meets K Q) (h : ∀ a, Q a → Q' a) : x.Meets K Q' :=
  ⟨hx.journal, h x.value hx.value⟩

/-- Telling something meets the kind of it. -/
theorem tell {w : ω} (h : K w) : (Journaled.tell w).Meets K fun _ => True :=
  ⟨fun _ hw => List.mem_singleton.mp hw ▸ h, trivial⟩

/-- If everything is of one kind when it is seen through a function, so is the whole journal. -/
theorem mapJournal {g : υ → ω} {y : Journaled υ α} (hg : ∀ u, K (g u)) (hy : Q y.value) :
    (y.mapJournal g).Meets K Q := by
  refine ⟨fun w hw => ?_, hy⟩
  obtain ⟨u, -, rfl⟩ := List.mem_map.mp hw
  exact hg u

/-- What is met at every member of a list is met by the operation on all of them. -/
theorem mapM (h : ∀ a, (f a).Meets K R) (l : List α) :
    (l.mapM f).Meets K fun bs => ∀ b ∈ bs, R b := by
  induction l with
  | nil => exact .pure fun b hb => absurd hb List.not_mem_nil
  | cons a rest ih =>
    rw [List.mapM_cons]
    refine (h a).bind fun b hb => ih.bind fun bs hbs => .pure fun c hc => ?_
    rcases List.mem_cons.mp hc with rfl | hc
    · exact hb
    · exact hbs c hc

/-- What every step keeps is kept by all of them. -/
theorem foldlM {g : β → α → Journaled ω β} (h : ∀ b a, R b → (g b a).Meets K R) {b : β} (hb : R b)
    (l : List α) : (l.foldlM g b).Meets K R := by
  induction l generalizing b with
  | nil => exact .pure hb
  | cons a rest ih =>
    rw [List.foldlM_cons]
    exact (h b a hb).bind fun b' hb' => ih hb'

end Meets

/-- All that happens at the members of a list, one after the other. -/
theorem journal_forM (f : α → Journaled ω PUnit) (l : List α) :
    (l.forM f).journal = l.flatMap fun a => (f a).journal := by
  induction l with
  | nil => rfl
  | cons a rest ih =>
    rw [List.forM_eq_forM, List.forM_cons, journal_bind, List.flatMap_cons, ← ih]
    rfl

/-- The same if each of them answers. -/
theorem journal_mapM (f : α → Journaled ω β) (l : List α) :
    (l.mapM f).journal = l.flatMap fun a => (f a).journal := by
  induction l with
  | nil => rfl
  | cons a rest ih =>
    rw [List.mapM_cons, journal_bind, journal_bind, journal_pure, List.append_nil, ih,
      List.flatMap_cons]

/-! ## Chains of steps -/

/-- Steps one after the other, with all that happens on the way. -/
inductive Chain {σ : Type} (S : σ → List ω → σ → Prop) : σ → List ω → σ → Prop where
  | nil (s : σ) : Chain S s [] s
  | cons {s s' s'' : σ} {l m : List ω} (h : S s l s') (hrest : Chain S s' m s'') :
      Chain S s (l ++ m) s''

namespace Chain

variable {σ : Type} {S T : σ → List ω → σ → Prop} {s s' s'' : σ} {l m : List ω}

/-- One step. -/
theorem single (h : S s l s') : Chain S s l s' := by
  rw [← List.append_nil l]
  exact .cons h (.nil s')

/-- Some steps and then others. -/
theorem trans (h : Chain S s l s') (h' : Chain S s' m s'') : Chain S s (l ++ m) s'' := by
  induction h with
  | nil => exact h'
  | cons hstep _ ih =>
    rw [List.append_assoc]
    exact .cons hstep (ih h')

/-- Steps that are steps of another kind too. -/
theorem mono (hST : ∀ {s l s'}, S s l s' → T s l s') (h : Chain S s l s') : Chain T s l s' := by
  induction h with
  | nil s => exact .nil s
  | cons hstep _ ih => exact .cons (hST hstep) ih

end Chain

/-! ## Operations that take steps -/

/-- All that happens on the way to the value is a chain of steps, which comes to what is seen of the
value. -/
def Leads {σ : Type} (x : Journaled ω α) (S : σ → List ω → σ → Prop) (s : σ)
    (view : α → σ) : Prop :=
  Chain S s x.journal (view x.value)

namespace Leads

variable {σ : Type} {S : σ → List ω → σ → Prop} {s : σ} {view : α → σ} {next : β → σ}

/-- A value on its own takes no steps. -/
theorem pure {a : α} (h : view a = s) : (Pure.pure a : Journaled ω α).Leads S s view := by
  subst h
  exact .nil _

/-- Operations in sequence take the steps of the first one and then those of the second one, of
which nothing has to be known but after what the first one answers. -/
theorem bind_value (hx : x.Leads S s view) (hf : (f x.value).Leads S (view x.value) next) :
    (x >>= f).Leads S s next :=
  Chain.trans hx hf

/-- Operations in sequence, where the second one starts wherever the first one has led. -/
theorem bind (hx : x.Leads S s view) (hf : ∀ a, (f a).Leads S (view a) next) :
    (x >>= f).Leads S s next :=
  hx.bind_value (hf x.value)

/-- A function of the value changes nothing about the steps. -/
theorem map_iff {g : α → β} : (g <$> x).Leads S s next ↔ x.Leads S s fun a => next (g a) := by
  unfold Leads
  rw [journal_map, value_map]

/-- An operation on all members of a list takes the steps for one after the other, if something is
kept by all of them that decides on what they are. -/
theorem foldlM_of {P : β → Prop} {g : β → α → Journaled ω β}
    (h : ∀ b a, P b → (g b a).Leads S (next b) next ∧ P (g b a).value) {b : β} (hb : P b)
    (l : List α) : (l.foldlM g b).Leads S (next b) next := by
  induction l generalizing b with
  | nil => exact .nil _
  | cons a rest ih =>
    obtain ⟨hstep, hkept⟩ := h b a hb
    rw [List.foldlM_cons]
    exact hstep.bind_value (ih hkept)

/-- By induction on the list along which the operation is carried. -/
theorem foldlM {g : β → α → Journaled ω β} (h : ∀ b a, (g b a).Leads S (next b) next) (b : β)
    (l : List α) : (l.foldlM g b).Leads S (next b) next :=
  foldlM_of (P := fun _ => True) (fun b a _ => ⟨h b a, trivial⟩) trivial l

end Leads

end ModuleRuntime.Journaled
