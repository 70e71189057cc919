import Mathlib.Data.List.Lex
import Mathlib.Data.Set.Finite.List
import Mathlib.Logic.Relation
import Mathlib.Order.WellFounded
import ModuleRuntime.Proofs.Loading.Order

/-!
# The order of a batch is the least one

The modules of a batch and their references make up a graph. The loop that places the modules comes
to an end, and it leaves over those modules from which a path leads to a cycle. Of all orders of the
others that put dependencies first, the one in which it places them is the least, comparing places
from the first one on. So modules stand in the order of their images wherever references allow it.
-/

set_option autoImplicit false

namespace ModuleRuntime.Module.LoadOrder

open Relation (ReflTransGen TransGen)

variable {ds : List Descriptor} {name : String} {i j k n : Nat}
  {placed placed' before behind rest : List Nat}

/-! ## The graph of references -/

/-- A name means the first module that has it as its id or as the name of its assembly. -/
def Means (ds : List Descriptor) (name : String) (j : Nat) : Prop :=
  (∃ d, ds[j]? = some d ∧ (d.id = name ∨ d.assembly = name)) ∧
    ∀ k < j, ∀ d, ds[k]? = some d → ¬(d.id = name ∨ d.assembly = name)

/-- A module depends on each other one that one of its references means. -/
def DependsOn (ds : List Descriptor) (i j : Nat) : Prop :=
  j ≠ i ∧ ∃ d, ds[i]? = some d ∧ ∃ name ∈ d.references, Means ds name j

/-- The holder of a name is the module that the name means. -/
theorem holder?_eq_some_iff : holder? ds name = some j ↔ Means ds name j := by
  have hnamed (d : Descriptor) : d.isNamed name = true ↔ d.id = name ∨ d.assembly = name := by
    simp [Descriptor.isNamed]
  unfold holder? Means
  rw [List.findIdx?_eq_some_iff_getElem]
  constructor
  · rintro ⟨hj, hfound, hfirst⟩
    refine ⟨⟨ds[j], List.getElem?_eq_getElem hj, (hnamed _).mp hfound⟩, ?_⟩
    intro k hk d hd hname
    obtain ⟨hlt, rfl⟩ := List.getElem?_eq_some_iff.mp hd
    exact hfirst k hk ((hnamed _).mpr hname)
  · rintro ⟨⟨d, hd, hname⟩, hfirst⟩
    obtain ⟨hj, rfl⟩ := List.getElem?_eq_some_iff.mp hd
    refine ⟨hj, (hnamed _).mpr hname, ?_⟩
    intro k hk hfound
    have hlt : k < ds.length := by omega
    exact hfirst k hk ds[k] (List.getElem?_eq_getElem hlt) ((hnamed _).mp hfound)

/-- The dependencies of a module are those on which it depends. -/
theorem mem_dependencies_iff : j ∈ dependencies ds i ↔ DependsOn ds i j := by
  constructor
  · intro hj
    cases hd : ds[i]? with
    | none =>
      unfold dependencies at hj
      rw [hd] at hj
      cases hj
    | some d =>
      obtain ⟨name, href, hname, hne⟩ := exists_reference hd hj
      exact ⟨hne, d, hd, name, href, holder?_eq_some_iff.mp hname⟩
  · rintro ⟨hne, d, hd, name, href, hname⟩
    exact mem_dependencies hd href (holder?_eq_some_iff.mpr hname) hne

/-- Both ends of a reference stand in the batch. -/
theorem DependsOn.lt (h : DependsOn ds i j) : i < ds.length ∧ j < ds.length := by
  obtain ⟨-, d, hd, name, -, ⟨e, he, -⟩, -⟩ := h
  exact ⟨(List.getElem?_eq_some_iff.mp hd).1, (List.getElem?_eq_some_iff.mp he).1⟩

/-! ## The loop -/

/-- A module of the batch that has not been placed can be placed if all on which it depends have
been. -/
def CanFollow (ds : List Descriptor) (placed : List Nat) (i : Nat) : Prop :=
  i < ds.length ∧ i ∉ placed ∧ ∀ j, DependsOn ds i j → j ∈ placed

/-- One round of the loop places the first module that can be placed. -/
def Places (ds : List Descriptor) (placed placed' : List Nat) : Prop :=
  ∃ i, CanFollow ds placed i ∧ (∀ k < i, ¬CanFollow ds placed k) ∧ placed' = placed ++ [i]

/-- A module is ready iff it can follow those that were placed. -/
theorem isReady_iff (hi : i < ds.length) : isReady ds placed i = true ↔ CanFollow ds placed i := by
  unfold isReady CanFollow
  simp only [Bool.and_eq_true, Bool.not_eq_true', List.all_eq_true, List.contains_eq_mem,
    decide_eq_true_eq, decide_eq_false_iff_not, mem_dependencies_iff, hi, true_and]

/-- The first module that is ready is the least that can follow. -/
theorem find?_isReady_eq_some_iff :
    (List.range ds.length).find? (isReady ds placed) = some i ↔
      CanFollow ds placed i ∧ ∀ k < i, ¬CanFollow ds placed k := by
  rw [List.find?_range_eq_some, List.mem_range]
  constructor
  · rintro ⟨hready, hi, hfirst⟩
    refine ⟨(isReady_iff hi).mp hready, ?_⟩
    intro k hk hcan
    have hready' := (isReady_iff hcan.1).mpr hcan
    have hnot := hfirst k hk
    simp [hready'] at hnot
  · rintro ⟨hcan, hfirst⟩
    refine ⟨(isReady_iff hcan.1).mpr hcan, hcan.1, ?_⟩
    intro k hk
    have hlt : k < ds.length := by
      have hi := hcan.1
      omega
    have hnot := mt (isReady_iff hlt).mp (hfirst k hk)
    simpa using hnot

/-- A round of the loop places a module and goes on with the others. -/
theorem extend_of_places (h : Places ds placed placed') (n : Nat) :
    extend ds (n + 1) placed = extend ds n placed' := by
  obtain ⟨i, hcan, hfirst, rfl⟩ := h
  have hfind := find?_isReady_eq_some_iff.mpr ⟨hcan, hfirst⟩
  rw [extend, hfind]

/-- A round of the loop makes a placement longer by one. -/
theorem IsPlacement.places (hp : IsPlacement ds placed) (h : Places ds placed placed') :
    IsPlacement ds placed' ∧ placed'.length = placed.length + 1 := by
  obtain ⟨i, hcan, hfirst, rfl⟩ := h
  refine ⟨hp.concat (find?_isReady_eq_some_iff.mpr ⟨hcan, hfirst⟩), ?_⟩
  simp

/-- A placement is no longer than the batch. -/
theorem IsPlacement.length_le (hp : IsPlacement ds placed) : placed.length ≤ ds.length := by
  have hsub : placed ⊆ List.range ds.length := fun i hi => List.mem_range.mpr (hp.lt i hi)
  have hle := (hp.nodup.subperm hsub).length_le
  simpa using hle

/-- Wherever the loop has come, it still comes to the order. -/
theorem extend_eq_order (h : ReflTransGen (Places ds) [] placed) :
    IsPlacement ds placed ∧ extend ds (ds.length - placed.length) placed = order ds := by
  induction h with
  | refl => exact ⟨⟨List.nodup_nil, nofun⟩, rfl⟩
  | @tail placed placed' _ hstep ih =>
    obtain ⟨hp, hextend⟩ := ih
    obtain ⟨hp', hlength⟩ := hp.places hstep
    -- A round was left, since there was room for the module that has been placed.
    have hle := hp'.length_le
    have hleft : ds.length - placed.length = ds.length - placed'.length + 1 := by omega
    rw [hleft, extend_of_places hstep] at hextend
    exact ⟨hp', hextend⟩

/-- By induction on the rounds, each of which places a module or is the last one. -/
theorem reaches_extend (n : Nat) (placed : List Nat) :
    ReflTransGen (Places ds) placed (extend ds n placed) := by
  induction n generalizing placed with
  | zero => exact .refl
  | succ n ih =>
    unfold extend
    cases hfind : (List.range ds.length).find? (isReady ds placed) with
    | none => exact .refl
    | some i =>
      obtain ⟨hcan, hfirst⟩ := find?_isReady_eq_some_iff.mp hfind
      exact .head ⟨i, hcan, hfirst, rfl⟩ (ih (placed ++ [i]))

/-- When the loop has ended no module can be placed any more. -/
theorem not_places_order : ¬Places ds (order ds) placed := by
  rintro ⟨i, hcan, -, -⟩
  have hempty : IsPlacement ds [] := ⟨List.nodup_nil, nofun⟩
  have hdone : isReady ds (order ds) i = false := hempty.isReady_extend (by simp) hcan.1
  have hready := (isReady_iff hcan.1).mpr hcan
  rw [hdone] at hready
  cases hready

/-! ## Dependencies first -/

/-- Each module of a sequence stands behind all on which it depends. -/
def IsDependencyOrder (ds : List Descriptor) (l : List Nat) : Prop :=
  ∀ before i behind, l = before ++ i :: behind → ∀ j, DependsOn ds i j → j ∈ before

/-- In an order in which modules are ready, the dependencies of a module stand before it. -/
theorem mem_of_isReadyOrder (h : IsReadyOrder ds placed rest) (hrest : rest = before ++ i :: behind)
    (hj : DependsOn ds i j) : j ∈ placed ++ before := by
  induction before generalizing placed rest with
  | nil =>
    subst hrest
    have hplaced := h.1 j (mem_dependencies_iff.mpr hj)
    simpa using hplaced
  | cons first before ih =>
    subst hrest
    have hlater := ih h.2 rfl
    simpa using hlater

/-- The order of a batch places every module behind those on which it depends. -/
theorem isDependencyOrder_order (ds : List Descriptor) : IsDependencyOrder ds (order ds) := by
  intro before i behind horder j hj
  have hmem := mem_of_isReadyOrder (isReadyOrder_order ds) horder hj
  simpa using hmem

/-- Paths lead to the front. -/
theorem IsDependencyOrder.mem_of_transGen {l : List Nat} (h : IsDependencyOrder ds l)
    (hl : l = before ++ i :: behind) (hpath : TransGen (DependsOn ds) i k) : k ∈ before := by
  induction hpath with
  | single hstep => exact h before i behind hl _ hstep
  | tail _ hstep ih =>
    obtain ⟨front, middle, rfl⟩ := List.append_of_mem ih
    have hfront := h front _ (middle ++ i :: behind) (by simp [hl]) _ hstep
    simp [hfront]

/-- No path leads from a module that has been placed to a cycle. -/
theorem not_cycle_of_mem_order (hi : i ∈ order ds) (hpath : ReflTransGen (DependsOn ds) i k) :
    ¬TransGen (DependsOn ds) k k := by
  intro hcycle
  have hdeps := isDependencyOrder_order ds
  have hk : k ∈ order ds := by
    rcases Relation.reflTransGen_iff_eq_or_transGen.mp hpath with rfl | hpath
    · exact hi
    · obtain ⟨before, behind, horder⟩ := List.append_of_mem hi
      have hbefore := hdeps.mem_of_transGen horder hpath
      rw [horder]
      exact List.mem_append_left _ hbefore
  obtain ⟨before, behind, horder, hnot⟩ := List.eq_append_cons_of_mem hk
  exact hnot (hdeps.mem_of_transGen horder hcycle)

/-! ## What is left over -/

/-- If no path led from a module that is left over to a cycle, paths from it would come to an end at
a module that is left over and depends on none. -/
theorem exists_cycle (hi : i ∈ cyclic ds) :
    ∃ k, ReflTransGen (DependsOn ds) i k ∧ TransGen (DependsOn ds) k k := by
  by_contra hnone
  have hacyclic : ∀ k, ReflTransGen (DependsOn ds) i k → ¬TransGen (DependsOn ds) k k := by
    intro k hpath hcycle
    exact hnone ⟨k, hpath, hcycle⟩
  let reached : Set Nat := {k | k ∈ cyclic ds ∧ ReflTransGen (DependsOn ds) i k}
  have hfinite : Finite reached := by
    have hleft : reached ⊆ {k | k ∈ cyclic ds} := fun k hk => hk.1
    exact ((List.finite_toSet (cyclic ds)).subset hleft).to_subtype
  let below (a b : reached) : Prop := TransGen (DependsOn ds) b.1 a.1
  have htrans : IsTrans reached below := ⟨fun _ _ _ hab hbc => hbc.trans hab⟩
  have hirrefl : Std.Irrefl below := ⟨fun a => hacyclic a.1 a.2.2⟩
  have hfounded : WellFounded below := Finite.wellFounded_of_trans_of_irrefl below
  obtain ⟨last, -, hlast⟩ := hfounded.has_min Set.univ ⟨⟨i, hi, .refl⟩, trivial⟩
  obtain ⟨next, hnext, hleft⟩ := exists_dependency_cyclic last.2.1
  have hstep := mem_dependencies_iff.mp hnext
  exact hlast ⟨next, hleft, last.2.2.tail hstep⟩ trivial (.single hstep)

/-- The modules that are left over are those from which a path leads to a cycle. -/
theorem mem_cyclic_iff :
    i ∈ cyclic ds ↔ ∃ k, ReflTransGen (DependsOn ds) i k ∧ TransGen (DependsOn ds) k k := by
  constructor
  · exact exists_cycle
  · rintro ⟨k, hpath, hcycle⟩
    have hi : i < ds.length := by
      rcases hpath.cases_head with rfl | ⟨j, hstep, -⟩
      · obtain ⟨j, hstep, -⟩ := Relation.TransGen.head'_iff.mp hcycle
        exact hstep.lt.1
      · exact hstep.lt.1
    have hall : i ∈ order ds ++ cyclic ds :=
      (perm_order_cyclic ds).mem_iff.mpr (List.mem_range.mpr hi)
    rcases List.mem_append.mp hall with horder | hleft
    · exact absurd hcycle (not_cycle_of_mem_order horder hpath)
    · exact hleft

/-! ## The least order -/

/-- Whether modules are a placement does not depend on their order. -/
theorem IsPlacement.perm {l l' : List Nat} (hp : IsPlacement ds l) (h : l.Perm l') :
    IsPlacement ds l' :=
  ⟨h.nodup_iff.mp hp.nodup, fun i hi => hp.lt i (h.mem_iff.mpr hi)⟩

/-- What comes next in an order that puts dependencies first can be placed. -/
theorem IsDependencyOrder.canFollow (h : IsDependencyOrder ds (placed ++ k :: rest))
    (hp : IsPlacement ds (placed ++ k :: rest)) : CanFollow ds placed k := by
  have hk : k ∈ placed ++ k :: rest := List.mem_append_right _ List.mem_cons_self
  refine ⟨hp.lt k hk, ?_, h placed k rest rfl⟩
  intro hmem
  exact (List.nodup_append.mp hp.nodup).2.2 k hmem k List.mem_cons_self rfl

/-- What is appended to a list is empty if the whole is a rearrangement of the list. -/
theorem append_eq_of_perm (h : (placed ++ rest).Perm placed) : placed ++ rest = placed := by
  have hlength := h.length_eq
  rw [List.length_append] at hlength
  have hnil : rest = [] := List.length_eq_zero_iff.mp (by omega)
  rw [hnil, List.append_nil]

/-- At the first place where another order differs from that of the loop it has a module that could
be placed there, and the loop has the first such module. -/
theorem extend_eq_or_lex (hp : IsPlacement ds placed)
    (horder : IsDependencyOrder ds (placed ++ rest))
    (hperm : (placed ++ rest).Perm (extend ds n placed)) :
    extend ds n placed = placed ++ rest ∨
      List.Lex (· < ·) (extend ds n placed) (placed ++ rest) := by
  induction n generalizing placed rest with
  | zero => exact .inl (append_eq_of_perm hperm).symm
  | succ n ih =>
    cases hfind : (List.range ds.length).find? (isReady ds placed) with
    | none =>
      have hstop : extend ds (n + 1) placed = placed := by rw [extend, hfind]
      rw [hstop] at hperm ⊢
      exact .inl (append_eq_of_perm hperm).symm
    | some i =>
      have hgo : extend ds (n + 1) placed = extend ds n (placed ++ [i]) := by rw [extend, hfind]
      have hp' := hp.concat hfind
      obtain ⟨tail, htail, -⟩ := extend_isReadyOrder ds n (placed ++ [i])
      obtain ⟨-, hfirst⟩ := find?_isReady_eq_some_iff.mp hfind
      rw [hgo] at hperm ⊢
      cases rest with
      | nil =>
        have hlength := hperm.length_eq
        simp [htail] at hlength
      | cons k rest =>
        have hcan : CanFollow ds placed k := horder.canFollow ((hp'.extend n).perm hperm.symm)
        have hle : i ≤ k := by
          by_contra hlt
          exact hfirst k (by omega) hcan
        rcases Nat.eq_or_lt_of_le hle with rfl | hlt
        · have hsplit : placed ++ i :: rest = placed ++ [i] ++ rest := List.append_cons ..
          rw [hsplit] at horder hperm ⊢
          exact ih hp' horder hperm
        · rw [htail, List.append_assoc]
          exact .inr (List.Lex.append_left (· < ·) (.rel hlt) placed)

/-- What sorting a batch comes to: a sequence of places, and those that are left over. -/
structure Sorts (ds : List Descriptor) (order cyclic : List Nat) : Prop where
  reached : ReflTransGen (Places ds) [] order
  ended : ∀ placed, ¬Places ds order placed
  onWay : ∀ placed, ReflTransGen (Places ds) [] placed → placed <+: order
  perm : (order ++ cyclic).Perm (List.range ds.length)
  dependencies : IsDependencyOrder ds order
  cyclic : ∀ i, i ∈ cyclic ↔
    ∃ k, ReflTransGen (DependsOn ds) i k ∧ TransGen (DependsOn ds) k k
  least : ∀ other, other.Perm order → IsDependencyOrder ds other →
    order = other ∨ List.Lex (· < ·) order other

/-- The loop ends, and on its way it comes to the beginnings of its order only. Each module is
placed once or left over, the placed ones stand behind those on which they depend, the others are
those from which a path leads to a cycle, and no other order that puts dependencies first is less.
-/
theorem sorts_order_cyclic (ds : List Descriptor) : Sorts ds (order ds) (cyclic ds) where
  reached := reaches_extend ds.length []
  ended _ := not_places_order
  onWay placed h := by
    obtain ⟨-, hextend⟩ := extend_eq_order h
    obtain ⟨rest, hrest, -⟩ := extend_isReadyOrder ds (ds.length - placed.length) placed
    rw [hextend] at hrest
    exact ⟨rest, hrest.symm⟩
  perm := perm_order_cyclic ds
  dependencies := isDependencyOrder_order ds
  cyclic _ := mem_cyclic_iff
  least other hperm hother := by
    have hempty : IsPlacement ds [] := ⟨List.nodup_nil, nofun⟩
    exact extend_eq_or_lex hempty hother hperm

end ModuleRuntime.Module.LoadOrder
