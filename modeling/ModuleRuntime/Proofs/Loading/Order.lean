import Mathlib.Data.List.Perm.Subperm
import ModuleRuntime.Module.LoadOrder

/-!
# The order of a batch puts dependencies first

Every module that can be placed stands behind the other modules of the batch to which it refers,
where of several modules with one name the first is meant. Each module of the batch is placed once
or stands in a cycle or behind one, and in the latter case it depends on another such module.
-/

set_option autoImplicit false

namespace ModuleRuntime.Module.LoadOrder

variable {ds : List Descriptor} {d : Descriptor} {name : String} {i j : Nat}

/-! ## Who is meant by a name -/

/-- A name that is one of the batch means some module of it. -/
theorem exists_holder? (h : name ∈ ds.flatMap (·.names)) : ∃ j, holder? ds name = some j := by
  obtain ⟨d, hd, hname⟩ := List.mem_flatMap.mp h
  refine Option.isSome_iff_exists.mp ?_
  unfold holder?
  rw [List.findIdx?_isSome, List.any_eq_true]
  exact ⟨d, hd, (d.isNamed_iff name).mpr hname⟩

/-- The module that is meant by a name has it. -/
theorem names_of_holder? (h : holder? ds name = some j) :
    ∃ d, ds[j]? = some d ∧ name ∈ d.names := by
  unfold holder? at h
  obtain ⟨hj, hnamed, -⟩ := List.findIdx?_eq_some_iff_getElem.mp h
  exact ⟨ds[j], List.getElem?_eq_getElem hj, (ds[j].isNamed_iff name).mp hnamed⟩

/-- A module depends on every other one that its references mean. -/
theorem mem_dependencies (hd : ds[i]? = some d) (href : name ∈ d.references)
    (hj : holder? ds name = some j) (hne : j ≠ i) : j ∈ dependencies ds i := by
  unfold dependencies
  rw [hd]
  refine List.mem_filter.mpr ⟨List.mem_filterMap.mpr ⟨name, href, hj⟩, ?_⟩
  simpa using hne

/-- A module refers to each other one on which it depends. -/
theorem exists_reference (hd : ds[i]? = some d) (hj : j ∈ dependencies ds i) :
    ∃ name ∈ d.references, holder? ds name = some j ∧ j ≠ i := by
  unfold dependencies at hj
  rw [hd] at hj
  obtain ⟨hmem, hne⟩ := List.mem_filter.mp hj
  obtain ⟨name, href, hname⟩ := List.mem_filterMap.mp hmem
  exact ⟨name, href, hname, of_decide_eq_true hne⟩

/-! ## What stands before what -/

/-- Each module of a sequence stands behind its dependencies, some of which were placed before. -/
def IsReadyOrder (ds : List Descriptor) : List Nat → List Nat → Prop
  | _, [] => True
  | placed, i :: rest =>
    (∀ j ∈ dependencies ds i, j ∈ placed) ∧ IsReadyOrder ds (placed ++ [i]) rest

/-- What is placed behind others stands behind its dependencies. -/
theorem extend_isReadyOrder (ds : List Descriptor) (n : Nat) (placed : List Nat) :
    ∃ rest, extend ds n placed = placed ++ rest ∧ IsReadyOrder ds placed rest := by
  induction n generalizing placed with
  | zero => exact ⟨[], (List.append_nil placed).symm, trivial⟩
  | succ n ih =>
    unfold extend
    cases hfind : (List.range ds.length).find? (isReady ds placed) with
    | none => exact ⟨[], (List.append_nil placed).symm, trivial⟩
    | some i =>
      obtain ⟨rest, hrest, hready⟩ := ih (placed ++ [i])
      have hi := List.find?_some hfind
      unfold isReady at hi
      rw [Bool.and_eq_true, List.all_eq_true] at hi
      refine ⟨i :: rest, ?_, fun j hj => ?_, hready⟩
      · show extend ds n (placed ++ [i]) = placed ++ i :: rest
        rw [hrest, List.append_assoc]
        rfl
      · exact List.contains_iff_mem.mp (hi.2 j hj)

/-- The order of a batch puts dependencies first. -/
theorem isReadyOrder_order (ds : List Descriptor) : IsReadyOrder ds [] (order ds) := by
  obtain ⟨rest, hrest, hready⟩ := extend_isReadyOrder ds ds.length []
  unfold order
  rw [hrest]
  exact hready

/-! ## What is placed -/

variable {n : Nat} {placed : List Nat}

/-- What stands in a sequence of places of a batch, each of which occurs once. -/
structure IsPlacement (ds : List Descriptor) (placed : List Nat) : Prop where
  nodup : placed.Nodup
  lt : ∀ i ∈ placed, i < ds.length

/-- A module that is ready can be placed. -/
theorem IsPlacement.concat (h : IsPlacement ds placed)
    (hi : (List.range ds.length).find? (isReady ds placed) = some i) :
    IsPlacement ds (placed ++ [i]) := by
  have hready := List.find?_some hi
  have hlt : i < ds.length := List.mem_range.mp (List.mem_of_find?_eq_some hi)
  unfold isReady at hready
  rw [Bool.and_eq_true, Bool.not_eq_true', List.contains_eq_mem, decide_eq_false_iff_not] at hready
  constructor
  · rw [List.nodup_append]
    refine ⟨h.nodup, List.nodup_cons.mpr ⟨List.not_mem_nil, List.nodup_nil⟩, ?_⟩
    intro j hj k hk hjk
    obtain rfl := List.mem_singleton.mp hk
    exact hready.1 (hjk ▸ hj)
  · intro j hj
    rcases List.mem_append.mp hj with hj | hj
    · exact h.lt j hj
    · obtain rfl := List.mem_singleton.mp hj
      exact hlt

/-- By induction on the rounds, each of which places a module that was not placed. -/
theorem IsPlacement.extend (h : IsPlacement ds placed) (n : Nat) :
    IsPlacement ds (extend ds n placed) := by
  induction n generalizing placed with
  | zero => exact h
  | succ n ih =>
    unfold LoadOrder.extend
    cases hfind : (List.range ds.length).find? (isReady ds placed) with
    | none => exact h
    | some i => exact ih (h.concat hfind)

/-- When as many steps were left as modules, no module is ready any more. -/
theorem IsPlacement.isReady_extend (h : IsPlacement ds placed)
    (hn : ds.length ≤ placed.length + n) (hi : i < ds.length) :
    isReady ds (LoadOrder.extend ds n placed) i = false := by
  induction n generalizing placed with
  | zero =>
    -- All places are taken, since none of them is taken twice.
    have hsub : placed ⊆ List.range ds.length := fun j hj => List.mem_range.mpr (h.lt j hj)
    have hperm : placed.Perm (List.range ds.length) := by
      apply (h.nodup.subperm hsub).perm_of_length_le
      rw [List.length_range]
      exact hn
    have hmem : i ∈ placed := hperm.mem_iff.mpr (List.mem_range.mpr hi)
    simp [LoadOrder.extend, isReady, hmem]
  | succ n ih =>
    unfold LoadOrder.extend
    cases hfind : (List.range ds.length).find? (isReady ds placed) with
    | none =>
      have hnone := List.find?_eq_none.mp hfind i (List.mem_range.mpr hi)
      exact Bool.eq_false_iff.mpr hnone
    | some j =>
      apply ih (h.concat hfind)
      rw [List.length_append, List.length_singleton]
      omega

/-- The order of a batch is a placement. -/
theorem isPlacement_order (ds : List Descriptor) : IsPlacement ds (order ds) :=
  IsPlacement.extend ⟨List.nodup_nil, fun _ hi => absurd hi List.not_mem_nil⟩ ds.length

/-- Each module of a batch is placed or left over, and none is both or either of it twice. -/
theorem perm_order_cyclic (ds : List Descriptor) :
    (order ds ++ cyclic ds).Perm (List.range ds.length) := by
  have hplaced : (order ds).Perm ((List.range ds.length).filter (order ds).contains) := by
    rw [List.perm_ext_iff_of_nodup (isPlacement_order ds).nodup (List.nodup_range.filter _)]
    intro i
    rw [List.mem_filter, List.contains_iff_mem, List.mem_range]
    exact ⟨fun hi => ⟨(isPlacement_order ds).lt i hi, hi⟩, And.right⟩
  exact (hplaced.append_right _).trans (List.filter_append_perm ..)

/-- A module that is left over depends on another one. -/
theorem exists_dependency_cyclic (hi : i ∈ cyclic ds) :
    ∃ j ∈ dependencies ds i, j ∈ cyclic ds := by
  obtain ⟨hlt, hleft⟩ := List.mem_filter.mp hi
  have hempty : IsPlacement ds [] := ⟨List.nodup_nil, fun _ hi => absurd hi List.not_mem_nil⟩
  have hready : isReady ds (order ds) i = false :=
    hempty.isReady_extend (by simp) (List.mem_range.mp hlt)
  unfold isReady at hready
  rw [hleft, Bool.true_and, List.all_eq_false] at hready
  obtain ⟨j, hj, hnot⟩ := hready
  have hd := List.getElem?_eq_getElem (List.mem_range.mp hlt)
  obtain ⟨name, -, hname, -⟩ := exists_reference hd hj
  obtain ⟨e, he, -⟩ := names_of_holder? hname
  refine ⟨j, hj, List.mem_filter.mpr ⟨?_, ?_⟩⟩
  · exact List.mem_range.mpr (List.getElem?_eq_some_iff.mp he).1
  · rw [Bool.eq_false_iff.mpr hnot]
    rfl

end ModuleRuntime.Module.LoadOrder
