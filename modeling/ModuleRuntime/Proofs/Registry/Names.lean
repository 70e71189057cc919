import ModuleRuntime.Proofs.Registry.Change

/-!
# Names that the registry knows

The registry knows the names of the core and the ids and assemblies of the modules that it holds.
Adding a module makes its two names known and no others.
-/

set_option autoImplicit false

namespace ModuleRuntime.Module.Registry

variable {r : Registry} {d : Descriptor} {h : Handle} {isDynamic : Bool} {name : String}

/-- The name of an assembly is held by somebody iff a pending or loaded module has it. -/
theorem isSome_holderOfAssembly?_iff (r : Registry) (assembly : String) :
    (r.holderOfAssembly? assembly).isSome = true ↔
      (∃ d ∈ r.staticPending.values, d.assembly = assembly) ∨
        (∃ d ∈ r.dynamicPending.values, d.assembly = assembly) ∨
          ∃ m ∈ r.loaded.values, m.descriptor.assembly = assembly := by
  unfold holderOfAssembly?
  split
  case isTrue hs => simpa [List.any_eq_true] using Or.inl (List.any_eq_true.mp hs)
  case isFalse hs =>
    split
    case isTrue hd => simpa [List.any_eq_true] using Or.inr (Or.inl (List.any_eq_true.mp hd))
    case isFalse hd =>
      simp only [List.any_eq_true, beq_iff_eq] at hs hd
      simp [hs, hd]

/-- The id of a module is held by somebody iff a pending or loaded module has it. -/
theorem contains_eq_true_iff (r : Registry) (id : String) :
    r.contains id = true ↔
      id ∈ r.staticPending.keys ∨ id ∈ r.dynamicPending.keys ∨ id ∈ r.loaded.keys := by
  rw [← Bool.not_eq_false, contains_eq_false_iff]
  grind

/-- Adding a module makes its names known, and no others. -/
theorem knows_add (hd : r.contains d.id = false) (name : String) :
    (r.add d isDynamic h).knows name = true ↔ r.knows name = true ∨ name ∈ d.names := by
  obtain ⟨-, -, hid⟩ := (contains_eq_false_iff r d.id).mp hd
  have hkeys : (r.add d isDynamic h).loaded.keys = r.loaded.keys ++ [d.id] := by
    show (r.loaded.put d.id _).keys = _
    rw [Dictionary.keys_put, if_neg hid]
  have hvalues : (r.add d isDynamic h).loaded.values = r.loaded.values ++ [⟨d, h, isDynamic⟩] :=
    values_add hid
  have hcore : (r.add d isDynamic h).isCore name = r.isCore name := rfl
  have hstatic : (r.add d isDynamic h).staticPending = r.staticPending := rfl
  have hdynamic : (r.add d isDynamic h).dynamicPending = r.dynamicPending := rfl
  simp only [knows, Bool.or_eq_true, contains_eq_true_iff, isSome_holderOfAssembly?_iff, hkeys,
    hvalues, hcore, hstatic, hdynamic, List.mem_append, Descriptor.names, List.mem_cons,
    List.not_mem_nil, or_false, or_and_right, exists_or, exists_eq_left]
  grind

end ModuleRuntime.Module.Registry
